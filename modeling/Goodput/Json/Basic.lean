/-!
# JSON values

The value type behind every JSON text that is written or read here. Two points differ from a plain
tree. A number is kept as the literal that spells it, because most readers only need to know whether
it is an integer that fits. A string may denote no text at all: an escape can spell half of a surrogate
pair, which is valid JSON but no character.
-/

namespace Goodput

inductive Json where
  | null
  | bool (b : Bool)
  /-- A number, as the literal that spells it. -/
  | number (literal : List Char)
  /-- A string; it has no text if it spells half of a surrogate pair. -/
  | string (text? : Option String)
  | array (items : List Json)
  | object (members : List (Option String × Json))
deriving Inhabited

namespace Json

def text (s : String) : Json := .string (some s)

def nat (n : Nat) : Json := .number (Nat.toDigits 10 n)

def int : Int → Json
  | .ofNat n => nat n
  | .negSucc n => .number ('-' :: Nat.toDigits 10 (n + 1))

/-- The object with these members in this order. -/
def ofMembers (members : List (String × Json)) : Json :=
  .object (members.map fun (name, value) => (some name, value))

/-- The member of a value, unless it is missing: an object leaves such members out. -/
def optional (name : String) : Option Json → List (String × Json)
  | none => []
  | some value => [(name, value)]

end Json

end Goodput
