import Goodput.Json.Basic
import Goodput.Text.Decimal
/-!
# Reading JSON

`Json.parse?` accepts exactly the JSON texts: one value, with blanks, line ends and tabs allowed around
its parts. Readers take the text from the left and return what is left of it.

Values nest, so the readers of values, items and members call each other. Each call counts its steps
down; no two calls in a row read nothing, so twice the length of the text is more than any text needs.
-/

namespace Goodput.Json

/-- The blanks that JSON allows between the parts of a value. -/
def isBlank (c : Char) : Bool := c == ' ' || c == '\n' || c == '\t' || c == '\r'

/-- The text from its first character on that is not blank. -/
def skipBlanks (cs : List Char) : List Char := cs.dropWhile isBlank

/-! ## Strings -/

/-- The number of four hexadecimal digits. -/
def hex4? (a b c d : Char) : Option Nat := do
  let a ← Decimal.hexValue? a
  let b ← Decimal.hexValue? b
  let c ← Decimal.hexValue? c
  let d ← Decimal.hexValue? d
  pure (((a * 16 + b) * 16 + c) * 16 + d)

/-- The character that a one-letter escape stands for. -/
def shortEscape? (c : Char) : Option Char :=
  if c = '"' ∨ c = '\\' ∨ c = '/' then some c
  else if c = 'b' then some '\x08'
  else if c = 'f' then some '\x0c'
  else if c = 'n' then some '\n'
  else if c = 'r' then some '\r'
  else if c = 't' then some '\t'
  else none

/-- The code points of a string up to its closing quote, and what follows. Escapes may spell
surrogates, which are kept as they are. -/
def stringPoints? : List Char → Option (List Nat × List Char)
  | [] => none
  | '"' :: cs => some ([], cs)
  | '\\' :: 'u' :: a :: b :: c :: d :: cs => do
    let n ← hex4? a b c d
    let (ns, rest) ← stringPoints? cs
    pure (n :: ns, rest)
  | '\\' :: e :: cs => do
    let c ← shortEscape? e
    let (ns, rest) ← stringPoints? cs
    pure (c.toNat :: ns, rest)
  | c :: cs =>
    if c.toNat < 32 then none
    else do
      let (ns, rest) ← stringPoints? cs
      pure (c.toNat :: ns, rest)

/-- The first half of a surrogate pair. -/
def isHighSurrogate (n : Nat) : Bool := decide (0xd800 ≤ n) && decide (n ≤ 0xdbff)

/-- The second half of a surrogate pair. -/
def isLowSurrogate (n : Nat) : Bool := decide (0xdc00 ≤ n) && decide (n ≤ 0xdfff)

/-- The characters of code points, where a surrogate pair is one character. -/
def joinSurrogates? : List Nat → Option (List Char)
  | [] => some []
  | n :: ns =>
    if isHighSurrogate n then
      match ns with
      | [] => none
      | m :: ms =>
        if isLowSurrogate m then
          (joinSurrogates? ms).map (Char.ofNat (0x10000 + (n - 0xd800) * 0x400 + (m - 0xdc00)) :: ·)
        else none
    else if isLowSurrogate n then none
    else (joinSurrogates? ns).map (Char.ofNat n :: ·)

/-- A string after its opening quote. -/
def string? (cs : List Char) : Option (Option String × List Char) :=
  (stringPoints? cs).map fun (points, rest) => ((joinSurrogates? points).map String.ofList, rest)

/-! ## Numbers -/

/-- A character that can stand in a number. -/
def isNumberChar (c : Char) : Bool :=
  Decimal.isDigit c || c == '-' || c == '+' || c == '.' || c == 'e' || c == 'E'

/-- An exponent after its letter: digits, with a sign or without. -/
def isExponent : List Char → Bool
  | '+' :: cs => Decimal.isNumeral cs
  | '-' :: cs => Decimal.isNumeral cs
  | cs => Decimal.isNumeral cs

/-- Nothing, or an exponent with its letter. -/
def isExponentPart : List Char → Bool
  | [] => true
  | c :: cs => (c == 'e' || c == 'E') && isExponent cs

/-- What may follow the whole part of a number: a fraction and an exponent, each optional. -/
def isFractionPart : List Char → Bool
  | '.' :: cs =>
    !(cs.takeWhile Decimal.isDigit).isEmpty && isExponentPart (cs.dropWhile Decimal.isDigit)
  | cs => isExponentPart cs

/-- A number without its sign: the whole part has no zero in front of another digit. -/
def isMagnitude (cs : List Char) : Bool :=
  match cs.takeWhile Decimal.isDigit with
  | [] => false
  | '0' :: _ :: _ => false
  | _ => isFractionPart (cs.dropWhile Decimal.isDigit)

def isNumber : List Char → Bool
  | '-' :: cs => isMagnitude cs
  | cs => isMagnitude cs

/-- The integer that a number literal spells without fraction and exponent. Minus zero is none: it
denotes a floating-point value. -/
def integer? : List Char → Option Int
  | '-' :: cs =>
    if Decimal.isNumeral cs && decide (0 < Decimal.value cs) then some (-(Decimal.value cs : Int)) else none
  | cs => if Decimal.isNumeral cs then some (Decimal.value cs) else none

/-! ## Values -/

/-- What follows a text, if the other text begins with it. -/
def after? (word cs : List Char) : Option (List Char) :=
  if word.isPrefixOf cs then some (cs.drop word.length) else none

mutual

/-- A value and what follows it. -/
def value? : Nat → List Char → Option (Json × List Char)
  | 0, _ => none
  | steps + 1, cs =>
    match skipBlanks cs with
    | [] => none
    | 'n' :: cs => (after? "ull".toList cs).map fun rest => (.null, rest)
    | 't' :: cs => (after? "rue".toList cs).map fun rest => (.bool true, rest)
    | 'f' :: cs => (after? "alse".toList cs).map fun rest => (.bool false, rest)
    | '"' :: cs => (string? cs).map fun (s, rest) => (.string s, rest)
    | '[' :: cs =>
      match skipBlanks cs with
      | ']' :: rest => some (.array [], rest)
      | cs => (items? steps cs).map fun (vs, rest) => (.array vs, rest)
    | '\x7b' :: cs =>
      match skipBlanks cs with
      | '\x7d' :: rest => some (.object [], rest)
      | cs => (members? steps cs).map fun (ms, rest) => (.object ms, rest)
    | cs =>
      let literal := cs.takeWhile isNumberChar
      if isNumber literal then some (.number literal, cs.dropWhile isNumberChar) else none

/-- At least one item of an array, up to the closing bracket, and what follows. -/
def items? : Nat → List Char → Option (List Json × List Char)
  | 0, _ => none
  | steps + 1, cs =>
    match value? steps cs with
    | none => none
    | some (v, rest) =>
      match skipBlanks rest with
      | ']' :: rest => some ([v], rest)
      | ',' :: rest => (items? steps rest).map fun (vs, rest) => (v :: vs, rest)
      | _ => none

/-- At least one member of an object, up to the closing brace, and what follows. -/
def members? : Nat → List Char → Option (List (Option String × Json) × List Char)
  | 0, _ => none
  | steps + 1, cs =>
    match skipBlanks cs with
    | '"' :: body =>
      match string? body with
      | none => none
      | some (name, rest) =>
        match skipBlanks rest with
        | ':' :: rest =>
          match value? steps rest with
          | none => none
          | some (v, rest) =>
            match skipBlanks rest with
            | '\x7d' :: rest => some ([(name, v)], rest)
            | ',' :: rest => (members? steps rest).map fun (ms, rest) => ((name, v) :: ms, rest)
            | _ => none
        | _ => none
    | _ => none

end

def parse? (s : String) : Option Json :=
  match value? (2 * s.toList.length + 1) s.toList with
  | some (v, rest) => if (skipBlanks rest).isEmpty then some v else none
  | none => none

end Goodput.Json
