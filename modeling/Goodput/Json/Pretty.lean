import Goodput.Json.Render
/-!
# Writing JSON for people

Like the compact form, but each item and each member stands on a line of its own, two blanks deeper than
the bracket that it belongs to, and a blank follows each colon. Empty brackets stay together.
-/

namespace Goodput.Json

/-- The beginning of a line at a depth. -/
def newLine (depth : Nat) : List Char := '\n' :: List.replicate (2 * depth) ' '

mutual

/-- The text of a value at a depth. -/
def pretty (depth : Nat) : Json → List Char
  | .array [] => ['[', ']']
  | .array (v :: vs) => '[' :: (newLine (depth + 1) ++ prettyItems depth (v :: vs) ++ newLine depth ++ [']'])
  | .object [] => ['\x7b', '\x7d']
  | .object (m :: ms) =>
    '\x7b' :: (newLine (depth + 1) ++ prettyMembers depth (m :: ms) ++ newLine depth ++ ['\x7d'])
  | v => v.render

def prettyItems (depth : Nat) : List Json → List Char
  | [] => []
  | [v] => pretty (depth + 1) v
  | v :: w :: vs => pretty (depth + 1) v ++ ',' :: (newLine (depth + 1) ++ prettyItems depth (w :: vs))

def prettyMembers (depth : Nat) : List (Option String × Json) → List Char
  | [] => []
  | [(name, v)] => renderString name ++ ':' :: ' ' :: pretty (depth + 1) v
  | (name, v) :: m :: ms =>
    renderString name ++ ':' :: ' ' :: (pretty (depth + 1) v
      ++ ',' :: (newLine (depth + 1) ++ prettyMembers depth (m :: ms)))

end

/-- The text of a value on several lines. -/
def toPrettyText (v : Json) : String := String.ofList (v.pretty 0)

end Goodput.Json
