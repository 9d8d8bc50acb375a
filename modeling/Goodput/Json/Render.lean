import Goodput.Json.Basic
import Goodput.Text.Decimal
/-!
# Writing JSON

Values are written without white space. In strings the quote, the backslash and the control characters
below the space are escaped, five of the controls by their short forms; nothing else is.
-/

namespace Goodput.Json

/-- One character inside a string. -/
def escapeChar (c : Char) : List Char :=
  if c = '"' then ['\\', '"']
  else if c = '\\' then ['\\', '\\']
  else if c.toNat = 8 then ['\\', 'b']
  else if c.toNat = 12 then ['\\', 'f']
  else if c = '\n' then ['\\', 'n']
  else if c = '\r' then ['\\', 'r']
  else if c = '\t' then ['\\', 't']
  else if c.toNat < 32 then
    ['\\', 'u', '0', '0', Nat.digitChar (c.toNat / 16), Nat.digitChar (c.toNat % 16)]
  else [c]

/-- A string between quotes; one without a text is written as half of a surrogate pair. -/
def renderString : Option String → List Char
  | none => "\"\\ud800\"".toList
  | some s => '"' :: (s.toList.flatMap escapeChar ++ ['"'])

mutual

def render : Json → List Char
  | .null => "null".toList
  | .bool true => "true".toList
  | .bool false => "false".toList
  | .number literal => literal
  | .string s => renderString s
  | .array items => '[' :: (renderItems items ++ [']'])
  | .object members => '\x7b' :: (renderMembers members ++ ['\x7d'])

/-- The items of an array with commas between them. -/
def renderItems : List Json → List Char
  | [] => []
  | [v] => render v
  | v :: w :: vs => render v ++ ',' :: renderItems (w :: vs)

/-- The members of an object with commas between them. -/
def renderMembers : List (Option String × Json) → List Char
  | [] => []
  | [(name, v)] => renderString name ++ ':' :: render v
  | (name, v) :: m :: ms => renderString name ++ ':' :: (render v ++ ',' :: renderMembers (m :: ms))

end

def toText (v : Json) : String := String.ofList v.render

end Goodput.Json
