import Goodput.Text.Blank
import Goodput.Text.ByteText
/-!
# Header fields

A header field has a name, whose case does not matter, and a value, which is a text only if all of it is
visible ASCII, blanks or tabs.
-/

namespace Goodput.Http

/-- A visible ASCII character, a blank or a tab. -/
def isVisible (c : Char) : Bool := c == '\t' || (decide (' ' ≤ c) && decide (c ≤ '~'))

structure HeaderField where
  name : String
  value : ByteText
deriving Repr, DecidableEq, Inhabited

namespace HeaderField

/-- The text of a value, if it is all visible. -/
def visibleText? (value : ByteText) : Option String :=
  if value.all isVisible then some (String.ofList value) else none

/-- The field has this name, up to the case of ASCII letters. -/
def isNamed (name : String) (f : HeaderField) : Bool :=
  Text.sameIgnoringCase f.name.toList name.toList

end HeaderField

/-- The values of all fields of one name, in order. -/
def fieldValues (name : String) (fields : List HeaderField) : List ByteText :=
  (fields.filter (·.isNamed name)).map (·.value)

def fieldValue? (name : String) (fields : List HeaderField) : Option ByteText :=
  (fieldValues name fields).head?

end Goodput.Http
