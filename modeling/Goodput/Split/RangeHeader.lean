import Goodput.Split.ByteRange
import Goodput.Text.Blank
import Goodput.Text.Quoted
/-!
# Reading range headers

`ByteRange.parseRange` reads the `Range` header of a download, `ByteRange.parseContentRange` the
`Content-Range` header of an upload. Both first read a text into what it asks for (`RangeSpec`,
`ContentSpec`) and then hold that against the size of the resource, so a text is either malformed,
whatever the size, or well formed and satisfiable or not.

A download may ask for more than there is and gets what exists; an upload must lie inside the size it
declares.
-/

namespace Goodput

/-- Why a range header gives no range. -/
inductive RangeError where
  /-- The text is not of the grammar. -/
  | malformed (text : String)
  /-- The text names no byte of a resource of this size. -/
  | unsatisfiable (size : Nat)
deriving Repr, DecidableEq

/-- The wording of a range error; a malformed text is quoted as it came. -/
def RangeError.message : RangeError → String
  | .malformed text => "malformed range " ++ Text.quote text
  | .unsatisfiable size => s!"range not satisfiable for {size} bytes"

/-- What a `Range` header asks for. -/
inductive RangeSpec where
  /-- The last `n` bytes. -/
  | suffix (n : Nat)
  /-- Everything from an offset on. -/
  | fromOffset (first : Nat)
  /-- The bytes between two offsets, both included. -/
  | between (first last : Nat)
deriving Repr, DecidableEq

namespace RangeSpec

/-- Read an offset: ASCII digits whose value fits 64 bits. -/
def offset? (cs : List Char) : Option Nat := Decimal.parse? UInt64.size cs

/-- Read what stands before and after the dash. -/
def ofEnds? (first last : List Char) : Option RangeSpec :=
  match first, last with
  | [], [] => none
  | [], last => (offset? last).map .suffix
  | first, [] => (offset? first).map .fromOffset
  | first, last =>
    match offset? first, offset? last with
    | some a, some b => if b < a then none else some (.between a b)
    | _, _ => none

/-- Read the text of a header: `bytes=` and one range. A list of ranges is not supported. -/
def parse? (cs : List Char) : Option RangeSpec :=
  match Text.dropStart? "bytes=".toList (Text.trim cs) with
  | none => none
  | some ranges =>
    if ranges.contains ',' then none
    else
      match Text.splitFirst '-' ranges with
      | none => none
      | some (first, last) => ofEnds? (Text.trim first) (Text.trim last)

/-- The bytes asked for that a resource of `size` bytes has. -/
def resolve (size : Nat) : RangeSpec → Option ByteRange
  | .suffix n => if n = 0 ∨ size = 0 then none else some (.ofEnds (size - n) (size - 1))
  | .fromOffset first => if size ≤ first then none else some (.ofEnds first (size - 1))
  | .between first last => if size ≤ first then none else some (.ofEnds first (min last (size - 1)))

end RangeSpec

/-- What a `Content-Range` header announces. -/
structure ContentSpec where
  first : Nat
  last : Nat
deriving Repr, DecidableEq

namespace ContentSpec

/-- The total after the slash is a star or the declared size. -/
def totalAgrees (size : Nat) (cs : List Char) : Bool :=
  cs == ['*'] || RangeSpec.offset? cs == some size

/-- Read the text of a header: `bytes`, a blank, two offsets and the total. -/
def parse? (size : Nat) (cs : List Char) : Option ContentSpec :=
  match Text.dropStart? "bytes ".toList (Text.trim cs) with
  | none => none
  | some body =>
    match Text.splitFirst '/' body with
    | none => none
    | some (range, total) =>
      if totalAgrees size (Text.trim total) then
        match Text.splitFirst '-' (Text.trim range) with
        | none => none
        | some (first, last) =>
          match RangeSpec.offset? (Text.trim first), RangeSpec.offset? (Text.trim last) with
          | some a, some b => some ⟨a, b⟩
          | _, _ => none
      else none

/-- The announced bytes, if they lie inside a resource of `size` bytes. -/
def resolve (size : Nat) (spec : ContentSpec) : Option ByteRange :=
  if spec.last < spec.first ∨ size ≤ spec.last then none else some (.ofEnds spec.first spec.last)

end ContentSpec

namespace ByteRange

/-- Read a `Range` header against a resource of `size` bytes. -/
def parseRange (text : String) (size : Nat) : Except RangeError ByteRange :=
  match RangeSpec.parse? text.toList with
  | none => .error (.malformed text)
  | some spec =>
    match spec.resolve size with
    | none => .error (.unsatisfiable size)
    | some r => .ok r

/-- Read a `Content-Range` header against an upload of `size` declared bytes. -/
def parseContentRange (text : String) (size : Nat) : Except RangeError ByteRange :=
  match ContentSpec.parse? size text.toList with
  | none => .error (.malformed text)
  | some spec =>
    match spec.resolve size with
    | none => .error (.unsatisfiable size)
    | some r => .ok r

end ByteRange

end Goodput
