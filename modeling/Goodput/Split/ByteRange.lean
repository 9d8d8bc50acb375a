import Goodput.Text.Decimal
/-!
# Byte ranges

A byte range is the contiguous piece `[start, start + len)` of a resource. Headers name it by its
first and its last byte, both inclusive: `rangeHeader` is the form in which a client asks for it,
`contentRange` the form in which either side announces it together with the size of the whole.
-/

namespace Goodput

/-- The bytes at the offsets `start, …, start + len - 1`. -/
structure ByteRange where
  start : Nat
  len : Nat
deriving Repr, DecidableEq, Inhabited

namespace ByteRange

/-- The offset of the last byte; of an empty range its start. -/
def last (r : ByteRange) : Nat := r.start + (r.len - 1)

/-- The range of the offsets `first, …, last`. -/
def ofEnds (first last : Nat) : ByteRange := ⟨first, last - first + 1⟩

/-- The first and the last offset with a dash between them. -/
def ends (r : ByteRange) : List Char := Decimal.digits r.start ++ ['-'] ++ Decimal.digits r.last

/-- The value of a `Range` request header. -/
def rangeHeader (r : ByteRange) : String := String.ofList ("bytes=".toList ++ r.ends)

/-- The value of a `Content-Range` header for a resource of `total` bytes. -/
def contentRange (r : ByteRange) (total : Nat) : String :=
  String.ofList ("bytes ".toList ++ r.ends ++ ['/'] ++ Decimal.digits total)

/-- The range as log lines show it: start and length. -/
def text (r : ByteRange) : String := s!"{r.start}+{r.len}"

end ByteRange

end Goodput
