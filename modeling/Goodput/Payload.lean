/-!
# Synthetic payload

Downloads are made of one constant byte, so that producing them costs nothing. The source is endless
and hands out at most one chunk in a read; a bounded source ends after a given length. Messages are
the same bytes in one piece.
-/

namespace Goodput

namespace Payload

/-- The most bytes that a single read hands out. -/
def chunkSize : Nat := 1048576

/-- The byte that every payload consists of. -/
def fillByte : UInt8 := 0

/-- A run of payload bytes. -/
def filler (n : Nat) : List UInt8 := List.replicate n fillByte

/-- How many bytes a read into a buffer of `room` bytes gives. -/
def given (room : Nat) : Nat := min room chunkSize

/-- Read into a buffer: how many bytes were put in front, and the buffer afterwards. -/
def read (buffer : List UInt8) : Nat × List UInt8 :=
  let n := given buffer.length
  (n, filler n ++ buffer.drop n)

/-- Put chunk after chunk behind what is there until `len` bytes are; `chunks` bounds their number. -/
def assemble (len : Nat) : Nat → List UInt8 → List UInt8
  | 0, buffer => buffer
  | chunks + 1, buffer =>
    if buffer.length < len then
      assemble len chunks (buffer ++ filler (min (len - buffer.length) chunkSize))
    else buffer

/-- A message of `len` bytes. One that fits a chunk is a piece of the constant chunk; a longer one is
assembled. -/
def message (len : Nat) : List UInt8 :=
  if len ≤ chunkSize then (filler chunkSize).take len
  else assemble len (len / chunkSize + 1) []

end Payload

/-- A payload source with a number of bytes left to give. -/
structure BoundedPayload where
  remaining : Nat
deriving Repr, DecidableEq, Inhabited

namespace BoundedPayload

/-- How many bytes a read into a buffer of `room` bytes gives: the endless source is offered no more
room than there are bytes left. -/
def given (room : Nat) (p : BoundedPayload) : Nat := Payload.given (min room p.remaining)

/-- The source after a read into a buffer of `room` bytes. -/
def after (room : Nat) (p : BoundedPayload) : BoundedPayload := ⟨p.remaining - p.given room⟩

/-- Read into a buffer: how many bytes were put in front, the buffer and the source afterwards. -/
def read (buffer : List UInt8) (p : BoundedPayload) : Nat × List UInt8 × BoundedPayload :=
  let (n, front) := Payload.read (buffer.take p.remaining)
  (n, front ++ buffer.drop p.remaining, ⟨p.remaining - n⟩)

end BoundedPayload

end Goodput
