import Goodput.Http.RequestHead
/-!
# Body framing

The header fields of a request say where its body ends: after a number of bytes, or after a last chunk of
size zero. `Framing.take` takes the body off the bytes that have come. It gives the data in the pieces in
which the bytes yield it, and what came of the body: it may be whole, it may be broken, or more bytes may
be needed.
-/

namespace Goodput.Http

/-- How the end of a body is found. -/
inductive Framing where
  /-- After so many bytes. -/
  | length (n : Nat)
  /-- After the last chunk. -/
  | chunked
deriving Repr, DecidableEq, Inhabited

/-- What came of a body. -/
inductive BodyEnd where
  /-- All of it came; these bytes follow. After trailer fields nothing more is read. -/
  | whole (trailers : Bool) (rest : ByteText)
  /-- More bytes are needed. -/
  | missing
  /-- The bytes make no body. -/
  | broken
deriving Repr, DecidableEq, Inhabited

/-- A body as far as it came. -/
structure BodyBytes where
  /-- The sizes of the pieces of data, none of them zero. -/
  pieces : List Nat
  ending : BodyEnd
deriving Repr, DecidableEq, Inhabited

namespace Framing

/-- The bytes of a body cannot be more than this. -/
def maxLength : Nat := 18446744073709551613

/-- Numbers from the wire are below this. -/
def numberBound : Nat := 18446744073709551616

/-- The length that the fields of one name give, all of them the same. -/
def statedLength (values : List ByteText) : Except HeadFault (Option Nat) :=
  match values.map (Decimal.parse? numberBound) with
  | [] => .ok none
  | none :: _ => .error .malformed
  | some n :: others =>
    if maxLength < n then .error .tooLarge
    else if others.all (· == some n) then .ok (some n)
    else .error .malformed

/-- The last coding of a list of transfer codings is the chunked one. -/
def endsChunked (codings : List ByteText) : Bool :=
  match codings.getLast? with
  | none => false
  | some coding => Text.sameIgnoringCase coding "chunked".toList

/-- The fields up to the first of a name. -/
def fieldsBefore (name : String) (fields : List HeaderField) : List HeaderField :=
  fields.takeWhile fun f => !f.isNamed name

/-- How the body of a request ends. A transfer coding overrides a length, and lengths behind it do not
count. Without either there is no body. -/
def ofHead (h : RequestHead) : Except HeadFault Framing :=
  let codings := h.listed "transfer-encoding"
  if codings.isEmpty then
    (statedLength (fieldValues "content-length" h.fields)).map fun n => .length (n.getD 0)
  else
    match statedLength (fieldValues "content-length" (fieldsBefore "transfer-encoding" h.fields)) with
    | .error fault => .error fault
    | .ok _ =>
      if h.version == .http11 && (codings.getLast?.any endsChunked) then .ok .chunked else .error .malformed

/-! ## Chunks -/

/-- The most bytes that the extensions of all chunks may have together. -/
def maxExtensions : Nat := 16384

/-- What is still to be read of a chunked body. -/
inductive ChunkState where
  /-- The first digit of a size. -/
  | start
  /-- The rest of a size. -/
  | size (n : Nat)
  /-- Blanks behind a size. -/
  | blanks (n : Nat)
  /-- The extensions behind a size. -/
  | extension (n : Nat)
  /-- The line feed behind a size. -/
  | sizeEnd (n : Nat)
  /-- So many bytes of data, of which some were read. -/
  | data (left got : Nat)
  /-- The line end behind data. -/
  | dataReturn
  | dataEnd
  /-- The line behind the last chunk, with the trailer fields so far. -/
  | lineStart (trailers : ByteText)
  | trailer (trailers : ByteText)
  | trailerEnd (trailers : ByteText)
  /-- The line feed of the empty line. -/
  | finish (trailers : ByteText)
deriving Repr, DecidableEq, Inhabited

/-- What one more byte makes of a chunked body. -/
inductive ChunkStep where
  | goesOn (state : ChunkState)
  /-- The byte completes a piece of data of this size. -/
  | piece (n : Nat)
  | done (trailers : ByteText)
  | broken
deriving Repr, DecidableEq, Inhabited

namespace ChunkState

/-- What may follow a size. -/
def afterSize (n : Nat) (c : Char) : ChunkStep :=
  match c with
  | ' ' | '\t' => .goesOn (.blanks n)
  | ';' => .goesOn (.extension n)
  | '\r' => .goesOn (.sizeEnd n)
  | _ => .broken

/-- A state that one character leads on from. -/
def expecting (c stop : Char) (next : ChunkState) : ChunkStep :=
  if c = stop then .goesOn next else .broken

/-- Read one more byte. -/
def step (s : ChunkState) (c : Char) : ChunkStep :=
  match s with
  | .start =>
    match Decimal.hexValue? c with
    | some d => .goesOn (.size d)
    | none => .broken
  | .size n =>
    match Decimal.hexValue? c with
    | some d => if n * 16 + d < numberBound then .goesOn (.size (n * 16 + d)) else .broken
    | none => afterSize n c
  | .blanks n => afterSize n c
  | .extension n =>
    if c = '\r' then .goesOn (.sizeEnd n) else if c = '\n' then .broken else .goesOn (.extension n)
  | .sizeEnd n =>
    if c = '\n' then .goesOn (if n = 0 then .lineStart [] else .data n 0) else .broken
  | .data left got => if left ≤ 1 then .piece (got + 1) else .goesOn (.data (left - 1) (got + 1))
  | .dataReturn => expecting c '\r' .dataEnd
  | .dataEnd => expecting c '\n' .start
  | .lineStart trailers =>
    .goesOn (if c = '\r' then .finish trailers else .trailer (trailers ++ [c]))
  | .trailer trailers =>
    .goesOn (if c = '\r' then .trailerEnd (trailers ++ [c]) else .trailer (trailers ++ [c]))
  | .trailerEnd trailers => expecting c '\n' (.lineStart (trailers ++ [c]))
  | .finish trailers => if c = '\n' then .done trailers else .broken

/-- The data that came of a piece that is not whole. -/
def started : ChunkState → List Nat
  | .data _ (n + 1) => [n + 1]
  | _ => []

/-- The bytes of extensions that a step passes over. -/
def extensionBytes : ChunkState → ChunkStep → Nat
  | .extension _, .goesOn (.extension _) => 1
  | _, _ => 0

end ChunkState

/-- The lines behind the last chunk are header fields. -/
def areTrailers (trailers : ByteText) : Bool :=
  match RequestHead.fieldLines RequestHead.maxFields (trailers ++ "\r\n".toList) with
  | .got _ _ => true
  | _ => false

/-- Take a chunked body off the front of some bytes. The number is what may still come of extensions. -/
def takeChunks : ChunkState → Nat → ByteText → BodyBytes
  | s, _, [] => ⟨s.started, .missing⟩
  | s, room, c :: rest =>
    let step := s.step c
    if room < s.extensionBytes step + 1 then ⟨[], .broken⟩
    else
      let room := room - s.extensionBytes step
      match step with
      | .goesOn s => takeChunks s room rest
      | .piece n =>
        let body := takeChunks .dataReturn room rest
        { body with pieces := n :: body.pieces }
      | .done trailers =>
        if trailers.isEmpty then ⟨[], .whole false rest⟩
        else if areTrailers trailers then ⟨[], .whole true rest⟩
        else ⟨[], .broken⟩
      | .broken => ⟨[], .broken⟩

/-- A piece of data, if it is not empty. -/
def piece (n : Nat) : List Nat := if n = 0 then [] else [n]

/-- Take a body off the front of some bytes. -/
def take (f : Framing) (t : ByteText) : BodyBytes :=
  match f with
  | .chunked => takeChunks .start maxExtensions t
  | .length n =>
    let got := (t.take n).length
    ⟨piece got, if got = n then .whole false (t.drop n) else .missing⟩

/-- What is left of a body can be passed over, so that the connection goes on behind it: it is whole, and
at most one more look at the bytes reaches its end. -/
def canSkip (f : Framing) (unread : Nat) : Bool :=
  match f with
  | .chunked => unread == 0
  | .length _ => true

end Framing

end Goodput.Http
