import Goodput.Endpoint
import Goodput.Http.Request
import Goodput.Http.Response
import Goodput.Payload
/-!
# Downloads

A download names a size and may ask for one range of it. `Download.accept` decides what is served; the
accepted download fixes the head of the answer, the request event and the body. `DownloadBody` is the
body while it is read: a bounded source under a meter, which hands out frames of at most one chunk and
reports the transfer when it is closed, wherever the reader stopped.
-/

namespace Goodput.Http

/-- A download that is being served. -/
structure Download where
  size : Nat
  range : Option ByteRange
  protocol : Protocol
  conn : Conn
deriving Repr, DecidableEq, Inhabited

/-- The range that a `Range` header asks for. A value that is no visible text or malformed is ignored,
so that the whole resource is served. -/
def requestedRange (size : Nat) (value : Option ByteText) : Except ApiError (Option ByteRange) :=
  match value.bind HeaderField.visibleText? with
  | none => .ok none
  | some text =>
    match ByteRange.parseRange text size with
    | .ok range => .ok (some range)
    | .error (.unsatisfiable total) => .error (.unsatisfiable total)
    | .error (.malformed _) => .ok none

namespace Download

/-- Decide on a download from the text of its size and its `Range` header. -/
def accept (limit : Option Nat) (protocol : Protocol) (conn : Conn) (sizeText : String)
    (range : Option ByteText) : Except ApiError Download :=
  match Size.validate limit sizeText with
  | .error e => .error (.size e)
  | .ok size =>
    match requestedRange size range with
    | .error e => .error e
    | .ok range => .ok ⟨size, range, protocol, conn⟩

def length (d : Download) : Nat :=
  match d.range with
  | none => d.size
  | some range => range.len

def tag (d : Download) : TransferTag := ⟨⟨.bytes d.size, .download, d.protocol⟩, d.range, d.conn⟩

/-- The head of the answer: a range is partial content and names itself. -/
def head (d : Download) : Head :=
  let base := [("content-type", "application/octet-stream"), ("content-length", toString d.length),
    ("accept-ranges", "bytes")]
  match d.range with
  | none => ⟨200, base⟩
  | some range => ⟨206, base ++ [("content-range", range.contentRange d.size)]⟩

end Download

/-- The body of a download while it is read. -/
structure DownloadBody where
  source : BoundedPayload
  meter : Meter TransferTag
deriving Repr, DecidableEq, Inhabited

namespace DownloadBody

/-- The body of an accepted download, with nothing read yet. -/
def ofDownload (d : Download) : DownloadBody := ⟨⟨d.length⟩, d.tag.meter⟩

/-- Read the next frame: its length, or nothing at the end. -/
def next (now : Instant) (b : DownloadBody) : Option Nat × DownloadBody :=
  let n := b.source.given Payload.chunkSize
  let b := ⟨b.source.after Payload.chunkSize, b.meter.add now n⟩
  if n = 0 then (none, b) else (some n, b)

/-- Read at most so many frames: their lengths, and the body afterwards. -/
def read (now : Instant) : Nat → DownloadBody → List Nat × DownloadBody
  | 0, b => ([], b)
  | k + 1, b =>
    match b.next now with
    | (none, b) => ([], b)
    | (some n, b) =>
      let (frames, b) := read now k b
      (n :: frames, b)

/-- The number of reads that certainly reach the end. -/
def readsToEnd (b : DownloadBody) : Nat := b.source.remaining / Payload.chunkSize + 2

/-- The events of closing the body, whether it was read to the end or not. -/
def close (now : Instant) (b : DownloadBody) : List Event := reportEvents (b.meter.dispose now)

end DownloadBody

end Goodput.Http
