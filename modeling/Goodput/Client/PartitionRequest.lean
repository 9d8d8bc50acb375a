import Goodput.Http.Request
import Goodput.Payload
import Goodput.Split.Partition
/-!
# Requests for partitions

Each partition of a split transfer is one request. A partition that is the whole transfer goes out
without range headers, exactly like a transfer that is not split; any other names its range. The status
that a good answer has follows from that.
-/

namespace Goodput.Client

/-- The path of a transfer of `total` bytes. -/
def transferPath (total : Nat) : ByteText := "/api/".toList ++ Decimal.digits total

/-- The lengths of the pieces in which a payload of so many bytes is sent. The first number bounds the
pieces. -/
def payloadPieces : Nat → BoundedPayload → List Nat
  | 0, _ => []
  | k + 1, p =>
    let n := p.given Payload.chunkSize
    if n = 0 then [] else n :: payloadPieces k (p.after Payload.chunkSize)

def uploadBody (len : Nat) : List Http.BodyPart :=
  (payloadPieces (len / Payload.chunkSize + 1) ⟨len⟩).map .data

/-- The header fields of the request for a partition. -/
def partitionFields (direction : Direction) (p : Partition) : List Http.HeaderField :=
  match direction with
  | .download => if p.isWhole then [] else [⟨"range", p.range.rangeHeader.toList⟩]
  | .upload =>
    [⟨"content-type", "application/octet-stream".toList⟩, ⟨"content-length", Decimal.digits p.len⟩]
      ++ if p.isWhole then [] else [⟨"content-range", (p.range.contentRange p.parent).toList⟩]

/-- The request for a partition at a path, with a body. -/
def partitionRequest (path : ByteText) (direction : Direction) (p : Partition) (body : List Http.BodyPart) :
    Http.Request where
  method := match direction with
    | .download => "GET"
    | .upload => "PUT"
  target := .ofText path
  version := .http2
  fields := partitionFields direction p
  body := body

def partitionBody (direction : Direction) (p : Partition) : List Http.BodyPart :=
  match direction with
  | .download => []
  | .upload => uploadBody p.len

/-- The status of a good answer to the request for a partition. -/
def expectedStatus (direction : Direction) (p : Partition) : Nat :=
  match direction with
  | .upload => 204
  | .download => if p.isWhole then 200 else 206

end Goodput.Client
