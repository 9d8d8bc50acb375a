import Goodput.Split.ByteRange
import Goodput.Span
import Goodput.Json.Render
/-!
# Transfers

A transfer moves bytes in one direction over one application protocol. It is asked for either as an
exact number of bytes or as a window of time, and it ends with the bytes that really moved and the time
that took.
-/

namespace Goodput

/-- Which way the bytes go, seen from the client. -/
inductive Direction where
  | download
  | upload
deriving Repr, DecidableEq, Inhabited

def Direction.text : Direction → String
  | .download => "download"
  | .upload => "upload"

/-- The application protocol a transfer runs over. -/
inductive Protocol where
  | http1
  | http2
  | webSocket
deriving Repr, DecidableEq, Inhabited

/-- The protocol as log lines show it. -/
def Protocol.text : Protocol → String
  | .http1 => "HTTP/1.1"
  | .http2 => "HTTP/2.0"
  | .webSocket => "ndt7"

/-- The protocol as JSON shows it. -/
def Protocol.jsonName : Protocol → String
  | .http1 => "Http1"
  | .http2 => "Http2"
  | .webSocket => "WebSocket"

/-- How much a transfer is asked to move. -/
inductive Extent where
  /-- Exactly this many bytes. -/
  | bytes (n : Nat)
  /-- As much as goes through in this time. -/
  | window (d : Span)
deriving Repr, DecidableEq, Inhabited

/-- The extent as log lines show it. -/
def Extent.text : Extent → String
  | .bytes n => s!"size={n}"
  | .window d => "window=" ++ d.text

/-- What a transfer is asked to do. -/
structure TransferRequest where
  extent : Extent
  direction : Direction
  protocol : Protocol
deriving Repr, DecidableEq, Inhabited

/-- The numbers of a transfer: bytes moved and time taken. -/
structure TransferStats where
  bytes : Nat
  elapsed : Span
deriving Repr, DecidableEq, Inhabited

namespace TransferStats

/-- The average rate in bits a second, in binary64 arithmetic; zero if no time has passed. -/
def bitsPerSecond (s : TransferStats) : Binary64 :=
  let secs := s.elapsed.toSeconds
  if secs.significand = 0 then .zero
  else ((Binary64.ofNat s.bytes).mul (Binary64.ofNat 8)).div secs

end TransferStats

/-! ## JSON -/

/-- A length of time as whole seconds and nanoseconds. -/
def Span.toJson (d : Span) : Json :=
  .ofMembers [("secs", .nat d.secs), ("nanos", .nat d.subsecNanos)]

/-- An extent under the name of its kind. -/
def Extent.toJson : Extent → Json
  | .bytes n => .ofMembers [("Bytes", .nat n)]
  | .window d => .ofMembers [("Window", d.toJson)]

def TransferRequest.toJson (r : TransferRequest) : Json :=
  .ofMembers [("extent", r.extent.toJson), ("direction", .text r.direction.text),
    ("protocol", .text r.protocol.jsonName)]

end Goodput
