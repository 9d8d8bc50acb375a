import Goodput.Endpoint
import Goodput.Http.Body
import Goodput.Http.Response
/-!
# Uploads

An upload declares a size and may announce which range of it the body carries. The body is read and
thrown away, but never past the announced length: what lies behind it, be it data or a failure, has no
effect.
-/

namespace Goodput.Http

/-- An upload that is being received. -/
structure Upload where
  size : Nat
  range : Option ByteRange
  protocol : Protocol
  conn : Conn
deriving Repr, DecidableEq, Inhabited

/-- The range that a `Content-Range` header announces. -/
def announcedRange (size : Nat) : Option ByteText → Except ApiError (Option ByteRange)
  | none => .ok none
  | some value =>
    match HeaderField.visibleText? value with
    | none => .error (.contentRange (.malformed "<non-ascii>"))
    | some text =>
      match ByteRange.parseContentRange text size with
      | .ok range => .ok (some range)
      | .error e => .error (.contentRange e)

namespace Upload

/-- Decide on an upload from the text of its size and its `Content-Range` header. -/
def accept (limit : Option Nat) (protocol : Protocol) (conn : Conn) (sizeText : String)
    (contentRange : Option ByteText) : Except ApiError Upload :=
  match Size.validate limit sizeText with
  | .error e => .error (.size e)
  | .ok size =>
    match announcedRange size contentRange with
    | .error e => .error e
    | .ok range => .ok ⟨size, range, protocol, conn⟩

def length (u : Upload) : Nat :=
  match u.range with
  | none => u.size
  | some range => range.len

def tag (u : Upload) : TransferTag := ⟨⟨.bytes u.size, .upload, u.protocol⟩, u.range, u.conn⟩

end Upload

/-- What came of an upload: the failure if its body broke, and the events. -/
structure Received where
  failure : Option String
  /-- The bytes counted when the upload ended. -/
  bytes : Nat
  events : List Event
deriving Repr, DecidableEq, Inhabited

/-- Receive the body of an accepted upload. -/
def Upload.receive (now : Instant) (u : Upload) (body : List BodyPart) : Received :=
  let (meter, failure) := (BoundedBody.mk (.start body) u.length).drain now u.tag.meter
  ⟨failure, meter.bytes, u.tag.received :: reportEvents (meter.dispose now)⟩

/-- The head of the answer to an upload: no content, or a refusal if the body broke. -/
def Received.head (r : Received) : Head :=
  match r.failure with
  | none => .empty 204
  | some message => .ofError (.body message)

end Goodput.Http
