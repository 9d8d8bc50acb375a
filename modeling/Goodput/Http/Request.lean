import Goodput.Conn
import Goodput.Http.Target
import Goodput.Transfer.Basic
/-!
# Requests

A request as the measurement routes see it. The content of a body does not matter, so a body is a row of
chunk lengths, which may break off with a failure of the transport.
-/

namespace Goodput.Http

inductive Version where
  | http10
  | http11
  | http2
  | http3
deriving Repr, DecidableEq, Inhabited

/-- The protocol that a transfer over this version counts as. -/
def Version.protocol : Version → Protocol
  | .http2 => .http2
  | _ => .http1

inductive BodyPart where
  /-- A chunk of this many bytes. -/
  | data (n : Nat)
  /-- The transport fails here. -/
  | broken (message : String)
deriving Repr, DecidableEq, Inhabited

/-- A request. -/
structure Request where
  method : String
  target : Target
  version : Version
  fields : List HeaderField
  body : List BodyPart
deriving Repr, DecidableEq, Inhabited

end Goodput.Http
