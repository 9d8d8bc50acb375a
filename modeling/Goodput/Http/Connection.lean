import Goodput.Http.Framing
import Goodput.Http.Upgrade
import Goodput.Ndt7.Visit
import Goodput.Server.Lease
/-!
# Connections on the wire

`Conversation.ofBytes` is what a server makes of all the bytes that a client sends over one connection:
the heads of its answers, the events, and whether the connection ended with an error. Requests are
answered one after another as long as the connection is kept open.

How the bytes end matters for a request that is not complete. A client that closed its side will send
nothing more, so the request is broken. If instead the server shuts down, it waits no longer and drops
the request without an answer.
-/

namespace Goodput.Http

/-- Why no more bytes come from a client. -/
inductive Supply where
  /-- The client closed its side. -/
  | closed
  /-- The server shuts down. -/
  | halted
deriving Repr, DecidableEq, Inhabited

/-- What a server made of a connection. -/
structure Conversation where
  heads : List Head
  events : List Event
  /-- The connection ended with an error. -/
  failed : Bool
deriving Repr, DecidableEq, Inhabited

/-- The bytes with which a client begins to speak HTTP/2. -/
def http2Preface : ByteText := "PRI * HTTP/2.0\r\n\r\nSM\r\n\r\n".toList

/-- The go-ahead for a body. -/
def continueHead : Head := ⟨100, []⟩

/-- The head of a reply as it is sent: every status but 204 states the length of its content, also where
that is nothing, except that a request for the head alone is not told of an implied zero. -/
def Reply.sentHead (method : String) (r : Reply) : Head :=
  if r.head.status = 204 then { r.head with fields := r.head.fields.filter fun f => f.1 != "content-length" }
  else if (r.head.field? "content-length").isSome || method = "HEAD" then r.head
  else r.head.extend [("content-length", "0")]

namespace Conversation

/-- Nothing was said. -/
def silent : Conversation := ⟨[], [], false⟩

def append (a b : Conversation) : Conversation := ⟨a.heads ++ b.heads, a.events ++ b.events, b.failed⟩

/-- The end of a connection by a fault in a head. -/
def ofFault (fault : HeadFault) : Conversation := ⟨[.empty fault.status], [], true⟩

/-- The text of the failure of a body that does not come to its end. -/
def bodyCutShort : String := "connection closed before the body was complete"

/-- The text of the failure of a body that is no body. -/
def bodyMalformed : String := "malformed body"

/-- A body as the handler of its request sees it. -/
def bodyParts (supply : Supply) (body : BodyBytes) : List BodyPart :=
  body.pieces.map .data ++
    match body.ending, supply with
    | .whole _ _, _ => []
    | .broken, _ => [.broken bodyMalformed]
    | .missing, .closed => [.broken bodyCutShort]
    | .missing, .halted => []

/-- The number of pieces that are not read when so many bytes are asked for. -/
def unread : Nat → List Nat → Nat
  | 0, pieces => pieces.length
  | _, [] => 0
  | wanted + 1, piece :: pieces => unread (wanted + 1 - piece) pieces

/-- The handler of a request waits for bytes that will not come. -/
def isStalled (supply : Supply) (wanted : Nat) (body : BodyBytes) : Bool :=
  supply == .halted && body.ending == .missing && decide (body.pieces.foldr (· + ·) 0 < wanted)

/-- The bytes behind a request, if the connection goes on with them. -/
def next? (framing : Framing) (keepsOpen : Bool) (wanted : Nat) (body : BodyBytes) : Option ByteText :=
  match body.ending with
  | .whole false rest => if keepsOpen && framing.canSkip (unread wanted body.pieces) then some rest else none
  | _ => none

/-- The log of a session whose client takes no part in it. -/
def sessionLog (window : Span) (conn : Conn) (now : Instant) : Direction → List Event
  | .download => (Ndt7.Visit.silent.download window conn "" now).session.log
  | .upload => (Ndt7.Visit.silent.upload window conn now).session.log

/-- The go-ahead is sent once the handler asks for a body that the client holds back. -/
def goAhead (head : RequestHead) (framing : Framing) (wanted : Nat) : List Head :=
  if head.expectsContinue && framing != .length 0 && wanted != 0 then [continueHead] else []

/-- Answer one request: what is said, and the bytes behind it if the connection goes on. -/
def exchange (settings : Server.Settings) (now : Instant) (conn : Conn) (supply : Supply)
    (head : RequestHead) (framing : Framing) (rest : ByteText) : Conversation × Option ByteText :=
  let body := framing.take rest
  let req := head.withBody (bodyParts supply body)
  let wanted := bodyWanted settings conn req
  let early := goAhead head framing wanted
  match App.answerAttached settings now conn req with
  | .ok direction =>
    (⟨early ++ [upgradeHead], sessionLog settings.ndt7Window conn now direction, false⟩, none)
  | .error reply =>
    let delivery := reply.deliver now none
    if isStalled supply wanted body then (⟨early, delivery.events, false⟩, none)
    else
      (⟨early ++ [reply.sentHead head.method], delivery.events, false⟩,
        next? framing head.keepsOpen wanted body)

/-- The end of a connection on which no further head can be read: empty lines are nothing, but the
beginning of a head is an error once the client has closed its side. -/
def atEnd (supply : Supply) (t : ByteText) : Conversation :=
  ⟨[], [], supply == .closed && t.any fun c => c != '\r' && c != '\n'⟩

/-- Answer the requests in some bytes, of which the first head was read. The number bounds the requests. -/
def ofRequests (settings : Server.Settings) (now : Instant) (conn : Conn) (supply : Supply) :
    Nat → Reading RequestHead → ByteText → Conversation
  | _, .incomplete, t => atEnd supply t
  | _, .refused fault, t =>
    let t := t.dropWhile fun c => c == '\r' || c == '\n'
    if http2Preface.isPrefixOf t then ⟨[], [], true⟩ else ofFault fault
  | 0, .got _ _, _ => silent
  | k + 1, .got head rest, _ =>
    match Framing.ofHead head with
    | .error fault => ofFault fault
    | .ok framing =>
      match exchange settings now conn supply head framing rest with
      | (said, none) => said
      | (said, some t) => said.append (ofRequests settings now conn supply k (RequestHead.read t) t)

/-- What a server makes of all the bytes of a client. A client that begins like one of HTTP/2 is not
answered here; as long as it may be one when the server shuts down, that is an error. -/
def ofBytes (settings : Server.Settings) (now : Instant) (conn : Conn) (supply : Supply) (t : ByteText) :
    Conversation :=
  if http2Preface.isPrefixOf t then silent
  else if supply == .halted && t.isPrefixOf http2Preface then ⟨[], [], true⟩
  else
    ofRequests settings now conn supply t.length (RequestHead.readOpening http2Preface.length t) t

def errorText : String := "connection error"

/-- The events of a whole connection, from its opening to its end. -/
def log (now : Instant) (conn : Conn) (events : List Event) (failed : Bool) : List Event :=
  let lease := Server.Lease.ofConn now conn
  lease.opened :: events ++ (if failed then [.connError conn errorText] else []) ++ (lease.release now).1

end Conversation

end Goodput.Http
