import Goodput.Transfer.Outcome
/-!
# Events

Everything a server reports about connections and transfers is an event. Each event has one line of
text and one structured log record, whose fields repeat the numbers of the line.
-/

namespace Goodput

/-- What a server reports. -/
inductive Event where
  /-- The handshake of a new connection is done. -/
  | connNew (conn : Conn)
  /-- A connection is gone, whichever side ended it. -/
  | connClosed (conn : Conn) (lifetime : Span)
  /-- A connection ended with a transport error. -/
  | connError (conn : Conn) (message : String)
  /-- A handshake failed, so there is no connection to name. -/
  | handshakeFailed (remote : SocketAddress) (message : String)
  | requestReceived (request : TransferRequest) (range : Option ByteRange) (conn : Conn)
  | requestDone (outcome : TransferOutcome)
  /-- A sample taken by the server during a session that runs over a window of time. -/
  | ndt7Sample (conn : Conn) (test : Direction) (bytes : Nat) (elapsed : Span) (messageSize : Nat)
deriving Repr, DecidableEq, Inhabited

namespace Event

/-- The range at the end of a line, if there is one. -/
def rangeText : Option ByteRange → String
  | none => ""
  | some range => " range=" ++ range.text

def line : Event → String
  | .connNew conn => s!"conn new conn={conn.id} remote={conn.remote.text} alpn={conn.alpn}"
  | .connClosed conn lifetime =>
    s!"conn closed conn={conn.id} remote={conn.remote.text} lifetime={lifetime.text}"
  | .connError conn message => s!"conn error conn={conn.id} remote={conn.remote.text}: {message}"
  | .handshakeFailed remote message => s!"tls handshake failed remote={remote.text}: {message}"
  | .requestReceived request range conn =>
    s!"{request.direction.text} received {request.extent.text} proto={request.protocol.text}"
      ++ s!" alpn={conn.alpn} remote={conn.remote.text} conn={conn.id}" ++ rangeText range
  | .requestDone o =>
    s!"{o.request.direction.text} done bytes={o.stats.bytes} elapsed={o.stats.elapsed.text}"
      ++ s!" remote={o.conn.remote.text} conn={o.conn.id}" ++ rangeText o.range
  | .ndt7Sample conn test bytes elapsed messageSize =>
    s!"ndt7 {test.text} sample bytes={bytes} elapsed={elapsed.text}"
      ++ s!" message_size={messageSize} conn={conn.id}"

def kind : Event → String
  | .connNew _ => "ConnNew"
  | .connClosed _ _ => "ConnClosed"
  | .connError _ _ => "ConnError"
  | .handshakeFailed _ _ => "HandshakeFailed"
  | .requestReceived _ _ _ => "RequestReceived"
  | .requestDone _ => "RequestDone"
  | .ndt7Sample _ _ _ _ _ => "Ndt7Sample"

def outcome? : Event → Option TransferOutcome
  | .requestDone o => some o
  | _ => none

/-- The outcomes of the finished transfers in a log, in the order in which they finished. -/
def completions (log : List Event) : List TransferOutcome := log.filterMap outcome?

end Event

end Goodput
