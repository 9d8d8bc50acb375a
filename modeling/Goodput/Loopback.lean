import Goodput.Client.SplitRun
import Goodput.Http.App
import Goodput.Server.Lifecycle
import Goodput.Tls.Handshake
/-!
# Loopback

A client and a server joined without a network between them. A client connects to a listener and runs
split transfers over one connection, and everything that either side logs or reports follows.

The link between them may be cut: it then gives the client only so many bytes.
-/

namespace Goodput.Loopback

/-- What answers the requests of a client. -/
inductive Peer where
  | server (settings : Server.Settings)
  /-- Answers every request with one status and a payload of one length, after reading the request. -/
  | fixed (status length : Nat)
deriving Repr, DecidableEq, Inhabited

/-- A place where a client may find a peer. -/
structure Listener where
  addr : SocketAddress
  presence : Tls.Presence
  peer : Peer
deriving Repr, DecidableEq, Inhabited

/-- The link from a client to a listener. -/
structure Link where
  /-- What listens at the other end, if anything does. -/
  listener? : Option Listener
  /-- The bytes after which the client gets no more. -/
  cutAfter : Option Nat := none
deriving Repr, DecidableEq, Inhabited

/-- The address from which the client connects. -/
def clientAddr : SocketAddress := .v4 ⟨127, 0, 0, 1⟩ 49152

/-- The application protocol of split transfers. -/
def splitAlpn : String := "h2"

/-- A handshake takes the client more bytes than this. -/
def handshakeBytes : Nat := 512

/-! ## Connecting -/

/-- Connect over a link: the listener that answers with the right application protocol. The name of the
server is read before anything is sent. -/
def connect (link : Link) (addr serverName : String) : Except Client.SplitError Listener :=
  match Tls.ServerName.parse? serverName with
  | none => .error (.serverName serverName)
  | some name =>
    match link.listener? with
    | none => .error (.connect addr)
    | some listener =>
      if link.cutAfter.any fun n => decide (n ≤ handshakeBytes) then .error (.connect addr)
      else
        match listener.presence.handshake? name [splitAlpn] with
        | none => .error (.connect addr)
        | some chosen =>
          if chosen = some splitAlpn then .ok listener else .error (.alpn (chosen.getD "none"))

/-- The actions of a server whose `id`-th connection is served to its end. -/
def servedActions (id : Nat) : List Server.Action :=
  [.accept clientAddr, .handshakeDone id (some (Utf8.encode splitAlpn)), .servingEnded id none,
    .taskReleases id, .taskDone id, .tokenReturned id]

/-- The actions of a server whose `id`-th connection sends something that is no handshake. -/
def garbageActions (id : Nat) : List Server.Action :=
  [.accept clientAddr, .handshakeFailed id "no handshake", .taskDone id, .tokenReturned id]

/-- The log of a server about its connections: one that fails, if there is one, and the client's. -/
def connectionLog (now : Instant) (addr : SocketAddress) (garbageFirst : Bool) : List Event :=
  let actions := if garbageFirst then garbageActions 1 ++ servedActions 2 else servedActions 1
  ((Server.Run.start addr .zero).steps (actions.map fun a => (now, a))).log

/-! ## Transfers -/

/-- What became of the request for a partition. -/
structure Answered where
  partition : Partition
  status : Nat
  /-- The bytes that moved. -/
  bytes : Nat
  /-- What the server logged. -/
  events : List Event
deriving Repr, DecidableEq, Inhabited

/-- What a peer makes of the request for a partition. -/
def Peer.answer (peer : Peer) (now : Instant) (conn : Conn) (total : Nat) (direction : Direction)
    (p : Partition) : Answered :=
  let moved (given : Nat) : Nat := if direction = .download then given else p.len
  match peer with
  | .fixed status length => ⟨p, status, moved length, []⟩
  | .server settings =>
    let req := Client.partitionRequest (Client.transferPath total) direction p
      (Client.partitionBody direction p)
    let reply := Http.App.answerDetached settings now (some conn) req
    let delivery := reply.deliver now none
    ⟨p, reply.head.status, moved (delivery.frames.foldr (· + ·) 0), delivery.events⟩

/-- A connection in use. -/
structure Session where
  link : Link
  listener : Listener
  conn : Conn
  options : Client.ClientOptions
  /-- The bytes that the client got so far. -/
  received : Nat
  /-- The link was cut. -/
  broken : Bool
  serverLog : List Event
  clientLog : List LogRecord
deriving Repr, DecidableEq, Inhabited

namespace Session

/-- A connection that was just made. -/
def start (link : Link) (listener : Listener) (id : Nat) (addr : String) (options : Client.ClientOptions) :
    Session :=
  { link := link
    listener := listener
    conn := ⟨id, clientAddr, listener.addr, splitAlpn⟩
    options := options
    received := 0
    broken := false
    serverLog := []
    clientLog := [Client.connectedRecord addr] }

def note (r : LogRecord) (s : Session) : Session := { s with clientLog := s.clientLog ++ [r] }

/-- What the listener makes of the requests for all partitions of a transfer. -/
def ask (now : Instant) (direction : Direction) (total : Nat) (s : Session) : List Answered :=
  (s.options.plan total).map (s.listener.peer.answer now s.conn total direction)

/-- The bytes that the client gets from answers. -/
def gained (direction : Direction) (answers : List Answered) : Nat :=
  match direction with
  | .download => (answers.map (·.bytes)).foldr (· + ·) 0
  | .upload => 0

/-- The results that answers come to. -/
def results (direction : Direction) (answers : List Answered) : List Client.PartitionResult :=
  answers.map fun a => Client.partitionResult direction a.partition a.status ⟨a.bytes, .zero⟩

/-- Run one transfer. -/
def transfer (now : Instant) (direction : Direction) (total : Nat) (s : Session) :
    Except Client.SplitError Client.SplitReport × Session :=
  let s := s.note (Client.planRecord direction total (s.options.plan total).length)
  if s.broken then (.error .transport, s)
  else
    let answers := s.ask now direction total
    let s := { s with
      serverLog := s.serverLog ++ answers.flatMap Answered.events
      received := s.received + gained direction answers }
    if s.link.cutAfter.any fun n => decide (n ≤ s.received) then
      (.error .transport, { s with broken := true })
    else
      match Client.SplitReport.ofResults direction total .zero (results direction answers) with
      | .error e => (.error e, s)
      | .ok report => (.ok report, s.note (Client.finishedRecord report))

def transfers (now : Instant) : List (Direction × Nat) → Session →
    List (Except Client.SplitError Client.SplitReport) × Session
  | [], s => ([], s)
  | (direction, total) :: rest, s =>
    let (result, s) := s.transfer now direction total
    let (results, s) := transfers now rest s
    (result :: results, s)

end Session

/-- Connect to a listener, if there is one, and run one transfer. -/
def single (now : Instant) (listener? : Option Listener) (addr serverName : String)
    (options : Client.ClientOptions) (direction : Direction) (total : Nat) :
    Except Client.SplitError Client.SplitReport :=
  let link : Link := { listener? := listener? }
  match connect link addr serverName with
  | .error e => .error e
  | .ok listener => ((Session.start link listener 1 addr options).transfer now direction total).1

end Goodput.Loopback
