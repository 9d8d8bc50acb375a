import Goodput.Ndt7.Session
import Goodput.Server.Lease
/-!
# The lives of connections

A server accepts connections until it is told to stop. Each accepted connection has a task: it makes the
handshake, opens a lease, serves the connection and lets go of the lease. Requests and sessions share the
lease for as long as they need it.

The server counts what it has to wait for before it may return. A connection counts twice: once for its
task, and once for a token that travels with the lease and is given back only after the end of the lease
was logged.

Whatever happens in a server run is a row of actions in any order, and the log follows from the row. An
action that is not possible where it stands, such as letting go of a share that nobody holds, changes
nothing.
-/

namespace Goodput.Server

/-- A connection after its handshake. -/
structure LiveConn where
  lease : Lease
  /-- The task still serves the connection. -/
  serving : Bool
  /-- The task has its own share of the lease. -/
  taskHolds : Bool
  /-- The sessions on the connection by their order; one that ended leaves an empty place. Each session
  that is open has a share of the lease. -/
  sessions : List (Option (Meter TransferTag))
deriving Repr, DecidableEq, Inhabited

namespace LiveConn

/-- The number of open sessions. -/
def openSessions (c : LiveConn) : Nat := c.sessions.countP (·.isSome)

/-- The shares that neither the task nor an open session has. -/
def otherShares (c : LiveConn) : Nat := c.lease.holders - c.taskHolds.toNat - c.openSessions

/-- An open session. -/
def session? (k : Nat) (c : LiveConn) : Option (Meter TransferTag) := (c.sessions[k]?).join

end LiveConn

/-- How far an accepted connection has come. -/
inductive Stage where
  | handshaking
  /-- The handshake failed or was cut off. -/
  | refused
  | live (c : LiveConn)
  /-- The last holder of the lease let go. -/
  | gone
deriving Repr, DecidableEq, Inhabited

structure Accepted where
  id : Nat
  remote : SocketAddress
  stage : Stage
  /-- The task is not done. -/
  taskRuns : Bool
  /-- The token was not given back. -/
  tokenOut : Bool
deriving Repr, DecidableEq, Inhabited

namespace Accepted

/-- What the server has to wait for on account of a connection. -/
def tracked (a : Accepted) : Nat := a.taskRuns.toNat + a.tokenOut.toNat

/-- The task has no share of a lease. -/
def taskLetGo (a : Accepted) : Bool :=
  match a.stage with
  | .handshaking => false
  | .live c => !c.taskHolds
  | .refused | .gone => true

/-- There is no lease that the token could travel with. -/
def leaseGone (a : Accepted) : Bool :=
  match a.stage with
  | .handshaking | .live _ => false
  | .refused | .gone => true

end Accepted

/-- A server and the log of everything it did. -/
structure Run where
  localAddr : SocketAddress
  /-- The length of the sessions. -/
  window : Span
  /-- The number of connections accepted so far. -/
  accepted : Nat
  shuttingDown : Bool
  listening : Bool
  conns : List Accepted
  log : List Event
deriving Repr, DecidableEq, Inhabited

/-- What can happen in a server run. The number is the id of the connection concerned. -/
inductive Action where
  | accept (remote : SocketAddress)
  /-- A connection could not be accepted; the server pauses and goes on. -/
  | acceptFailed
  | handshakeDone (id : Nat) (alpn : Option (List UInt8))
  | handshakeFailed (id : Nat) (message : String)
  /-- A shutdown cuts the handshake off. -/
  | handshakeCut (id : Nat)
  /-- A holder of the lease shares it. -/
  | share (id : Nat)
  /-- A holder that is neither the task nor an open session lets go of its share. -/
  | release (id : Nat)
  /-- A share becomes that of a session. -/
  | sessionBegin (id : Nat) (direction : Direction)
  /-- The session with this place counts bytes. -/
  | sessionCount (id : Nat) (session : Nat) (bytes : Nat)
  | sessionSample (id : Nat) (session : Nat) (messageSize : Nat)
  /-- The session closes its meter; its share is still there. -/
  | sessionFinish (id : Nat) (session : Nat)
  /-- The session is abandoned; its share is still there. -/
  | sessionAbort (id : Nat) (session : Nat)
  /-- Serving the connection ended, possibly with an error. -/
  | servingEnded (id : Nat) (error : Option String)
  /-- The task lets go of its share. -/
  | taskReleases (id : Nat)
  | taskDone (id : Nat)
  | tokenReturned (id : Nat)
  | shutdown
  | stopListening
deriving Repr, DecidableEq, Inhabited

namespace LiveConn

/-- A connection that was just opened. -/
def ofConn (now : Instant) (conn : Conn) : LiveConn := ⟨.ofConn now conn, true, true, []⟩

/-- The stage after a holder let go, and what that logs. -/
def releaseShare (now : Instant) (c : LiveConn) : List Event × Stage :=
  match c.lease.release now with
  | (events, some lease) => (events, .live { c with lease := lease })
  | (events, none) => (events, .gone)

/-- A session takes over a share that nobody else uses. -/
def beginSession (window : Span) (direction : Direction) (c : LiveConn) : List Event × Stage :=
  if c.otherShares = 0 then ([], .live c)
  else
    let tag := Ndt7.sessionTag direction window c.lease.conn
    ([tag.received], .live { c with sessions := c.sessions ++ [some tag.meter] })

/-- Change an open session. -/
def withSession (k : Nat) (c : LiveConn)
    (f : Meter TransferTag → List Event × Option (Meter TransferTag)) : List Event × Stage :=
  match c.session? k with
  | none => ([], .live c)
  | some meter =>
    let (events, meter?) := f meter
    (events, .live { c with sessions := c.sessions.set k meter? })

/-- The direction that the listener of a meter knows of. -/
def direction (m : Meter TransferTag) : Direction :=
  (m.listener.map fun tag => tag.request.direction).getD .download

/-- The sample of a session. -/
def sample (now : Instant) (messageSize : Nat) (c : LiveConn) (m : Meter TransferTag) : Event :=
  .ndt7Sample c.lease.conn (direction m) m.bytes (m.elapsed now) messageSize

/-- What an action on a connection after its handshake logs, and the stage it leads to. -/
def step (window : Span) (now : Instant) (c : LiveConn) : Action → List Event × Stage
  | .share _ => ([], .live { c with lease := c.lease.share })
  | .release _ => if c.otherShares = 0 then ([], .live c) else c.releaseShare now
  | .sessionBegin _ direction => c.beginSession window direction
  | .sessionCount _ k n => c.withSession k fun m => ([], some (m.add now n))
  | .sessionSample _ k size => c.withSession k fun m => ([c.sample now size m], some m)
  | .sessionFinish _ k => c.withSession k fun m =>
    let (_, report, rest) := m.finish now
    (reportEvents report ++ reportEvents (rest.dispose now), none)
  | .sessionAbort _ k => c.withSession k fun m => (reportEvents (m.dispose now), none)
  | .servingEnded _ error =>
    if c.serving then
      (error.toList.map (.connError c.lease.conn), .live { c with serving := false })
    else ([], .live c)
  | .taskReleases _ =>
    if c.taskHolds && !c.serving then { c with taskHolds := false }.releaseShare now else ([], .live c)
  | _ => ([], .live c)

end LiveConn

namespace Accepted

/-- What an action on a connection logs, and the connection afterwards. -/
def step (localAddr : SocketAddress) (window : Span) (shuttingDown : Bool) (now : Instant) (a : Accepted)
    (action : Action) : List Event × Accepted :=
  match a.stage, action with
  | _, .taskDone _ => ([], if a.taskLetGo then { a with taskRuns := false } else a)
  | _, .tokenReturned _ => ([], if a.leaseGone then { a with tokenOut := false } else a)
  | .handshaking, .handshakeDone _ alpn =>
    let c := LiveConn.ofConn now (.ofHandshake a.id a.remote localAddr alpn)
    ([c.lease.opened], { a with stage := .live c })
  | .handshaking, .handshakeFailed _ message =>
    ([.handshakeFailed a.remote message], { a with stage := .refused })
  | .handshaking, .handshakeCut _ => ([], if shuttingDown then { a with stage := .refused } else a)
  | .live c, action =>
    let (events, stage) := c.step window now action
    (events, { a with stage := stage })
  | _, _ => ([], a)

end Accepted

def Action.id? : Action → Option Nat
  | .accept _ | .acceptFailed | .shutdown | .stopListening => none
  | .handshakeDone id _ | .handshakeFailed id _ | .handshakeCut id | .share id | .release id
  | .sessionBegin id _ | .sessionCount id _ _ | .sessionSample id _ _ | .sessionFinish id _
  | .sessionAbort id _ | .servingEnded id _ | .taskReleases id | .taskDone id | .tokenReturned id => some id

namespace Run

/-- A server that just started to listen. -/
def start (localAddr : SocketAddress) (window : Span) : Run :=
  ⟨localAddr, window, 0, false, true, [], []⟩

/-- Take a connection in. Its id is the number of connections so far. -/
def accept (remote : SocketAddress) (r : Run) : Run :=
  if r.listening then
    let id := r.accepted + 1
    { r with accepted := id, conns := r.conns ++ [⟨id, remote, .handshaking, true, true⟩] }
  else r

/-- Let an action happen to the connections of an id. -/
def onConn (now : Instant) (id : Nat) (action : Action) (r : Run) : Run :=
  let results := r.conns.map fun a =>
    if a.id = id then a.step r.localAddr r.window r.shuttingDown now action else ([], a)
  { r with conns := results.map (·.2), log := r.log ++ results.flatMap (·.1) }

/-- The run after an action at a clock reading. -/
def step (r : Run) (now : Instant) (action : Action) : Run :=
  match action with
  | .accept remote => r.accept remote
  | .shutdown => { r with shuttingDown := true }
  | .stopListening => if r.shuttingDown then { r with listening := false } else r
  | action =>
    match action.id? with
    | none => r
    | some id => r.onConn now id action

/-- The run after actions in order, each at its clock reading. -/
def steps (r : Run) (actions : List (Instant × Action)) : Run :=
  actions.foldl (fun r (now, action) => r.step now action) r

def tracked (r : Run) : Nat := (r.conns.map (·.tracked)).foldr (· + ·) 0

/-- The server may return: it takes no connections any more and has nothing to wait for. -/
def mayReturn (r : Run) : Bool := !r.listening && r.tracked == 0

end Run

end Goodput.Server
