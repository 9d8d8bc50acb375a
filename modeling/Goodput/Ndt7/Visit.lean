import Goodput.Ndt7.Session
/-!
# Visits

A visit is what one client does in a session: the messages it sends, how many binary messages it reads,
whether it stays for a measurement, and how it leaves. The session that a visit brings about is a run of
`DownloadRun` or `UploadRun`.
-/

namespace Goodput.Ndt7

/-- How a client leaves a session. -/
inductive Leave where
  /-- It sends a close message. -/
  | closes
  /-- Its connection goes away. -/
  | vanishes
  /-- It stays until the window is over. -/
  | stays
  /-- It stays until the server, which shuts down, closes the session. -/
  | dismissed
deriving Repr, DecidableEq, Inhabited

/-- What a client does in a session. -/
structure Visit where
  messages : List ClientMessage
  /-- The number of binary messages that the client reads. -/
  reads : Nat
  /-- The client reads on until the first measurement. -/
  awaitsMeasurement : Bool
  leave : Leave
deriving Repr, DecidableEq, Inhabited

/-- The code of the close message that ends every session. -/
def closeCode : Nat := 1000

namespace Visit

/-- A client that takes no part in the session. -/
def silent : Visit := ⟨[], 0, false, .stays⟩

/-- A round that goes well. -/
def smoothTurn (now : Instant) : Turn := ⟨now, now, now, true, true, .done⟩

/-- The rounds of a download session that the visit needs. A window of no length leaves time for none. -/
def turns (window : Span) (start : Instant) (v : Visit) : List Turn :=
  if window = .zero then []
  else
    List.replicate v.reads (smoothTurn start)
      ++ (if v.awaitsMeasurement then [smoothTurn (start.after measurementInterval)] else [])

def download (window : Span) (conn : Conn) (uuid : String) (start : Instant) (v : Visit) : DownloadRun :=
  ⟨window, conn, uuid, start, v.turns window start, true, start⟩

/-- What ends the receiving in the upload session of a visit. -/
def endCause (v : Visit) : EndCause :=
  match v.leave with
  | .closes | .vanishes => .streamOver
  | .stays => .windowOver
  | .dismissed => .shutdown

def upload (window : Span) (conn : Conn) (start : Instant) (v : Visit) : UploadRun :=
  let (messages, cause) := readable v.endCause v.messages
  let closing := if v.leave = .closes && cause == .streamOver then [ClientMessage.close] else []
  ⟨window, conn, start, messages ++ closing, cause, start, start⟩

/-- The code that the server closes the session with, if the client stays to see it. -/
def seenCode? (v : Visit) : Option Nat :=
  match v.leave with
  | .closes | .vanishes => none
  | .stays | .dismissed => some closeCode

end Visit

end Goodput.Ndt7
