import Goodput.Event
import Goodput.Meter
/-!
# Leases

A lease is a shared hold on one connection. The task that serves the connection has it, every request on
the connection gets a share of it, and a session that takes the connection over keeps its share until it
is done. Opening the lease logs that the connection is there; letting go of the last share logs that it is
gone.
-/

namespace Goodput.Server

/-- A hold on a connection, shared by at least one holder. -/
structure Lease where
  conn : Conn
  openedAt : Instant
  holders : Nat
deriving Repr, DecidableEq, Inhabited

namespace Lease

/-- A new lease with one holder. -/
def ofConn (now : Instant) (conn : Conn) : Lease := ⟨conn, now, 1⟩

/-- The event that goes with a new lease. -/
def opened (l : Lease) : Event := .connNew l.conn

def share (l : Lease) : Lease := { l with holders := l.holders + 1 }

/-- The event that goes with the end of the lease. -/
def closed (now : Instant) (l : Lease) : Event := .connClosed l.conn (now.since l.openedAt)

/-- One holder lets go: what that logs, and the lease if there are holders left. -/
def release (now : Instant) (l : Lease) : List Event × Option Lease :=
  if l.holders ≤ 1 then ([l.closed now], none) else ([], some { l with holders := l.holders - 1 })

end Lease

end Goodput.Server
