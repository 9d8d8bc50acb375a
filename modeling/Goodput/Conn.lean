import Goodput.Net.Address
import Goodput.Text.Utf8
/-!
# Connections

Every accepted connection has an identity that its log lines and the transfers on it carry.
-/

namespace Goodput

/-- The identity of an accepted connection. -/
structure Conn where
  /-- Distinct for every connection of a server. -/
  id : Nat
  remote : SocketAddress
  localAddr : SocketAddress
  /-- The application protocol agreed on during the handshake. -/
  alpn : String
deriving Repr, DecidableEq, Inhabited

namespace Conn

/-- The text of a negotiated protocol; `none` where nothing was negotiated. -/
def alpnText : Option (List UInt8) → String
  | none => "none"
  | some bytes => Utf8.decodeLossy bytes

/-- A connection with the protocol bytes that the handshake gave. -/
def ofHandshake (id : Nat) (remote localAddr : SocketAddress) (alpn : Option (List UInt8)) : Conn :=
  ⟨id, remote, localAddr, alpnText alpn⟩

end Conn

end Goodput
