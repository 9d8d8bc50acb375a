import Goodput.Tls.ServerName
/-!
# Handshakes

A handshake succeeds if the certificate of the server is for the name that the client asked for and if
the two agree on an application protocol. A side that offers no protocol agrees with everything, and then
none is chosen.
-/

namespace Goodput.Tls

/-- Choose an application protocol: the first of the server's that the client offers as well. The outer
option is empty if there is none in common. -/
def negotiate (server client : List String) : Option (Option String) :=
  if server.isEmpty || client.isEmpty then some none
  else (server.find? client.contains).map some

/-- A server as a handshake meets it. -/
structure Presence where
  /-- The DNS names of its certificate. -/
  certified : List String
  /-- The application protocols it offers. -/
  alpn : List String
deriving Repr, DecidableEq, Inhabited

/-- The outcome of a handshake: the application protocol that was chosen, unless it fails. -/
def Presence.handshake? (p : Presence) (name : ServerName) (clientAlpn : List String) :
    Option (Option String) :=
  if name.isCoveredBy p.certified then negotiate p.alpn clientAlpn else none

end Goodput.Tls
