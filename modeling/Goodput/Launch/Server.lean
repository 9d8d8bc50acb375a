import Goodput.Cli.Server
import Goodput.Launch.Surroundings
import Goodput.Tls.Material
/-!
# The server as a process

The server reads its arguments, checks that they fit together, loads its TLS material and takes its
address, in this order. Then it listens until it is told to stop.
-/

namespace Goodput.Launch

/-- Why a server does not come up. -/
inductive ServerFault where
  | arguments (e : Cli.ArgError)
  | configuration (e : Cli.ConfigError)
  /-- The TLS material cannot be used; the path is that of the certificate. -/
  | material (cert : String) (cause : Tls.TlsError)
  /-- The address cannot be taken. -/
  | binding (addr : SocketAddress)
deriving Repr, DecidableEq, Inhabited

/-- How a server ends that does not come up. -/
def ServerFault.ending : ServerFault → Ending
  | .arguments e => .ofArgError e
  | .configuration e => .ofError e.message
  | .material cert _ => .ofError s!"loading TLS material from {cert}"
  | .binding addr => .ofError s!"binding {addr.text}"

/-- The settings that arguments and environment give. -/
def serverSettings (s : Surroundings) (args : List String) : Except ServerFault Server.Settings :=
  match Cli.parseServer s.variables args with
  | .error e => .error (.arguments e)
  | .ok command =>
    match command.toSettings with
    | .error e => .error (.configuration e)
    | .ok settings => .ok settings

/-- Start a server: the settings with which it listens. -/
def startServer (s : Surroundings) (args : List String) : Except ServerFault Server.Settings :=
  match serverSettings s args with
  | .error e => .error e
  | .ok settings =>
    match Tls.ServerMaterial.load s.files settings.cert settings.key (settings.mode.alpn.map Utf8.encode) with
    | .error e => .error (.material settings.cert e)
    | .ok _ => if s.taken.contains settings.addr then .error (.binding settings.addr) else .ok settings

/-- The line with which a server says that it is up. -/
def listeningLine (mode : Server.Mode) : String := s!"{mode.text} server listening"

/-- The line with which a server says that it stopped. -/
def stoppedLine : String := "Server stopped"

end Goodput.Launch
