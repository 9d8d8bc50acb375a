import Goodput.Cli.Client
import Goodput.Client.SplitRun
import Goodput.Json.Pretty
import Goodput.Launch.Surroundings
import Goodput.Tls.Material
/-!
# The client as a process

The client reads its arguments, loads the certificate that it trusts, runs one split transfer and prints
the report. A transfer that moved too little is an error, but its report is printed.
-/

namespace Goodput.Launch

/-- What a client is to do. -/
structure ClientTask where
  addr : String
  serverName : String
  options : Client.ClientOptions
  windowSize : Nat
  direction : Direction
  size : Nat
deriving Repr, DecidableEq, Inhabited

/-- Why a client does not get to its transfer. -/
inductive ClientFault where
  | arguments (e : Cli.ArgError)
  | noTarget
  /-- The certificate to trust cannot be used. -/
  | authority (path : String) (cause : Tls.TlsError)
deriving Repr, DecidableEq, Inhabited

/-- How a client ends that does not get to its transfer. -/
def ClientFault.ending : ClientFault → Ending
  | .arguments e => .ofArgError e
  | .noTarget => .ofError "target-partition must be greater than zero"
  | .authority path _ => .ofError s!"loading CA from {path}"

/-- The task that arguments give. The cap on streams is kept between one and the limit. -/
def ClientTask.ofArgs (a : Cli.ClientArgs) : ClientTask where
  addr := a.addr
  serverName := a.serverName
  options := ⟨{ a.policy with maxStreams := min (max a.policy.maxStreams 1) Goodput.maxStreams }, a.streams⟩
  windowSize := a.windowSize
  direction := if a.upload then .upload else .download
  size := a.size

/-- The arguments of a client that make sense. -/
def clientArgs (s : Surroundings) (args : List String) : Except ClientFault Cli.ClientArgs :=
  match Cli.parseClient s.variables args with
  | .error e => .error (.arguments e)
  | .ok a => if a.policy.targetPartition = 0 then .error .noTarget else .ok a

/-- Start a client: the task that it sets out for. -/
def startClient (s : Surroundings) (args : List String) : Except ClientFault ClientTask :=
  match clientArgs s args with
  | .error e => .error e
  | .ok a =>
    match Tls.ClientMaterial.load s.files a.ca with
    | .error e => .error (.authority a.ca e)
    | .ok _ => .ok (.ofArgs a)

/-- How a client ends after its transfer. -/
def transferEnding : Except Client.SplitError Client.SplitReport → Ending
  | .error e => .ofError e.message
  | .ok r => if r.isComplete then .fine else .ofError s!"short transfer: {r.bytes} of {r.total} bytes"

def printed (r : Client.SplitReport) : String := r.toJson.toPrettyText

end Goodput.Launch
