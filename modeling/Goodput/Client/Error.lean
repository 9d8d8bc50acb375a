import Goodput.Http.Response
import Goodput.Text.Quoted
/-!
# Errors of split transfers
-/

namespace Goodput.Client

/-- Why a split transfer did not come about. -/
inductive SplitError where
  /-- The connection or its handshake failed. -/
  | connect (addr : String)
  | serverName (name : String)
  /-- The server chose another application protocol, or none. -/
  | alpn (got : String)
  /-- The connection broke during a transfer. -/
  | transport
  /-- The server answered a partition with another status than it should have. -/
  | status (index status : Nat)
deriving Repr, DecidableEq, Inhabited

namespace SplitError

/-- The wording of an error. What the transport says of its own failures is not kept. -/
def message : SplitError → String
  | .connect addr => s!"failed to connect to {addr}"
  | .serverName name => "invalid server name " ++ Text.quote name
  | .alpn got => s!"server negotiated {Text.quote got} instead of h2"
  | .transport => "transport error"
  | .status index got => s!"partition {index}: unexpected status {Http.statusText got}"

end SplitError

end Goodput.Client
