import Goodput.Size
import Goodput.Split.RangeHeader
import Goodput.Split.StreamCount
/-!
# Why a request is refused

Each refusal has a wording for the log and a status for the client. An unsatisfiable range also names
the size of the resource, so that the client can ask again.
-/

namespace Goodput.Http

/-- Why a measurement request is refused. -/
inductive ApiError where
  | size (e : SizeError)
  | unsatisfiable (total : Nat)
  | contentRange (e : RangeError)
  | streams (message : String)
  | body (message : String)
deriving Repr, DecidableEq

namespace ApiError

def message : ApiError → String
  | .size e => e.message
  | .unsatisfiable total => (RangeError.unsatisfiable total).message
  | .contentRange e => "bad content-range: " ++ e.message
  | .streams text => "bad stream count: " ++ text
  | .body text => "request body failed: " ++ text

def status : ApiError → Nat
  | .size (.tooLarge _ _) => 413
  | .unsatisfiable _ => 416
  | _ => 400

/-- The `Content-Range` of a refusal that names the size of the resource. -/
def contentRange? : ApiError → Option String
  | .unsatisfiable total => some s!"bytes */{total}"
  | _ => none

end ApiError

end Goodput.Http
