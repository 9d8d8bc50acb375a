import Goodput.Http.App
import Goodput.Proofs.Decimal
/-!
# Refusals

A transfer is refused with a status and without an event. Its size is looked at first: a text that is no
size is a bad request, a size above the limit is too large, whatever else the request says.
-/

namespace Goodput

namespace Http

/-- The request was refused and left no event. -/
structure Refused (status : Nat) (r : Reply) : Prop where
  status : r.head.status = status
  silent : r.events = []

theorem refused_of_error (direction : Direction) (conn : Conn) (e : ApiError) :
    Refused e.status (refuseTransfer direction conn e) := by
  cases e <;> exact ⟨rfl, rfl⟩

/-- A text that is no size is refused for its form, never for being too large. -/
theorem parse_error_status {text : String} {e : SizeError} (h : Size.parse text = .error e) :
    (ApiError.size e).status = 400 := by
  unfold Size.parse at h
  split at h
  · cases h; rfl
  · split at h
    · cases h; rfl
    · cases h

end Http

end Goodput
