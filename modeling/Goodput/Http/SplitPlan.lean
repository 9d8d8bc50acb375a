import Goodput.Client.Report
import Goodput.Http.ApiError
import Goodput.Split.Policy
/-!
# Published split plans

A server tells clients how it would split a transfer of some size. The stream count comes from the query
or, if the query names none, from the settings.
-/

namespace Goodput.Http

structure SplitPlan where
  size : Nat
  partitions : List Partition
deriving Repr, DecidableEq, Inhabited

namespace SplitPlan

def streams (p : SplitPlan) : Nat := p.partitions.length

/-- The stream count that applies: the one from the query, if there is one. -/
def requestedStreams (standard : StreamCount) : Option String → Except ApiError StreamCount
  | none => .ok standard
  | some text =>
    match StreamCount.parse text with
    | .ok s => .ok s
    | .error e => .error (.streams e.message)

/-- Decide on a plan from the text of its size and the stream count in the query. -/
def accept (limit : Option Nat) (policy : SplitPolicy) (standard : StreamCount) (sizeText : String)
    (streamsText : Option String) : Except ApiError SplitPlan :=
  match Size.validate limit sizeText with
  | .error e => .error (.size e)
  | .ok size =>
    match requestedStreams standard streamsText with
    | .error e => .error e
    | .ok mode => .ok ⟨size, policy.plan size mode⟩

def toJson (p : SplitPlan) : Json :=
  .ofMembers [("size", .nat p.size), ("streams", .nat p.streams),
    ("partitions", .array (p.partitions.map Partition.toJson))]

end SplitPlan

end Goodput.Http
