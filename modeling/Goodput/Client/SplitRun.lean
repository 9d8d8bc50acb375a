import Goodput.Client.Error
import Goodput.Client.PartitionRequest
import Goodput.Client.Report
import Goodput.LogRecord
import Goodput.Split.Policy
/-!
# Runs of split transfers

A run asks for all partitions of the plan at the same time and takes the results as they come. The order
in which they come does not show in the report, which follows the plan. The first failure that comes ends
the run, and then there is no report.
-/

namespace Goodput.Client

/-- What a client was told about splitting. -/
structure ClientOptions where
  policy : SplitPolicy := {}
  streams : StreamCount := .auto
deriving Repr, DecidableEq, Inhabited

/-- The partitions of a transfer of `total` bytes. -/
def ClientOptions.plan (o : ClientOptions) (total : Nat) : List Partition := o.policy.plan total o.streams

abbrev PartitionResult := Except SplitError PartitionReport

/-- What a partition comes to when its answer had this status and it moved so many bytes. -/
def partitionResult (direction : Direction) (p : Partition) (status : Nat) (stats : TransferStats) :
    PartitionResult :=
  if status = expectedStatus direction p then .ok ⟨p, stats.bytes, stats.elapsed⟩
  else .error (.status p.index status)

/-- Take results in the order in which they come, up to the first failure. -/
def gather : List PartitionResult → Except SplitError (List PartitionReport)
  | [] => .ok []
  | .error e :: _ => .error e
  | .ok p :: rest =>
    match gather rest with
    | .error e => .error e
    | .ok ps => .ok (p :: ps)

/-- One partition is not behind another. -/
def notBehind (a b : PartitionReport) : Bool := decide (a.partition.index ≤ b.partition.index)

namespace SplitReport

/-- The report of a run from the results of its partitions, in the order in which they came. -/
def ofResults (direction : Direction) (total : Nat) (elapsed : Span) (results : List PartitionResult) :
    Except SplitError SplitReport :=
  match gather results with
  | .error e => .error e
  | .ok ps => .ok ⟨direction, total, elapsed, ps.mergeSort notBehind⟩

end SplitReport

/-! ## Log records -/

def connectedRecord (addr : String) : LogRecord := ⟨.info, s!"Connected to {addr} (h2)", []⟩

def planRecord (direction : Direction) (total streams : Nat) : LogRecord :=
  ⟨.debug, s!"{direction.text} plan ready", [("total", .number total), ("streams", .number streams)]⟩

/-- The rate of a report in millions of bits a second, with one decimal. -/
def SplitReport.rateText (r : SplitReport) : String :=
  (r.bitsPerSecond.div (.ofNat 1000000)).toPlaces 1

def finishedRecord (r : SplitReport) : LogRecord :=
  ⟨.info, s!"{r.direction.text} finished at {r.rateText} Mbit/s",
    [("total", .number r.total), ("bytes", .number r.bytes), ("streams", .number r.partitions.length),
      ("elapsed_ms", .number r.elapsed.loggedMillis)]⟩

end Goodput.Client
