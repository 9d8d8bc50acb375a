import Goodput.Split.Partition
import Goodput.Transfer.Basic
/-!
# Reports of split transfers

The report of a split transfer lists what every partition moved, in the order of the plan. The transfer
is complete only if each partition moved exactly its own length, so that a surplus in one never hides a
shortage in another.
-/

namespace Goodput.Client

/-- What one partition moved. -/
structure PartitionReport where
  partition : Partition
  bytes : Nat
  elapsed : Span
deriving Repr, DecidableEq, Inhabited

/-- The outcome of one split transfer. -/
structure SplitReport where
  direction : Direction
  total : Nat
  /-- From the first request to the end of the last partition. -/
  elapsed : Span
  /-- In the order of the partitions' indices. -/
  partitions : List PartitionReport
deriving Repr, DecidableEq, Inhabited

namespace SplitReport

/-- The bytes that all partitions moved together. -/
def bytes (r : SplitReport) : Nat := (r.partitions.map (·.bytes)).foldr (· + ·) 0

/-- Every partition moved exactly its length, and together they moved the total. -/
def isComplete (r : SplitReport) : Bool :=
  r.bytes == r.total && r.partitions.all fun p => p.bytes == p.partition.len

/-- The average rate in bits a second. -/
def bitsPerSecond (r : SplitReport) : Binary64 := (TransferStats.mk r.bytes r.elapsed).bitsPerSecond

end SplitReport

end Goodput.Client

namespace Goodput

def Partition.toJson (p : Partition) : Json :=
  .ofMembers [("parent", .nat p.parent), ("index", .nat p.index), ("count", .nat p.count),
    ("start", .nat p.start), ("len", .nat p.len)]

def Client.PartitionReport.toJson (p : Client.PartitionReport) : Json :=
  .ofMembers [("partition", p.partition.toJson), ("bytes", .nat p.bytes), ("elapsed", p.elapsed.toJson)]

def Client.SplitReport.toJson (r : Client.SplitReport) : Json :=
  .ofMembers [("direction", .text r.direction.text), ("total", .nat r.total), ("elapsed", r.elapsed.toJson),
    ("partitions", .array (r.partitions.map Client.PartitionReport.toJson))]

end Goodput
