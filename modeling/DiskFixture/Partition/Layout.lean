import DiskFixture.Partition.Spec

/-!
The layout of a disk. The partitions follow one another without gaps, between one MiB in front for
the partition table and one MiB at the end for its copy.
-/

namespace DiskFixture

/-- A stretch of a disk, in MiB; `stop` is the first one behind it. -/
structure Extent where
  start : Nat
  stop : Nat
  deriving DecidableEq, Repr

namespace Layout

/-- The MiB kept free in front of the first partition. -/
def headReserved : Nat := 1

/-- The MiB kept free behind the last partition. -/
def tailReserved : Nat := 1

def totalSize : List PartitionSpec → Nat
  | [] => 0
  | spec :: rest => spec.size + totalSize rest

def diskSize (specs : List PartitionSpec) : Nat :=
  headReserved + totalSize specs + tailReserved

/-- The extents of partitions of which the first starts at `offset`. -/
def extentsFrom (offset : Nat) : List PartitionSpec → List Extent
  | [] => []
  | spec :: rest => ⟨offset, offset + spec.size⟩ :: extentsFrom (offset + spec.size) rest

def extents (specs : List PartitionSpec) : List Extent :=
  extentsFrom headReserved specs

/-- The device node of a partition; the first partition has index one. An index is counted along a
list, so it never has more digits than can be written, and no limit of digits stands here. -/
def node (device : String) (index : Int) : String :=
  device ++ "p" ++ toString index

end Layout

end DiskFixture
