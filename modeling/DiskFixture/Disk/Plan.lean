import DiskFixture.Filesystem
import DiskFixture.Partition.Layout

/-!
The commands of a build, and the plan of a whole build: the commands up to the attachment of the
image, which the path and the specifications determine, and those after it, which also depend on the
loop device.
-/

namespace DiskFixture.Plan

def allocate (path : String) (size : Value) : List String :=
  ["dd", "if=/dev/zero", "of=" ++ path, "bs=1M", "count=" ++ size.shown]

def makeTable (path : String) : List String :=
  ["parted", "-s", path, "mktable", "gpt"]

def makePartition (path : String) (extent : Extent) : List String :=
  ["parted", "-s", path, "mkpart", "primary", toString extent.start ++ "MiB",
    toString extent.stop ++ "MiB"]

/-- Attaches an image as a loop device and prints the device. -/
def attach (path : String) : List String :=
  ["losetup", "-f", "-P", path, "--show"]

def detach (device : Value) : List Value :=
  [.text "losetup", .text "-d", device]

/-- The commands of a build up to the attachment. -/
def untilAttached (path : String) (specs : List PartitionSpec) : List (List String) :=
  allocate path (.int (Layout.diskSize specs)) :: makeTable path
    :: (Layout.extents specs).map (makePartition path) ++ [attach path]

/-- The commands of a build after the attachment, the first partition having the index `first`. -/
def onceAttached (device : String) (first : Nat) (specs : List PartitionSpec) :
    List (List String) :=
  (specs.zipIdx first).flatMap fun (spec, index) =>
    let node := Layout.node device index
    let make := Filesystem.makeCommand (.text node) spec.filesystem spec.label
    ["blkid", node] :: make.toOption.toList

end DiskFixture.Plan
