import DiskFixture.Disk.Release
import DiskFixture.Log.Operation
import DiskFixture.Partition.Lookup
import DiskFixture.Settings

/-!
Building loop disks. Every step that makes something is followed by a rollback step that is run, and
only logged if it fails, when a later step fails; the last one is run first. So a build either
returns a disk or takes back what it made.
-/

namespace DiskFixture

variable {σ : Type} {α : Type}

/-- Runs a rollback step. That a tool or the file system fails is only logged. -/
def rollback (description : String) (step : Action σ Unit) : Action σ Unit := do
  match ← Action.attempt step with
  | .ok _ => return
  | .error fault =>
    unless fault.problem.isOperational do throw fault
    Logger.ownDisk.log .error ("Rollback step '" ++ description ++ "' failed: " ++ fault.message)

/-- Runs an action, and the rollback step if the action fails. -/
def withRollback (description : String) (step : Action σ Unit) (action : Action σ α) :
    Action σ α := do
  match ← Action.attempt action with
  | .ok result => return result
  | .error fault =>
    rollback description step
    throw fault

/-- A size that a caller names is written into a command. One with too many digits cannot be
written, and is refused before anything is done with it. -/
def checkSize (size : Value) : Action σ Unit := do
  unless size.isWritable do Action.reject .unwritableInteger

def allocate (host : Host σ) (path : String) (size : Value) : Action σ Unit := do
  let _ ← Command.run host (Plan.allocate path size)

def makePartitions (host : Host σ) (path : String) : List Extent → Action σ Unit
  | [] => return
  | extent :: rest => do
    let _ ← Command.run host (Plan.makePartition path extent)
    makePartitions host path rest

def attach (host : Host σ) (path : String) : Action σ String := do
  let output ← Command.run host (Plan.attach path)
  if Settings.isOn (← get).settings "settle_udev" true then Command.settle host
  return Text.strip output

/-- Identifies and formats the partitions of a loop device, the first of which has this index. -/
def formatPartitions (host : Host σ) (device : String) :
    (index : Nat) → List PartitionSpec → Action σ (List Partition)
  | _, [] => return []
  | index, spec :: rest => do
    let node := Layout.node device index
    let identifier ← Identifier.resolve host node
    let _ ← Filesystem.make host (.text node) spec.filesystem spec.label
    let partitions ← formatPartitions host device (index + 1) rest
    return ⟨spec, .text node, identifier⟩ :: partitions

namespace LoopDisk

/-- The steps of a build, each with its rollback step. -/
def assemble (host : Host σ) (path : String) (specs : List PartitionSpec) : Action σ LoopDisk :=
  withRollback ("remove " ++ path) (removePath host path) do
    unless Text.isWritable (Layout.diskSize specs) do Action.reject .unwritableInteger
    allocate host path (.int (Layout.diskSize specs))
    let _ ← Command.run host (Plan.makeTable path)
    makePartitions host path (Layout.extents specs)
    let device ← attach host path
    withRollback ("detach " ++ device) (detach host (.text device)) do
      Logger.ownDisk.log .info ("Attached " ++ path ++ " as " ++ device)
      let partitions ← formatPartitions host device 1 specs
      return ⟨path, .text device, partitions⟩

/-- Builds a disk at `path` with partitions to these specifications. What fails of the tools and the
file system is a build fault. -/
def build (host : Host σ) (path : String) (specs : List PartitionSpec) : Action σ LoopDisk :=
  let details := [("path", .text path), ("size_mib", .int (Layout.diskSize specs))]
  Operation.run host "disk" details fun _ => do
    match ← Action.attempt (assemble host path specs) with
    | .ok disk => return disk
    | .error fault =>
      unless fault.problem.isOperational do throw fault
      let message := "Failed to build disk image " ++ path ++ ": " ++ fault.message
      throw (.dueTo (.build (.text message) (.text path)) fault)

end LoopDisk

end DiskFixture
