import DiskFixture.Disk.Plan

/-!
Loop disks and their release. A disk owns a loop device and the image behind it. Closing it detaches
the device and then removes the image; a device that could not be detached keeps its image.
-/

namespace DiskFixture

/-- An image that is, or was, attached as a loop device; `device` is null when it is not. -/
structure LoopDisk where
  path : String
  device : Value
  partitions : List Partition

variable {σ : Type}

namespace Problem

def isMissing : Problem → Bool
  | .system error => error.isMissing
  | _ => false

end Problem

/-- Removes what is at a path: a directory with all its content, a file or a link. Nothing there is
no fault. -/
def removePath (host : Host σ) (path : String) : Action σ Unit := do
  let files := (← get).files
  if files.isDirectory path && !files.isLink path then
    Action.guarded host .removeTree path (Filing.removeTree path)
  else
    match ← Action.attempt (Action.guarded host .remove path (Filing.remove path)) with
    | .ok _ => Logger.ownDisk.log .debug ("Removed " ++ path)
    | .error fault => unless fault.problem.isMissing do throw fault

def detach (host : Host σ) (device : Value) : Action σ Unit := do
  let _ ← Command.runValues host (Plan.detach device)
  Logger.ownDisk.log .debug ("Detached " ++ device.shown)

namespace LoopDisk

def written (disk : LoopDisk) : String :=
  "LoopDisk(device=" ++ disk.device.written ++ ", partitions="
    ++ toString disk.partitions.length ++ ")"

/-- The device to detach: none if there is none, or if its name is empty. -/
def attached? (disk : LoopDisk) : Option Value :=
  if disk.device.isTruthy then some disk.device else none

def removeImage (host : Host σ) (disk : LoopDisk) : Action σ (LoopDisk × Except Fault Unit) := do
  match ← Action.attempt (removePath host disk.path) with
  | .ok _ => return (disk, .ok ())
  | .error fault =>
    if fault.problem.isSystem then
      let message := "Failed to remove " ++ disk.path ++ ": " ++ fault.message
      return (disk, .error (.dueTo (.teardown (.text message) .null (.text disk.path)) fault))
    else return (disk, .error fault)

/-- Releases a disk. The disk comes back as it is afterwards, also when something went wrong. -/
def close (host : Host σ) (disk : LoopDisk) : Action σ (LoopDisk × Except Fault Unit) := do
  match disk.attached? with
  | none => disk.removeImage host
  | some device =>
    match ← Action.attempt (detach host device) with
    | .ok _ => removeImage host { disk with device := .null }
    | .error fault =>
      if fault.problem.isCommand then
        let message := "Failed to detach " ++ device.shown ++ ": " ++ fault.message
        return (disk, .error (.dueTo (.teardown (.text message) device (.text disk.path)) fault))
      else return (disk, .error fault)

end LoopDisk

end DiskFixture
