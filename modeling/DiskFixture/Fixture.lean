import DiskFixture.PartitionFile

/-!
Test fixtures. They say whether disks can be built here, name images that no other test uses, and
close all disks of a factory at the end, the last one first; that a disk cannot be released is only
logged.
-/

namespace DiskFixture.Fixture

def requiredTools : List String :=
  ["dd", "parted", "losetup", "blkid", "mount", "umount", "sync"]

def missingTools (isFound : String → Bool) (tools : List String) : List String :=
  tools.filter (!isFound ·)

/-- Why disks cannot be built here, if they cannot. -/
def skipReason (isSuperuser hasLoopDevices : Bool) (isFound : String → Bool) : Option String :=
  if !isSuperuser then some "requires root"
  else if !hasLoopDevices then some "loop devices unavailable"
  else
    match missingTools isFound requiredTools with
    | [] => none
    | missing => some ("missing tools: " ++ ", ".intercalate missing)

/-- The number of digits that name an image. -/
def imageDigits : Nat := 12

def imagePath (directory digits suffix : String) : String :=
  Path.join directory (String.ofList (digits.toList.take imageDigits) ++ suffix)

variable {σ : Type}

def uniquePath (host : Host σ) (directory suffix : String) : Action σ String := do
  return imagePath directory (← Action.freshImage host) suffix

def buildDisk (host : Host σ) (directory : String) (specs : List PartitionSpec) :
    Action σ LoopDisk := do
  LoopDisk.build host (← uniquePath host directory ".img") specs

def createFile (host : Host σ) (directory filesystem : String) (size : Value)
    (creator : Option (String → Action σ Unit)) (wantsArchive : Bool) : Action σ String := do
  let path ← uniquePath host directory ("." ++ filesystem)
  PartitionFile.request host (.text path) filesystem size creator wantsArchive

/-- Closes disks in the given order and returns them as they are afterwards. Only a fault that is no
failure to release a disk keeps the disks behind it from being closed. -/
def closeAll (host : Host σ) : List LoopDisk → Action σ (List LoopDisk × Except Fault Unit)
  | [] => return ([], .ok ())
  | disk :: rest => do
    let (closed, outcome) ← disk.close host
    match outcome with
    | .ok _ =>
      let (others, outcome) ← closeAll host rest
      return (closed :: others, outcome)
    | .error fault =>
      if fault.problem.isTeardown then
        Logger.fixture.log .error
          ("Failed to release " ++ closed.written ++ ": " ++ fault.message)
        let (others, outcome) ← closeAll host rest
        return (closed :: others, outcome)
      else return (closed :: rest, .error fault)

/-- Closes the disks of a factory, the one built last first. -/
def teardown (host : Host σ) (disks : List LoopDisk) :
    Action σ (List LoopDisk × Except Fault Unit) := do
  let (closed, outcome) ← closeAll host disks.reverse
  return (closed.reverse, outcome)

end DiskFixture.Fixture
