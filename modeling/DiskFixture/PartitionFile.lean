import DiskFixture.Disk.Build
import DiskFixture.Mount
import DiskFixture.Value.Items
import DiskFixture.Value.Path

/-!
Partition files: images that hold one filesystem and no partition table. A file may be filled by a
creator while it is mounted, and archived once everything else is done. What a creator raises is a
populate fault; every other failure of a tool or of the file system is a build fault.
-/

namespace DiskFixture.PartitionFile

variable {σ : Type}

def archiveCommand (settings : Fields) (path : Value) : Except Misuse (List String) :=
  let setting := Settings.lookup settings "archive_command" Settings.archiveDefault
  match setting.items? with
  | none => .error (.notIterable setting.kind)
  | some words => Command.words (words ++ [path])

/-- Writes a compressed copy next to a file and returns its path. -/
def archive (host : Host σ) (path : Value) : Action σ String := do
  let argv ← Action.ofExcept (archiveCommand (← get).settings path)
  let _ ← Command.run host argv
  return Path.normalize (path.shown ++ ".gz")

def populate (host : Host σ) (path : String) (creator : String → Action σ Unit) : Action σ Unit :=
  Mount.within host (.text path) fun point => do
    match ← Action.attempt (creator point) with
    | .ok _ => return
    | .error fault =>
      if fault.problem.isPopulate then throw fault
      else throw (.dueTo (.populate (.text point) (.text fault.message) (.text path)) fault)

/-- The steps after which a file is complete; the result is the archive, if one is wanted. -/
def assemble (host : Host σ) (path filesystem : String) (size : Value)
    (creator : Option (String → Action σ Unit)) (wantsArchive : Bool) :
    Action σ (Option String) := do
  allocate host path size
  let _ ← Filesystem.make host (.text path) (.text filesystem) .null
  match creator with
  | none => pure ()
  | some creator => populate host path creator
  if wantsArchive then
    let archived ← archive host (.text path)
    Logger.ownPartition.log .info ("Created " ++ archived)
    return some archived
  else return none

/-- Makes a file that holds one filesystem and returns its path, or that of its archive. A path that
is none and a size that cannot be written are refused beforehand. -/
def request (host : Host σ) (path : Value) (filesystem : String) (size : Value)
    (creator : Option (String → Action σ Unit)) (wantsArchive : Bool) : Action σ String := do
  let path ← Action.ofExcept path.asPath
  checkSize size
  Logger.ownPartition.log .debug ("Creating " ++ filesystem ++ " partition file " ++ path
    ++ " (" ++ size.shown ++ " MiB)")
  match ← Action.attempt (assemble host path filesystem size creator wantsArchive) with
  | .ok (some archived) => return archived
  | .ok none =>
    Logger.ownPartition.log .info ("Created " ++ path)
    return Path.normalize path
  | .error fault =>
    if fault.problem.isBuild then throw fault
    else if fault.problem.isOperational then
      let message := "Failed to create partition file " ++ path ++ ": " ++ fault.message
      throw (.dueTo (.build (.text message) (.text path)) fault)
    else throw fault

end DiskFixture.PartitionFile
