import DiskFixture.Settings

/-!
Temporary mounts. An image is mounted on a fresh directory for the time of a body. Afterwards,
however the body ended, writes are flushed, the image is unmounted and the directory removed; that
any of this fails is only logged. A directory that still holds something is kept.
-/

namespace DiskFixture

/-- Whether the problem is that a name is taken. -/
def Problem.isPresent : Problem → Bool
  | .system error => error.isOf .present
  | _ => false

namespace Mount

variable {σ : Type} {α : Type}

/-- What the name of a mount point starts with. -/
def directoryStart (settings : Fields) : String :=
  match Settings.lookup settings "mount_prefix" Settings.mountPrefixDefault with
  | .null => "tmp"
  | value => value.shown

/-- The path of the temporary directory with a number. -/
def pointPath (host : Host σ) (settings : Fields) (number : Nat) : String :=
  Path.join host.temporaryDirectory (directoryStart settings ++ host.temporary number)

/-- Tries to make the next directory. Its number is used up when the directory cannot be made, but
not when the host refuses. -/
def tryPoint (host : Host σ) : Action σ String := fun world =>
  let path := pointPath host world.settings (world.mounts + 1)
  let make : Action σ String := do
    modify fun world => { world with mounts := world.mounts + 1 }
    Action.filing (Filing.makeDirectory path)
    return path
  match host.refuse world.memory .makeDirectory path with
  | (some fault, memory) => .error (.ofCall fault) { world with memory }
  | (none, memory) => make { world with memory }

/-- What is reported of the last try. -/
def lastFault (host : Host σ) (fault : Fault) : Fault :=
  match fault.problem with
  | .system error => if error.isOf .present then .ofSystem (host.exhausted error) else fault
  | _ => fault

/-- Makes a fresh directory. A name that is taken is left for the next one, so many times. -/
def makePointWith (host : Host σ) : Nat → Action σ String
  | 0 => do
    match ← Action.attempt (tryPoint host) with
    | .ok point => return point
    | .error fault => throw (lastFault host fault)
  | retries + 1 => do
    let number := (← get).mounts + 1
    match ← Action.attempt (tryPoint host) with
    | .ok point => return point
    | .error fault =>
      unless fault.problem.isPresent do throw fault
      modify fun world => { world with mounts := number }
      makePointWith host retries

def makePoint (host : Host σ) : Action σ String := makePointWith host host.retries

/-- Runs an action and logs it under a heading if a tool or the file system fails. -/
def orLog (heading : String) (action : Action σ α) : Action σ Unit := do
  match ← Action.attempt action with
  | .ok _ => return
  | .error fault =>
    unless fault.problem.isOperational do throw fault
    Logger.ownPartition.log .error (heading ++ ": " ++ fault.message)

def release (host : Host σ) (point : String) (mounted : Bool) : Action σ Unit := do
  if mounted then
    orLog "Sync error" (Command.run host ["sync"])
    orLog "Umount error" (Command.run host ["umount", point])
  orLog "Remove error" (Action.guarded host .removeDirectory point (Filing.removeDirectory point))

def within (host : Host σ) (source : Value) (body : String → Action σ α) : Action σ α := do
  let point ← makePoint host
  match ← Action.attempt (Command.runValues host [.text "mount", source, .text point]) with
  | .error fault =>
    release host point false
    throw fault
  | .ok _ =>
    Logger.ownPartition.log .debug ("Mounted " ++ source.shown ++ " at " ++ point)
    let outcome ← Action.attempt (body point)
    release host point true
    match outcome with
    | .ok result => return result
    | .error fault => throw fault

end Mount

end DiskFixture
