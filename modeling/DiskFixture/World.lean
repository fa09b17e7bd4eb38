import DiskFixture.Fault
import DiskFixture.Files.Change
import DiskFixture.Log.Record

/-!
The world in which the library acts: a file tree, the commands run so far, the records logged so
far, the settings, and a host that answers commands. What the host does may depend on everything
that happened before. An action changes the world and may end in a fault; what it did before the
fault remains done.
-/

namespace DiskFixture

/-- How a command ends: it exits with a status, zero if all went well, or the call of it fails. -/
inductive Reply where
  | exited (status : Value) (output : String)
  | failed (fault : CallFault)

inductive Guarded where
  | remove
  | removeTree
  | removeDirectory
  | makeDirectory
  deriving DecidableEq, Repr

/-- What lies outside the library. `σ` is the memory of the host. -/
structure Host (σ : Type) where
  /-- Runs a command, which may change files. -/
  run : σ → FileTree → List String → Reply × σ × FileTree
  /-- Whether a file operation at a path is refused. -/
  refuse : σ → Guarded → String → Option CallFault × σ
  /-- Whether a tool can be found. -/
  hasTool : σ → String → Bool
  /-- The hexadecimal digits of fresh identifiers. -/
  identifier : Nat → String
  /-- What makes the names of temporary directories different. -/
  temporary : Nat → String
  /-- Where temporary directories are made. -/
  temporaryDirectory : String
  /-- How often another name is tried for a temporary directory if a name is taken. -/
  retries : Nat
  /-- What is reported if no name is left to try and the last one was refused like this. -/
  exhausted : SystemError → SystemError
  /-- The readings of the clock, in seconds. -/
  clock : Nat → Float
  /-- The most bytes for which there is memory at once. -/
  memory : Nat

structure World (σ : Type) where
  memory : σ
  files : FileTree
  commands : List (List String)
  records : List Record
  settings : Fields
  /-- The extra values of every record. -/
  standing : Fields
  /-- The extra values of the records of the operation under way. -/
  scope : Fields
  /-- The numbers of readings and names taken so far. -/
  readings : Nat
  jobs : Nat
  images : Nat
  mounts : Nat

abbrev Action (σ : Type) := EStateM Fault (World σ)

namespace Action

variable {σ : Type} {α : Type}

/-- The fault or the result of an action, as a result. -/
def attempt (action : Action σ α) : Action σ (Except Fault α) := fun world =>
  match action world with
  | .ok result after => .ok (.ok result) after
  | .error fault after => .ok (.error fault) after

def filing (step : Filing α) : Action σ α := fun world =>
  match step world.files with
  | .ok result files => .ok result { world with files }
  | .error fault files => .error (.ofCall fault) { world with files }

/-- A step on the files that the host may refuse. -/
def guarded (host : Host σ) (operation : Guarded) (path : String) (step : Filing α) :
    Action σ α := fun world =>
  match host.refuse world.memory operation path with
  | (some fault, memory) => .error (.ofCall fault) { world with memory }
  | (none, memory) => filing step { world with memory }

def execute (host : Host σ) (argv : List String) : Action σ Reply := fun world =>
  let (reply, memory, files) := host.run world.memory world.files argv
  .ok reply { world with memory, files, commands := world.commands ++ [argv] }

def now (host : Host σ) : Action σ Float := fun world =>
  .ok (host.clock world.readings) { world with readings := world.readings + 1 }

/-- Digits that no other job has. -/
def freshJob (host : Host σ) : Action σ String := fun world =>
  .ok (host.identifier (world.jobs + 1)) { world with jobs := world.jobs + 1 }

/-- Digits that no other image has. -/
def freshImage (host : Host σ) : Action σ String := fun world =>
  .ok (host.identifier (world.images + 1)) { world with images := world.images + 1 }

def reject (misuse : Misuse) : Action σ α := throw (.ofMisuse misuse)

def ofExcept : Except Misuse α → Action σ α
  | .ok result => pure result
  | .error misuse => reject misuse

end Action

end DiskFixture
