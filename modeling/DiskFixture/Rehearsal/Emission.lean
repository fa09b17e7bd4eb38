import DiskFixture.Command
import DiskFixture.Rehearsal.Script
import DiskFixture.Value.Items

/-!
Emissions: what a rehearsal of logging logs, through a command, through a logger bound to a context
or through one of the loggers of the library. What is logged goes to the log files at once, so a
command that changes them finds there what was logged before it ran.
-/

namespace DiskFixture.Rehearsal

/-- Installs sinks as named arguments ask for. A rehearsal takes place at the epoch. -/
def installSinks (arguments : Fields) (default : Value) :
    Action Script (Sinks × Except Fault Unit) := do
  let (sinks, outcome) ← Sinks.installNamed (keeper .epoch) arguments default
  modify fun world => { world with memory := { world.memory with sinks } }
  return (sinks, outcome)

inductive LoggerName where
  | disk
  | partitionFile
  | verify
  | commands
  deriving DecidableEq, Repr

/-- Where the logger of an emission comes from: from a context, whose parts have names, or from a
name and arguments. -/
inductive LoggerSource where
  | context (bound : Fields)
  | named (name : LoggerName) (arguments : List Value)

inductive Emission where
  | run (words : List Value)
  | message (source : LoggerSource) (level content : Value) (stream : Option Value)

def LoggerName.signature : LoggerName → Signature
  | .disk => ⟨"LoggerFactory.for_disk", 0, [⟨"job_id", some .null⟩]⟩
  | .partitionFile => ⟨"LoggerFactory.for_partition_file", 0, [⟨"job_id", some .null⟩]⟩
  | .verify => ⟨"LoggerFactory.for_verify", 0, []⟩
  | .commands => ⟨"LoggerFactory.for_commands", 0, []⟩

namespace LoggerSource

def contextSignature : Signature :=
  ⟨"get_logger", 0, [⟨"job_id", some .null⟩, ⟨"tags", some .null⟩, ⟨"source", some .null⟩]⟩

/-- A value, unless it is null. -/
def given? : Option Value → Option Value
  | none | some .null => none
  | some value => some value

variable {σ : Type}

/-- The given job, or a fresh one. -/
def jobOr (host : Host σ) (word : String) (job : Option Value) : Action σ Value := do
  match given? job with
  | some job => return job
  | none => return .text (Logger.jobName word (← Action.freshJob host))

def bind (signature : Signature) (positional : List Value) (named : Fields) : Action σ Fields :=
  Action.ofExcept ((signature.bind positional named).mapError .arguments)

def logger (host : Host σ) : LoggerSource → Action σ Logger
  | .context bound => do
    let bound ← bind contextSignature [] bound
    let job := given? (bound.get? "job_id")
    let source := given? (bound.get? "source")
    match given? (bound.get? "tags") with
    | none => return .ofContext job none source
    | some tags =>
      match tags.items? with
      | none => Action.reject (.notIterable tags.kind)
      | some items => return .ofContext job (some items) source
  | .named name arguments => do
    let bound ← bind name.signature arguments []
    match name with
    | .disk => return .disk (← jobOr host "disk" (bound.get? "job_id"))
    | .partitionFile => return .partition (← jobOr host "part" (bound.get? "job_id"))
    | .verify => return .verify
    | .commands => return .command

end LoggerSource

namespace Emission

/-- The time that the log files of a rehearsal show. -/
def time : String := "TIME"

/-- Runs an action and then writes to the log files what it logged. -/
def recorded {α : Type} (action : Action Script α) : Action Script α := fun before =>
  let write (after : World Script) : World Script :=
    let fresh := after.records.drop before.records.length
    { after with files := after.memory.sinks.written (keeper .epoch) time fresh after.files }
  match action before with
  | .ok result after => .ok result (write after)
  | .error fault after => .error fault (write after)

/-- Logs a message at the level that a value asks for, unless it is below all levels with names. -/
def logAt {σ : Type} (logger : Logger) (level content : Value) : Action σ Unit := do
  let level ← Action.ofExcept (Level.ofValue level)
  if Level.trace.number ≤ level.number then logger.log level content.shown

/-- Runs a command, whose failure is passed over. -/
def runCommand (host : Host Script) (words : List Value) : Action Script Unit := do
  let argv ← Action.ofExcept (Command.words words)
  recorded (Command.announce argv)
  let reply ← Action.execute host argv
  match ← Action.attempt (recorded (Command.conclude argv reply)) with
  | .ok _ => return
  | .error fault => unless fault.problem.isStorage do throw fault

def perform (host : Host Script) : Emission → Action Script Unit
  | .run words => runCommand host words
  | .message source level content stream => recorded do
    let logger ← source.logger host
    let logger := match stream with
      | none => logger
      | some stream => logger.bind [("stream", stream)]
    logAt logger level content

end Emission

end DiskFixture.Rehearsal
