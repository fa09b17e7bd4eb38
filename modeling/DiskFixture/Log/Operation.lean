import DiskFixture.Decimal.Double
import DiskFixture.Log.Logger
import DiskFixture.Text.Case

/-!
Operations. An operation logs its start, gives its name, job and details to every record within it,
and logs how it ended and how long it took. The messages are templates, so braces in the name of an
operation are fields.
-/

namespace DiskFixture.Operation

variable {σ : Type} {α : Type}

/-- Runs an action in which records have further values. -/
def inScope (values : Fields) (action : Action σ α) : Action σ α := fun world =>
  match action { world with scope := Fields.overlay world.scope values } with
  | .ok result after => .ok result { after with scope := world.scope }
  | .error fault after => .error fault { after with scope := world.scope }

/-- The seconds between two readings of the clock, to two places. -/
def duration (start stop : Float) : Value :=
  .float (Decimal.roundPlaces 2 (stop - start))

def logger (name job : String) : Logger :=
  ⟨[("source", .text name), ("job_id", .text job), ("tags", .ofTexts [name])]⟩

/-- What the body's records and the last record of an operation are made from. -/
def finish (host : Host σ) (name : String) (log : Logger) (start : Float)
    (body : Logger → Action σ α) : Action σ α := do
  let outcome ← Action.attempt do
    let result ← body log
    let stop ← Action.now host
    log.fill .success (Text.capitalize name ++ " completed")
      [("duration_seconds", duration start stop)]
    return result
  match outcome with
  | .ok result => return result
  | .error fault =>
    let stop ← Action.now host
    log.fill .error (Text.capitalize name ++ " failed")
      [("error", .text fault.message), ("error_type", .text fault.kind),
        ("duration_seconds", duration start stop)]
    throw fault

/-- The detail in the place of the logger itself. -/
def loggerDetail : String := "_Logger__self"

/-- The detail in the place of a message. -/
def messageDetail : String := "_Logger__message"

def refuseDetail (details : Fields) (name : String) (misuse : Misuse) : Action σ Unit := do
  if (details.get? name).isSome then Action.reject misuse

/-- Takes a job for an operation. No detail may name the operation, the job or the logger. -/
def takeJob (host : Host σ) (details : Fields) : Action σ String := do
  refuseDetail details "operation" (.arguments (.repeated "operation_context" "operation"))
  let digits ← Action.freshJob host
  refuseDetail details "job_id" (.repeatedDetail "job_id")
  refuseDetail details loggerDetail (.arguments (.repeated "Logger.contextualize" loggerDetail))
  return digits

def run (host : Host σ) (name : String) (details : Fields) (body : Logger → Action σ α) :
    Action σ α := do
  let job := Logger.jobName name (← takeJob host details)
  inScope ([("job_id", .text job), ("operation", .text name)] ++ details) do
    let start ← Action.now host
    let log := logger name job
    refuseDetail details messageDetail (.arguments (.repeated "Logger.debug" messageDetail))
    log.fill .debug (Text.capitalize name ++ " started") details
    finish host name log start body

/-- Runs `body` as an operation that is named by a value: by a text, or by nothing at all. -/
def runNamed (host : Host σ) (name : Value) (details : Fields) (body : Logger → Action σ α) :
    Action σ α := do
  match name with
  | .text name => run host name details body
  | other =>
    let _ ← takeJob host details
    Action.reject (.lacks other.kind "capitalize")

end DiskFixture.Operation
