import DiskFixture.Log.Operation
import DiskFixture.Proofs.Scene

/-!
Operations, the messages of which can be worded. An operation is its body between two records, as
long as its messages can be filled in; those of a plain name, without braces, always can. Main
statements: such an operation ends as its body does, what it does to files and commands is what its
body does, and it closes with one record, which tells how it ended.
-/

namespace DiskFixture

variable {σ : Type} {α : Type}

/-- Whether a text holds no brace, so that as a template it stands for itself. -/
def Template.IsPlain (text : String) : Prop :=
  ∀ c ∈ text.toList, c ≠ '\x7b' ∧ c ≠ '\x7d'

instance (text : String) : Decidable (Template.IsPlain text) :=
  List.decidableBAll (fun c => c ≠ '\x7b' ∧ c ≠ '\x7d') text.toList

namespace Logger

def notedWith (logger : Logger) (level : Level) (message : String) (keywords : Fields)
    (world : World σ) : World σ :=
  { world with
    records := world.records ++ [⟨level, message, Fields.overlay (logger.extra world) keywords⟩] }

/-- What a message with keywords reads, or why it cannot be worded. -/
def wording (template : String) (keywords : Fields) : Except Fault String :=
  if keywords.isEmpty then .ok template
  else (Template.fill template keywords).mapError fun fault => .ofMisuse (.template fault)

section Fill

variable {template : String} {keywords : Fields}

theorem wording_of_isPlain (plain : Template.IsPlain template) (keywords : Fields) :
    wording template keywords = .ok template := by
  unfold wording
  split
  · rfl
  · rw [Template.fill_of_no_brace template keywords plain, mapError_ok]

theorem isMisuse_of_wording {fault : Fault} (fails : wording template keywords = .error fault) :
    ∃ misuse, fault = .ofMisuse misuse := by
  unfold wording at fails
  split at fails
  · cases fails
  · cases fills : Template.fill template keywords with
    | ok message => simp [fills] at fails
    | error reason =>
      rw [fills] at fails
      exact ⟨_, (Except.error.inj fails).symm⟩

variable (logger : Logger) (level : Level) (world : World σ)

theorem fill_eq : logger.fill level template keywords world =
    match wording template keywords with
    | .ok message => .ok () (logger.notedWith level message keywords world)
    | .error fault => .error fault world := by
  unfold fill wording
  cases keywords with
  | nil => rfl
  | cons entry rest => cases Template.fill template (entry :: rest) <;> rfl

theorem fill_of_wording {message : String} (worded : wording template keywords = .ok message) :
    ending (logger.fill level template keywords) world = .ok () ∧
      after (logger.fill level template keywords) world
        = logger.notedWith level message keywords world := by
  rw [ending, after, fill_eq, worded]
  exact ⟨rfl, rfl⟩

theorem fill_of_error {fault : Fault} (fails : wording template keywords = .error fault) :
    ending (logger.fill level template keywords) world = .error fault ∧
      after (logger.fill level template keywords) world = world := by
  rw [ending, after, fill_eq, fails]
  exact ⟨rfl, rfl⟩

end Fill

end Logger

namespace Operation

/-- Names that a detail must not have. -/
def reserved : List String := ["operation", "job_id", loggerDetail, messageDetail]

def nextJob (host : Host σ) (name : String) (world : World σ) : String :=
  Logger.jobName name (host.identifier (world.jobs + 1))

/-- The world in which the body of an operation runs, once its start was told by a message. -/
def begun (host : Host σ) (name : String) (details : Fields) (message : String)
    (world : World σ) : World σ :=
  let job := nextJob host name world
  (logger name job).notedWith .debug message details
    { world with
      jobs := world.jobs + 1
      readings := world.readings + 1
      scope := Fields.overlay world.scope
        ([("job_id", .text job), ("operation", .text name)] ++ details) }

def opened (host : Host σ) (name : String) (details : Fields) (world : World σ) : World σ :=
  let job := nextJob host name world
  (logger name job).notedWith .debug (Text.capitalize name ++ " started") details
    { world with
      jobs := world.jobs + 1
      readings := world.readings + 1
      scope := Fields.overlay world.scope
        ([("job_id", .text job), ("operation", .text name)] ++ details) }

/-- Whether two worlds differ in nothing but what was logged, counted or put in scope. -/
structure Alike (a b : World σ) : Prop where
  scene : a.scene = b.scene
  commands : a.commands = b.commands
  settings : a.settings = b.settings

/-- The message about the start of an operation. -/
def started (name : String) (details : Fields) : Except Fault String :=
  Logger.wording (Text.capitalize name ++ " started") details

/-- The message about an operation that went well. -/
def completed (name : String) (elapsed : Value) : Except Fault String :=
  Logger.wording (Text.capitalize name ++ " completed") [("duration_seconds", elapsed)]

/-- The message about an operation that went wrong. -/
def failed (name : String) (elapsed : Value) (fault : Fault) : Except Fault String :=
  Logger.wording (Text.capitalize name ++ " failed")
    [("error", .text fault.message), ("error_type", .text fault.kind),
      ("duration_seconds", elapsed)]

theorem isPlain_append {front : String} (first : Template.IsPlain front) (rest : String)
    (second : Template.IsPlain rest) : Template.IsPlain (front ++ rest) := by
  intro c inside
  rw [String.toList_append, List.mem_append] at inside
  exact inside.elim (first c) (second c)

section InScope

variable (values : Fields) (action : Action σ α) (world : World σ)

theorem ending_inScope :
    ending (inScope values action) world
      = ending action { world with scope := Fields.overlay world.scope values } := by
  simp only [ending, inScope]
  cases action { world with scope := Fields.overlay world.scope values } <;> rfl

theorem after_inScope :
    after (inScope values action) world
      = { after action { world with scope := Fields.overlay world.scope values } with
          scope := world.scope } := by
  simp only [after, inScope]
  cases action { world with scope := Fields.overlay world.scope values } <;> rfl

end InScope

section Run

variable (host : Host σ) (name : String) (details : Fields) (body : Logger → Action σ α)
  (world : World σ)

/-- The record with which an operation closes. -/
def closing (name : String) (ends : Except Fault α) (extra : Fields) : Record :=
  match ends with
  | .ok _ => ⟨.success, Text.capitalize name ++ " completed", extra⟩
  | .error _ => ⟨.error, Text.capitalize name ++ " failed", extra⟩

/-- The body of an operation and the record that it went well. -/
def complete (log : Logger) (start : Float) : Action σ α := do
  let result ← body log
  let stop ← Action.now host
  log.fill .success (Text.capitalize name ++ " completed")
    [("duration_seconds", duration start stop)]
  return result

/-- The record that an operation went wrong, and the fault with which it did. -/
def fail (log : Logger) (start : Float) (fault : Fault) : Action σ α := do
  let stop ← Action.now host
  log.fill .error (Text.capitalize name ++ " failed")
    [("error", .text fault.message), ("error_type", .text fault.kind),
      ("duration_seconds", duration start stop)]
  throw fault

theorem finish_eq_attempt (log : Logger) (start : Float) :
    finish host name log start body =
      Action.attempt (complete host name body log start) >>= fun outcome =>
        match outcome with
        | .ok result => pure result
        | .error fault => fail host name log start fault := rfl

theorem ending_now : ending (Action.now host) world = .ok (host.clock world.readings) := rfl

theorem after_now :
    after (Action.now host) world = { world with readings := world.readings + 1 } := rfl

section Finish

variable {host name body world} {log : Logger} {start : Float} {result : α} {fault : Fault}
  {message : String}

/-- An operation that goes well closes with a reading of the clock and a record. -/
theorem finish_of_returns (returns : ending (body log) world = .ok result)
    (worded : completed name (duration start (host.clock (after (body log) world).readings))
      = .ok message) :
    let left := after (body log) world
    ending (finish host name log start body) world = .ok result ∧
      ∃ extra, after (finish host name log start body) world
        = { left with
            readings := left.readings + 1
            records := left.records ++ [⟨.success, message, extra⟩] } := by
  obtain ⟨fills, left⟩ := Logger.fill_of_wording log .success
    { after (body log) world with readings := (after (body log) world).readings + 1 } worded
  simp only [finish_eq_attempt, complete, ending_bind, after_bind, Action.ending_attempt,
    Action.after_attempt, returns, ending_now, after_now, fills, left, ending_pure, after_pure]
  exact ⟨trivial, _, rfl⟩

variable (log) in
theorem fail_of_worded
    (worded : failed name (duration start (host.clock world.readings)) fault = .ok message) :
    ending (fail host name log start fault : Action σ α) world = .error fault ∧
      ∃ extra, after (fail host name log start fault : Action σ α) world
        = { world with
            readings := world.readings + 1
            records := world.records ++ [⟨.error, message, extra⟩] } := by
  obtain ⟨fills, left⟩ := Logger.fill_of_wording log .error
    { world with readings := world.readings + 1 } worded
  simp only [fail, ending_bind, after_bind, ending_now, after_now, fills, left, ending_throw,
    after_throw]
  exact ⟨trivial, _, rfl⟩

variable (host name start) in
theorem finish_of_raises (raises : ending (body log) world = .error fault) :
    ending (finish host name log start body) world
        = ending (fail host name log start fault : Action σ α) (after (body log) world) ∧
      after (finish host name log start body) world
        = after (fail host name log start fault : Action σ α) (after (body log) world) := by
  simp only [finish_eq_attempt, complete, ending_bind, after_bind, Action.ending_attempt,
    Action.after_attempt, raises]
  exact ⟨trivial, trivial⟩

end Finish

/-- An operation of a plain name closes with a reading of the clock and a record. -/
theorem finish_eq (plain : Template.IsPlain (Text.capitalize name)) (log : Logger) (start : Float) :
    let left := after (body log) world
    ending (finish host name log start body) world = ending (body log) world ∧
      ∃ extra, after (finish host name log start body) world
        = { left with
            readings := left.readings + 1
            records := left.records ++ [closing name (ending (body log) world) extra] } := by
  cases ends : ending (body log) world with
  | ok result =>
    have plainly := isPlain_append plain " completed" (by decide)
    exact finish_of_returns ends (Logger.wording_of_isPlain plainly _)
  | error fault =>
    have plainly := isPlain_append plain " failed" (by decide)
    obtain ⟨same, left⟩ := finish_of_raises host name start ends
    rw [same, left]
    exact fail_of_worded log (Logger.wording_of_isPlain plainly _)

omit host name body world in
theorem refuseDetail_of_none {key : String} (free : details.get? key = none) (misuse : Misuse) :
    (refuseDetail details key misuse : Action σ Unit) = pure () := by
  simp [refuseDetail, free]

omit host name body world in
theorem refuseDetail_of_ne_none {key : String} (taken : details.get? key ≠ none)
    (misuse : Misuse) :
    (refuseDetail details key misuse : Action σ Unit) = Action.reject misuse := by
  simp [refuseDetail, Option.isSome_iff_ne_none.2 taken]

/-- An operation whose start can be told is its body in a world where it was begun, and the closing
of it. -/
theorem run_of_started (free : ∀ key ∈ reserved, details.get? key = none) {message : String}
    (starts : started name details = .ok message) :
    let log := logger name (nextJob host name world)
    let start := begun host name details message world
    let closed := finish host name log (host.clock world.readings) body
    ending (run host name details body) world = ending closed start ∧
      after (run host name details body) world
        = { after closed start with scope := world.scope } := by
  have refuses (key : String) (inside : key ∈ reserved) (misuse : Misuse) :
      (refuseDetail details key misuse : Action σ Unit) = pure () :=
    refuseDetail_of_none details (free key inside) misuse
  have takes : takeJob host details = Action.freshJob host := by
    simp [takeJob, refuses "operation" (by simp [reserved]),
      refuses "job_id" (by simp [reserved]),
      refuses loggerDetail (by simp [reserved])]
  have digits : ending (Action.freshJob host) world = .ok (host.identifier (world.jobs + 1)) := rfl
  have counted : after (Action.freshJob host) world = { world with jobs := world.jobs + 1 } := rfl
  have tells (job : String) (world : World σ) :=
    Logger.fill_of_wording (logger name job) .debug world starts
  simp only [run, takes, refuses messageDetail (by simp [reserved]), ending_bind,
    after_bind, digits, counted, ending_inScope, after_inScope, ending_now, after_now, pure_bind,
    tells]
  exact ⟨rfl, rfl⟩

theorem run_eq (free : ∀ key ∈ reserved, details.get? key = none)
    (plain : Template.IsPlain (Text.capitalize name)) :
    let log := logger name (nextJob host name world)
    let start := opened host name details world
    let closed := finish host name log (host.clock world.readings) body
    ending (run host name details body) world = ending closed start ∧
      after (run host name details body) world
        = { after closed start with scope := world.scope } := by
  have plainly := isPlain_append plain " started" (by decide)
  exact run_of_started host name details body world free
    (Logger.wording_of_isPlain plainly details)

theorem run_spec (free : ∀ key ∈ reserved, details.get? key = none)
    (plain : Template.IsPlain (Text.capitalize name)) :
    let log := logger name (nextJob host name world)
    ending (run host name details body) world
        = ending (body log) (opened host name details world) ∧
      Alike (after (run host name details body) world)
        (after (body log) (opened host name details world)) := by
  obtain ⟨same, left⟩ := run_eq host name details body world free plain
  obtain ⟨ends, extra, closed⟩ := finish_eq host name body (opened host name details world) plain
    (logger name (nextJob host name world)) (host.clock world.readings)
  dsimp only
  rw [same, left, closed]
  exact ⟨ends, rfl, rfl, rfl⟩

theorem records_after_run (free : ∀ key ∈ reserved, details.get? key = none)
    (plain : Template.IsPlain (Text.capitalize name)) :
    let log := logger name (nextJob host name world)
    let start := opened host name details world
    ∃ extra, (after (run host name details body) world).records
      = (after (body log) start).records ++ [closing name (ending (body log) start) extra] := by
  obtain ⟨-, left⟩ := run_eq host name details body world free plain
  obtain ⟨-, extra, closed⟩ := finish_eq host name body (opened host name details world) plain
    (logger name (nextJob host name world)) (host.clock world.readings)
  exact ⟨extra, by rw [left, closed]⟩

end Run

end Operation

end DiskFixture
