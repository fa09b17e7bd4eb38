import DiskFixture.Proofs.Log.Operation
import DiskFixture.Proofs.Text.Case

/-!
Operations of any name. The messages of an operation are templates, and one that cannot be filled in
comes between the body and the caller. Main statement: an operation ends as its body does, with one
record of how that was, exactly as far as its messages can be worded; those of a name without braces
always can.
-/

namespace DiskFixture

variable {σ : Type} {α : Type}

namespace Operation

/-- How an operation ends that goes wrong with a fault: in this fault and with a record of it, or,
if that cannot be worded, in the reason why and without a record. -/
def GoesWrong (name : String) (elapsed : Value) (fault : Fault) (before : List Record)
    (ends : Except Fault α) (records : List Record) : Prop :=
  match failed name elapsed fault with
  | .ok message => ends = .error fault ∧ ∃ extra, records = before ++ [⟨.error, message, extra⟩]
  | .error reason => ends = .error reason ∧ records = before

section Finish

variable {host : Host σ} {name : String} {body : Logger → Action σ α} {world : World σ}
  {log : Logger} {start : Float} {result : α} {fault : Fault}

theorem goesWrong_fail (host : Host σ) (name : String) (world : World σ) (log : Logger)
    (start : Float) (fault : Fault) :
    let action : Action σ α := fail host name log start fault
    GoesWrong name (duration start (host.clock world.readings)) fault world.records
      (ending action world) (after action world).records := by
  unfold GoesWrong
  cases wording : failed name (duration start (host.clock world.readings)) fault with
  | ok message =>
    obtain ⟨ends, extra, left⟩ := fail_of_worded (α := α) log wording
    exact ⟨ends, extra, congrArg World.records left⟩
  | error reason =>
    obtain ⟨ends, left⟩ := Logger.fill_of_error log .error
      { world with readings := world.readings + 1 } wording
    simp only [fail, ending_bind, after_bind, ending_now, after_now, ends, left]
    exact ⟨trivial, trivial⟩

/-- An operation whose body went well goes wrong where this cannot be told. -/
theorem goesWrong_finish_of_returns (returns : ending (body log) world = .ok result)
    (unworded : completed name (duration start (host.clock (after (body log) world).readings))
      = .error fault) :
    let left := after (body log) world
    let action := finish host name log start body
    GoesWrong name (duration start (host.clock (left.readings + 1))) fault left.records
      (ending action world) (after action world).records := by
  let late : World σ :=
    { after (body log) world with readings := (after (body log) world).readings + 1 }
  obtain ⟨fills, left⟩ := Logger.fill_of_error log .success late unworded
  have closes : ending (finish host name log start body) world
        = ending (fail host name log start fault : Action σ α) late ∧
      after (finish host name log start body) world
        = after (fail host name log start fault : Action σ α) late := by
    simp only [late] at fills left
    simp only [finish_eq_attempt, complete, ending_bind, after_bind, Action.ending_attempt,
      Action.after_attempt, returns, ending_now, after_now, fills, left, late]
    exact ⟨trivial, trivial⟩
  dsimp only
  rw [closes.1, closes.2]
  exact goesWrong_fail host name late log start fault

theorem goesWrong_finish_of_raises (raises : ending (body log) world = .error fault) :
    let left := after (body log) world
    let action := finish host name log start body
    GoesWrong name (duration start (host.clock left.readings)) fault left.records
      (ending action world) (after action world).records := by
  obtain ⟨ends, left⟩ := finish_of_raises host name start raises
  dsimp only
  rw [ends, left]
  exact goesWrong_fail host name (after (body log) world) log start fault

end Finish

/-- An action that is not even begun: it ends in a misuse, and nothing was done or logged. -/
def Refused (action : Action σ α) (world : World σ) : Prop :=
  (∃ misuse, ending action world = .error (.ofMisuse misuse)) ∧
    (after action world).records = world.records ∧ Alike (after action world) world

theorem Refused.bind {β : Type} {action : Action σ α} {world : World σ}
    (refused : Refused action world) (next : α → Action σ β) : Refused (action >>= next) world := by
  obtain ⟨⟨misuse, ends⟩, rest⟩ := refused
  rw [Refused, ending_bind, after_bind, ends]
  exact ⟨⟨misuse, rfl⟩, rest⟩

theorem Refused.inScope {action : Action σ α} (refused : ∀ start, Refused action start)
    (values : Fields) (world : World σ) : Refused (inScope values action) world := by
  obtain ⟨⟨misuse, ends⟩, silent, alike⟩ :=
    refused { world with scope := Fields.overlay world.scope values }
  rw [Refused, ending_inScope, after_inScope]
  exact ⟨⟨misuse, ends⟩, silent, alike.scene, alike.commands, alike.settings⟩

theorem Refused.freshJob {host : Host σ} {next : String → Action σ α}
    (refused : ∀ digits start, Refused (next digits) start) (world : World σ) :
    Refused (Action.freshJob host >>= next) world := by
  obtain ⟨⟨misuse, ends⟩, silent, alike⟩ :=
    refused (host.identifier (world.jobs + 1)) { world with jobs := world.jobs + 1 }
  exact ⟨⟨misuse, ends⟩, silent, alike.scene, alike.commands, alike.settings⟩

section Refusal

variable (host : Host σ) (name : String) {details : Fields} (body : Logger → Action σ α)
  (world : World σ)

/-- What an operation does in its scope before its body runs. -/
def opening (host : Host σ) (name : String) (details : Fields) (job : String) : Action σ Float := do
  let start ← Action.now host
  refuseDetail details messageDetail (.arguments (.repeated "Logger.debug" messageDetail))
  (logger name job).fill .debug (Text.capitalize name ++ " started") details
  return start

theorem opening_of_messageDetail (job : String) (taken : details.get? messageDetail ≠ none) :
    Refused (opening host name details job) world := by
  simp only [Refused, opening, refuseDetail_of_ne_none details taken, ending_bind, after_bind,
    ending_now, after_now, Action.ending_reject, Action.after_reject]
  exact ⟨⟨_, rfl⟩, trivial, rfl, rfl, rfl⟩

theorem opening_of_unstarted (job : String) (free : details.get? messageDetail = none)
    {fault : Fault} (unstarted : started name details = .error fault) :
    Refused (opening host name details job) world := by
  obtain ⟨misuse, rfl⟩ := Logger.isMisuse_of_wording unstarted
  obtain ⟨ends, left⟩ := Logger.fill_of_error (logger name job) .debug
    { world with readings := world.readings + 1 } unstarted
  simp only [Refused, opening, refuseDetail_of_none details free, pure_bind, ending_bind,
    after_bind, ending_now, after_now, ends, left]
  exact ⟨⟨_, rfl⟩, trivial, rfl, rfl, rfl⟩

variable (unnamed : details.get? "operation" = none) (jobless : details.get? "job_id" = none)
include unnamed jobless

theorem takeJob_eq : (takeJob host details : Action σ String) =
    Action.freshJob host >>= fun digits =>
      refuseDetail details loggerDetail
        (.arguments (.repeated "Logger.contextualize" loggerDetail)) >>= fun _ => pure digits := by
  simp only [takeJob, refuseDetail_of_none details unnamed, refuseDetail_of_none details jobless,
    pure_bind]

theorem refused_of_loggerDetail (taken : details.get? loggerDetail ≠ none) :
    Refused (run host name details body) world := by
  have rejected (digits : String) (start : World σ) :
      Refused (refuseDetail details loggerDetail (.arguments
        (.repeated "Logger.contextualize" loggerDetail)) >>= fun _ => pure digits) start := by
    rw [refuseDetail_of_ne_none details taken]
    exact ⟨⟨_, rfl⟩, rfl, rfl, rfl, rfl⟩
  rw [run, takeJob_eq host unnamed jobless]
  exact (Refused.freshJob rejected world).bind _

/-- An operation whose opening is refused is refused. -/
theorem refused_of_opening (free : details.get? loggerDetail = none)
    (refused : ∀ job start, Refused (opening host name details job) start) :
    Refused (run host name details body) world := by
  have parts : run host name details body = Action.freshJob host >>= fun digits =>
      inScope
        ([("job_id", .text (Logger.jobName name digits)), ("operation", .text name)] ++ details)
        (opening host name details (Logger.jobName name digits) >>= fun start =>
          finish host name (logger name (Logger.jobName name digits)) start body) := by
    simp only [run, takeJob_eq host unnamed jobless, refuseDetail_of_none details free, opening,
      bind_assoc, pure_bind]
  rw [parts]
  refine Refused.freshJob (fun digits start => ?_) world
  exact Refused.inScope (fun start => (refused _ start).bind _) _ start

end Refusal

section Run

variable (host : Host σ) (name : String) (details : Fields) (body : Logger → Action σ α)
  (world : World σ)

theorem isPlain_capitalize {text : String} (plain : Template.IsPlain text) :
    Template.IsPlain (Text.capitalize text) := by
  intro c inside
  constructor
  · rintro rfl
    exact (plain _ (Text.mem_of_mem_capitalize Text.isCaseless_brace.1 inside)).1 rfl
  · rintro rfl
    exact (plain _ (Text.mem_of_mem_capitalize Text.isCaseless_brace.2 inside)).2 rfl

/-- An operation ends as its body does, and with one record of that, exactly as far as its messages
can be worded. If its start cannot, or a detail stands in the place of the logger or the message, it
is refused and its body does not run; if its end cannot, the reason why comes out, and an operation
that went well counts as one that went wrong. For a name without braces all messages can. -/
theorem run_transparency (unnamed : details.get? "operation" = none)
    (jobless : details.get? "job_id" = none) :
    let action := run host name details body
    let ends := ending action world
    let records := (after action world).records
    let log := logger name (nextJob host name world)
    let elapsed (left : World σ) (later : Nat) : Value :=
      duration (host.clock world.readings) (host.clock (left.readings + later))
    let free := details.get? loggerDetail = none ∧ details.get? messageDetail = none
    (¬ free → Refused action world) ∧
    (∀ fault, started name details = .error fault → Refused action world) ∧
    (free → ∀ message, started name details = .ok message →
      let start := begun host name details message world
      let left := after (body log) start
      (∀ result, ending (body log) start = .ok result →
        (∀ message, completed name (elapsed left 0) = .ok message →
          ends = .ok result ∧ ∃ extra, records = left.records ++ [⟨.success, message, extra⟩]) ∧
        (∀ fault, completed name (elapsed left 0) = .error fault →
          GoesWrong name (elapsed left 1) fault left.records ends records)) ∧
      (∀ fault, ending (body log) start = .error fault →
        GoesWrong name (elapsed left 0) fault left.records ends records)) ∧
    (free → Template.IsPlain name →
      let start := opened host name details world
      ends = ending (body log) start ∧
        ∃ extra, records = (after (body log) start).records
          ++ [closing name (ending (body log) start) extra]) := by
  intro action ends records log elapsed free
  have reservedFree (isFree : free) : ∀ key ∈ reserved, details.get? key = none := by
    simp [reserved, unnamed, jobless, isFree.1, isFree.2]
  refine ⟨?_, ?_, ?_, ?_⟩
  · intro taken
    by_cases loggerFree : details.get? loggerDetail = none
    · have messageTaken : details.get? messageDetail ≠ none := fun none => taken ⟨loggerFree, none⟩
      exact refused_of_opening host name body world unnamed jobless loggerFree fun job start =>
        opening_of_messageDetail host name start job messageTaken
    · exact refused_of_loggerDetail host name body world unnamed jobless loggerFree
  · intro fault unstarted
    by_cases loggerFree : details.get? loggerDetail = none
    · refine refused_of_opening host name body world unnamed jobless loggerFree fun job start => ?_
      by_cases messageFree : details.get? messageDetail = none
      · exact opening_of_unstarted host name start job messageFree unstarted
      · exact opening_of_messageDetail host name start job messageFree
    · exact refused_of_loggerDetail host name body world unnamed jobless loggerFree
  · intro isFree message starts start left
    obtain ⟨same, leaves⟩ :=
      run_of_started host name details body world (reservedFree isFree) starts
    have recorded : records
        = (after (finish host name log (host.clock world.readings) body) start).records :=
      (congrArg World.records leaves).trans rfl
    have ended : ends = ending (finish host name log (host.clock world.readings) body) start := same
    constructor
    · intro result returns
      constructor
      · intro message worded
        obtain ⟨goes, extra, closes⟩ := finish_of_returns returns worded
        exact ⟨ended.trans goes, extra, recorded.trans (congrArg World.records closes)⟩
      · intro fault unworded
        rw [ended, recorded]
        exact goesWrong_finish_of_returns returns unworded
    · intro fault raises
      rw [ended, recorded]
      exact goesWrong_finish_of_raises raises
  · intro isFree plain start
    have plainly := isPlain_capitalize plain
    obtain ⟨goes, -⟩ := run_spec host name details body world (reservedFree isFree) plainly
    exact ⟨goes, records_after_run host name details body world (reservedFree isFree) plainly⟩

end Run

/-- A body that raises a text as an error. -/
def raising (reason : String) (_ : Logger) : Action Unit Unit :=
  throw (.ofProblem (.raised .value [.text reason]))

/-- In an operation with braces in its name, the fault of the body comes out as it is, and its text
is filled into the record of it. -/
theorem run_transparency_raising :
    let action := run .obliging "\x7berror\x7d" [] (raising "bad size")
    ending action .untouched = .error (.ofProblem (.raised .value [.text "bad size"])) ∧
      ((after action .untouched).records.map fun record => (record.level, record.message))
        = [(.debug, "\x7berror\x7d started"), (.error, "bad size failed")] := by
  intro action
  have same : Text.capitalize "\x7berror\x7d" = "\x7berror\x7d" := by decide +kernel
  have starts : started "\x7berror\x7d" [] = .ok "\x7berror\x7d started" := by
    rw [started, same]
    rfl
  have worded (elapsed : Value) : failed "\x7berror\x7d" elapsed
      (.ofProblem (.raised .value [.text "bad size"])) = .ok "bad size failed" := by
    rw [failed, same]
    rfl
  obtain ⟨-, -, course, -⟩ := run_transparency .obliging "\x7berror\x7d" [] (raising "bad size")
    .untouched (by decide) (by decide)
  obtain ⟨-, wrong⟩ := course ⟨by decide, by decide⟩ _ starts
  have raised := wrong _ rfl
  rw [GoesWrong, worded] at raised
  obtain ⟨ends, extra, records⟩ := raised
  exact ⟨ends, by rw [records]; rfl⟩

/-- An operation named by a field fails where its body went well: with the name of the field, or, if
the record of a failure has that field, even with such a record. -/
theorem run_named_by_field :
    let action (name : String) : Action Unit Unit := run .obliging name [] fun _ => pure ()
    let kind (name : String) : String :=
      match ending (action name) .untouched with
      | .ok _ => ""
      | .error fault => fault.kind
    kind "\x7bx\x7d" = "KeyError" ∧ kind "\x7berror\x7d" = "KeyError" ∧
      ((after (action "\x7berror\x7d") .untouched).records.map
        fun record => (record.level, record.message))
        = [(.debug, "\x7berror\x7d started"), (.error, "'error' failed")] := by
  decide +kernel

end Operation

end DiskFixture
