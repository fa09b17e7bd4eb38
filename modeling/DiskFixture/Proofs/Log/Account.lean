import DiskFixture.Proofs.Log.Remark
import DiskFixture.Proofs.Log.Transparency

/-!
The account of an operation. Main statement: an operation whose body only logs, by any loggers and
through commands, leaves one record that it started, those of its body in their order, and one
record of how it ended; all of them name the operation and its job and have its details, but for
what their own logger names otherwise.
-/

namespace DiskFixture

variable {σ : Type} {α : Type}

/-- A body that does nothing but log and run commands, and then returns or raises. How it goes on
may depend on whether a message could be filled in and on what a command gave. -/
inductive Account (α : Type) where
  | returns (result : α)
  | raises (fault : Fault)
  | tells (logger : Logger) (level : Level) (template : String) (keywords : Fields)
    (next : Except Fault Unit → Account α)
  | runs (values : List Value) (next : Except Fault String → Account α)

namespace Account

def act (host : Host σ) : Account α → Action σ α
  | .returns result => pure result
  | .raises fault => throw fault
  | .tells logger level template keywords next => do
    let outcome ← Action.attempt (logger.fill level template keywords)
    (next outcome).act host
  | .runs values next => do
    let outcome ← Action.attempt (Command.runValues host values)
    (next outcome).act host

/-- Whether a message could be filled in. -/
def worded (template : String) (keywords : Fields) : Except Fault Unit :=
  (Logger.wording template keywords).map fun _ => ()

/-- What a body tells, in order. -/
def remarks (host : Host σ) (scene : Scene σ) : Account α → List Remark
  | .returns _ | .raises _ => []
  | .tells logger level template keywords next =>
    Remark.ofTemplate logger level template keywords
      ++ (next (worded template keywords)).remarks host scene
  | .runs values next =>
    Command.remarksOf host scene values
      ++ (next (Command.readingOf host scene values)).remarks host
        (Command.sceneAfter host scene values)

/-- How a body ends. -/
def outcome (host : Host σ) (scene : Scene σ) : Account α → Except Fault α
  | .returns result => .ok result
  | .raises fault => .error fault
  | .tells _ _ template keywords next => (next (worded template keywords)).outcome host scene
  | .runs values next =>
    (next (Command.readingOf host scene values)).outcome host
      (Command.sceneAfter host scene values)

theorem attempt_fill (logger : Logger) (level : Level) (template : String) (keywords : Fields)
    (world : World σ) :
    let attempt := Action.attempt (logger.fill level template keywords)
    ending attempt world = .ok (worded template keywords) ∧
      (after attempt world).scene = world.scene := by
  dsimp only
  rw [Action.ending_attempt, Action.after_attempt, worded]
  cases filled : Logger.wording template keywords with
  | ok message =>
    obtain ⟨ends, left⟩ := Logger.fill_of_wording logger level world filled
    rw [ends, left]
    exact ⟨rfl, rfl⟩
  | error fault =>
    obtain ⟨ends, left⟩ := Logger.fill_of_error logger level world filled
    rw [ends, left]
    exact ⟨rfl, rfl⟩

/-- A body tells its remarks and ends as it does. -/
theorem act_spec (host : Host σ) (account : Account α) (world : World σ) :
    Tells (account.act host) world (account.remarks host world.scene) ∧
      ending (account.act host) world = account.outcome host world.scene := by
  -- The rest of a body acts in the world that its first part leaves, hence in any.
  induction account generalizing world with
  | returns result => exact ⟨.pure result world, rfl⟩
  | raises fault => exact ⟨.throw fault world, rfl⟩
  | tells logger level template keywords next ih =>
    obtain ⟨ends, scene⟩ := attempt_fill logger level template keywords world
    have first := (Tells.fill logger level template keywords world).attempt
    obtain ⟨later, stops⟩ := ih (worded template keywords)
      (after (Action.attempt (logger.fill level template keywords)) world)
    rw [scene] at later stops
    refine ⟨first.bind_of_ok ends later, ?_⟩
    rw [act, ending_bind, ends]
    exact stops
  | runs values next ih =>
    have ends : ending (Action.attempt (Command.runValues host values)) world
        = .ok (Command.readingOf host world.scene values) := by
      rw [Action.ending_attempt, Command.ending_runValues]
    have scene : (after (Action.attempt (Command.runValues host values)) world).scene
        = Command.sceneAfter host world.scene values := by
      rw [Action.after_attempt, Command.scene_after_runValues]
    have first := (Command.tells_runValues host world values).attempt
    obtain ⟨later, stops⟩ := ih (Command.readingOf host world.scene values)
      (after (Action.attempt (Command.runValues host values)) world)
    rw [scene] at later stops
    refine ⟨first.bind_of_ok ends later, ?_⟩
    rw [act, ending_bind, ends]
    exact stops

end Account

namespace Operation

/-- What is told first of an operation. -/
def firstRemark (name : String) (details : Fields) (log : Logger) : Remark :=
  ⟨log, .debug, Text.capitalize name ++ " started", details⟩

/-- What is told last of an operation, by how it ended. -/
def lastRemark (name : String) (log : Logger) (elapsed : Value) : Except Fault α → Remark
  | .ok _ =>
    ⟨log, .success, Text.capitalize name ++ " completed", [("duration_seconds", elapsed)]⟩
  | .error fault =>
    ⟨log, .error, Text.capitalize name ++ " failed",
      [("error", .text fault.message), ("error_type", .text fault.kind),
        ("duration_seconds", elapsed)]⟩

/-- The keywords of what is told last of an operation. -/
def lastKeywords : List String := ["error", "error_type", "duration_seconds"]

theorem record_lastRemark (name : String) (log : Logger) (elapsed : Value) (ends : Except Fault α)
    (base : Fields) :
    (lastRemark name log elapsed ends).record base
      = closing name ends ((lastRemark name log elapsed ends).record base).extra := by
  cases ends <;> rfl

theorem last?_lastRemark {key : String} (other : key ∉ lastKeywords) (name : String)
    (log : Logger) (elapsed : Value) (ends : Except Fault α) :
    Fields.last? (lastRemark name log elapsed ends).keywords key = none := by
  apply Fields.last?_eq_none
  rintro entry member rfl
  apply other
  cases ends with
  | ok result =>
    obtain rfl := List.mem_singleton.1 member
    simp [lastKeywords]
  | error fault =>
    simp only [lastRemark, List.mem_cons, List.not_mem_nil, or_false] at member
    rcases member with rfl | rfl | rfl <;> simp [lastKeywords]

section Finish

variable {host : Host σ} {name : String} {body : Logger → Action σ α} {world : World σ}
  {log : Logger} {told : List Remark}

/-- A template without braces is told as it is. -/
theorem tells_fill_of_isPlain {template : String} (plain : Template.IsPlain template)
    (logger : Logger) (level : Level) (keywords : Fields) (world : World σ) :
    Tells (logger.fill level template keywords) world [⟨logger, level, template, keywords⟩] ∧
      ending (logger.fill level template keywords) world = .ok () := by
  have worded := Logger.wording_of_isPlain plain keywords
  have tells := Tells.fill logger level template keywords world
  rw [Remark.ofTemplate, worded] at tells
  exact ⟨tells, (Logger.fill_of_wording logger level world worded).1⟩

theorem tells_now (host : Host σ) (world : World σ) : Tells (Action.now host) world [] :=
  .of_quiet rfl rfl

variable (plain : Template.IsPlain (Text.capitalize name)) (start : Float)
  (tells : Tells (body log) world told)
include plain tells

/-- The body of an operation and the record that it went well. -/
theorem tells_complete {result : α} (returns : ending (body log) world = .ok result) :
    ∃ elapsed, Tells (complete host name body log start) world
        (told ++ [lastRemark name log elapsed (.ok result : Except Fault α)]) ∧
      ending (complete host name body log start) world = .ok result := by
  let left := after (body log) world
  let elapsed := duration start (host.clock left.readings)
  obtain ⟨fills, filled⟩ := tells_fill_of_isPlain (isPlain_append plain " completed" (by decide))
    log .success [("duration_seconds", elapsed)] (after (Action.now host) left)
  have closes : Tells (Action.now host >>= fun stop =>
      log.fill .success (Text.capitalize name ++ " completed")
        [("duration_seconds", duration start stop)] >>= fun _ => pure result) left
      [lastRemark name log elapsed (.ok result : Except Fault α)] :=
    (tells_now host left).bind_of_ok (ending_now host left)
      (fills.bind_of_ok filled (.pure result _))
  refine ⟨elapsed, tells.bind_of_ok returns closes, ?_⟩
  simp only [complete, ending_bind, returns, ending_now]
  rw [filled]
  rfl

omit tells in
/-- The record that an operation went wrong. -/
theorem tells_fail (log : Logger) (fault : Fault) (world : World σ) :
    ∃ elapsed, Tells (fail host name log start fault : Action σ α) world
      [lastRemark name log elapsed (.error fault : Except Fault α)] := by
  let elapsed := duration start (host.clock world.readings)
  obtain ⟨fills, filled⟩ := tells_fill_of_isPlain (isPlain_append plain " failed" (by decide))
    log .error [("error", .text fault.message), ("error_type", .text fault.kind),
      ("duration_seconds", elapsed)] (after (Action.now host) world)
  refine ⟨elapsed, ?_⟩
  exact (tells_now host world).bind_of_ok (ending_now host world)
    (fills.bind_of_ok filled (.throw fault _))

/-- An operation of a plain name tells what its body does, and then how that ended. -/
theorem tells_finish :
    ∃ elapsed, Tells (finish host name log start body) world
      (told ++ [lastRemark name log elapsed (ending (body log) world)]) := by
  rw [finish_eq_attempt]
  cases ends : ending (body log) world with
  | ok result =>
    obtain ⟨elapsed, completes, returns⟩ := tells_complete plain start tells ends
    have attempts : ending (Action.attempt (complete host name body log start)) world
        = .ok (.ok result) := by
      rw [Action.ending_attempt, returns]
    refine ⟨elapsed, ?_⟩
    rw [← List.append_nil (told ++ _)]
    exact completes.attempt.bind_of_ok attempts (.pure result _)
  | error fault =>
    have stops : ending (complete host name body log start) world = .error fault := by
      rw [complete, ending_bind, ends]
    have attempts : ending (Action.attempt (complete host name body log start)) world
        = .ok (.error fault) := by
      rw [Action.ending_attempt, stops]
    have raises : Tells (complete host name body log start) world told :=
      tells.bind_of_error ends
    obtain ⟨elapsed, fails⟩ := tells_fail (α := α) plain start log fault
      (after (Action.attempt (complete host name body log start)) world)
    exact ⟨elapsed, raises.attempt.bind_of_ok attempts fails⟩

end Finish

section Belongs

/-- What extra values tell of the operation in which a record was logged: its name, its job and its
details, unless the logger has `own` values of that name. -/
structure Belongs (name job : String) (details own extra : Fields) : Prop where
  operation : "operation" ∉ Fields.names own → extra.get? "operation" = some (.text name)
  job : extra.get? "job_id" = some ((Fields.last? own "job_id").getD (.text job))
  details : ∀ key value, details.get? key = some value → key ∉ Fields.names own →
    extra.get? key = some value

variable {host : Host σ} {name job : String} {details own extra keywords : Fields}
  {world : World σ}

/-- Own values and keywords after them count as own values. -/
theorem Belongs.overlay (belongs : Belongs name job details [] extra) (own : Fields) :
    Belongs name job details own (Fields.overlay extra own) := by
  refine ⟨fun free => ?_, ?_, fun key value detail free => ?_⟩
  · rw [Fields.get?_overlay, Fields.last?_eq_none_of_names free]
    exact belongs.operation List.not_mem_nil
  · rw [Fields.get?_overlay, belongs.job]
    cases Fields.last? own "job_id" <;> rfl
  · rw [Fields.get?_overlay, Fields.last?_eq_none_of_names free]
    exact belongs.details key value detail List.not_mem_nil

/-- Keywords do not count if they give neither a name nor a job and leave the details as they
are. -/
theorem Belongs.withKeywords (belongs : Belongs name job details own extra)
    (unnamed : Fields.last? keywords "operation" = none)
    (jobless : Fields.last? keywords "job_id" = none)
    (agree : ∀ key value, details.get? key = some value →
      Fields.last? keywords key = none ∨ Fields.last? keywords key = some value) :
    Belongs name job details own (Fields.overlay extra keywords) := by
  refine ⟨fun free => ?_, ?_, fun key value detail free => ?_⟩
  · rw [Fields.get?_overlay, unnamed]
    exact belongs.operation free
  · rw [Fields.get?_overlay, jobless]
    exact belongs.job
  · rw [Fields.get?_overlay]
    rcases agree key value detail with none | same
    · rw [none]
      exact belongs.details key value detail free
    · rw [same]
      rfl

variable (distinct : (Fields.names details).Nodup) (orderly : (Fields.names world.scope).Nodup)
  (unnamed : details.get? "operation" = none) (jobless : details.get? "job_id" = none)
include distinct orderly unnamed jobless

/-- In an operation the extra values tell of it. -/
theorem belongs_opened :
    Belongs name (nextJob host name world) details [] (opened host name details world).extra := by
  let job := nextJob host name world
  have found (key : String) : (opened host name details world).extra.get? key
      = ((details.get? key).or (Fields.last? [("job_id", .text job), ("operation", .text name)]
          key)).or ((world.scope.get? key).or (world.standing.get? key)) := by
    have scope : (opened host name details world).scope = Fields.overlay world.scope
        ([("job_id", .text job), ("operation", .text name)] ++ details) := rfl
    have standing : (opened host name details world).standing = world.standing := rfl
    rw [World.extra, Fields.get?_overlay, scope, standing,
      Fields.last?_eq_get? (Fields.nodup_names_overlay orderly), Fields.get?_overlay,
      Fields.last?_append, Fields.last?_eq_get? distinct, Option.or_assoc]
  refine ⟨fun _ => ?_, ?_, fun key value detail _ => ?_⟩
  · rw [found, unnamed]
    rfl
  · rw [found, jobless]
    rfl
  · rw [found, detail]
    rfl

end Belongs

section Run

variable (host : Host σ) (name : String) (details : Fields) (body : Logger → Account α)
  (world : World σ)

/-- An operation tells what it tells first, what its body tells, and what it tells last. -/
theorem records_of_account (free : ∀ key ∈ reserved, details.get? key = none)
    (plain : Template.IsPlain (Text.capitalize name)) :
    let log := logger name (nextJob host name world)
    let action := run host name details fun log => (body log).act host
    let outcome := (body log).outcome host world.scene
    ending action world = outcome ∧
      ∃ elapsed, (after action world).records = world.records ++
        (firstRemark name details log :: (body log).remarks host world.scene
          ++ [lastRemark name log elapsed outcome]).map
          (Remark.record (opened host name details world).extra) := by
  intro log action outcome
  let start := opened host name details world
  let acts (log : Logger) : Action σ α := (body log).act host
  obtain ⟨tells, ends⟩ := (body log).act_spec host start
  have tells : Tells (acts log) start ((body log).remarks host world.scene) := tells
  obtain ⟨elapsed, closes⟩ := tells_finish plain (host.clock world.readings) tells
  obtain ⟨-, left⟩ := run_eq host name details acts world free plain
  obtain ⟨returns, -⟩ := run_spec host name details acts world free plain
  refine ⟨returns.trans ends, elapsed, ?_⟩
  have opens : start.records
      = world.records ++ [(firstRemark name details log).record start.extra] := rfl
  have records : (after action world).records
      = (after (finish host name log (host.clock world.readings) acts) start).records :=
    (congrArg World.records left).trans rfl
  rw [records, closes.records, opens, ends, List.append_assoc]
  rfl

/-- The records of an operation of a plain name, whose details have names of their own: that it
started, what its body told, and how it ended. Each tells of the operation, unless its own logger
has other values. -/
theorem run_account (plain : Template.IsPlain name)
    (free : ∀ key ∈ reserved ++ lastKeywords, details.get? key = none)
    (distinct : (Fields.names details).Nodup) (orderly : (Fields.names world.scope).Nodup) :
    let job := nextJob host name world
    let log := logger name job
    let told := (body log).remarks host world.scene
    let outcome := (body log).outcome host world.scene
    let action := run host name details fun log => (body log).act host
    let base := (opened host name details world).extra
    ending action world = outcome ∧
      ∃ first last,
        (after action world).records = world.records
          ++ (⟨.debug, Text.capitalize name ++ " started", first⟩ :: told.map (Remark.record base)
            ++ [closing name outcome last]) ∧
        Belongs name job details log.bound first ∧
        (∀ remark ∈ told, Belongs name job details (remark.logger.bound ++ remark.keywords)
          (remark.record base).extra) ∧
        Belongs name job details log.bound last ∧
        ∀ fault, outcome = .error fault →
          last.get? "error" = some (.text fault.message) ∧
            last.get? "error_type" = some (.text fault.kind) := by
  intro job log told outcome action base
  have reservedFree : ∀ key ∈ reserved, details.get? key = none := fun key inside =>
    free key (List.mem_append_left _ inside)
  obtain ⟨ends, elapsed, records⟩ :=
    records_of_account host name details body world reservedFree (isPlain_capitalize plain)
  have unnamed := reservedFree "operation" (by simp [reserved])
  have jobless := reservedFree "job_id" (by simp [reserved])
  have belongs : Belongs name job details [] base :=
    belongs_opened distinct orderly unnamed jobless
  have bound := belongs.overlay log.bound
  let first := (firstRemark name details log).record base
  let last := (lastRemark name log elapsed outcome).record base
  refine ⟨ends, first.extra, last.extra, ?_, ?_, ?_, ?_, ?_⟩
  · rw [← record_lastRemark]
    refine records.trans ?_
    rw [List.map_append]
    rfl
  · -- the first record has the details once more, as keywords
    refine bound.withKeywords ?_ ?_ fun key value detail => .inr ?_
    · exact (Fields.last?_eq_get? distinct _).trans unnamed
    · exact (Fields.last?_eq_get? distinct _).trans jobless
    · exact (Fields.last?_eq_get? distinct _).trans detail
  · intro remark _
    rw [Remark.record, ← Fields.overlay_append]
    exact belongs.overlay _
  · have extra : last.extra = Fields.overlay (Fields.overlay base log.bound)
        (lastRemark name log elapsed outcome).keywords := by
      simp only [last]
      cases outcome <;> rfl
    rw [extra]
    refine bound.withKeywords ?_ ?_ fun key value detail => .inl ?_
    · exact last?_lastRemark (by decide) _ _ _ _
    · exact last?_lastRemark (by decide) _ _ _ _
    · apply last?_lastRemark
      intro taken
      rw [free key (List.mem_append_right _ taken)] at detail
      cases detail
  · intro fault raises
    simp only [last, raises]
    exact ⟨Remark.get?_record .., Remark.get?_record ..⟩

end Run

/-- A body that logs, with its own logger and with that of another job, runs a command that fails,
and raises. -/
def troubled (log : Logger) : Account Unit :=
  .tells log .info "formatting" [] fun _ =>
    .tells (.disk (.text "disk-7")) .info "waiting" [] fun _ =>
      .runs [.text "mkfs.ext4"] fun _ =>
        .raises (.ofProblem (.raised .value [.text "bad size"]))

/-- The records of an operation that fails, all of them with its detail. -/
theorem run_account_troubled :
    let action := run .stuck "disk" [("path", .text "disk.img")] fun log =>
      (troubled log).act .stuck
    let records := (after action .untouched).records
    ending action .untouched = .error (.ofProblem (.raised .value [.text "bad size"])) ∧
      records.map (fun record => (record.level, record.message)) =
        [(.debug, "Disk started"), (.info, "formatting"), (.info, "waiting"),
          (.debug, "Running command: mkfs.ext4"), (.warning, "Command failed with code 1: busy"),
          (.error, "Disk failed")] ∧
      ∀ record ∈ records, record.extra.get? "path" = some (.text "disk.img") := by
  intro action records
  obtain ⟨ends, first, last, all, opens, told, closes, -⟩ := run_account .stuck "disk"
    [("path", .text "disk.img")] troubled .untouched (by decide) (by decide) (by decide)
    List.nodup_nil
  have named : Fields.get? [("path", Value.text "disk.img")] "path"
      = some (.text "disk.img") := rfl
  have unbound : ∀ remark ∈ (troubled (logger "disk" "disk-1")).remarks .stuck
      World.untouched.scene, "path" ∉ Fields.names (remark.logger.bound ++ remark.keywords) := by
    decide +kernel
  refine ⟨ends, (congrArg _ all).trans rfl, ?_⟩
  intro record member
  simp only [records, action] at member
  rw [all] at member
  rcases List.mem_append.1 member with before | within
  · cases before
  · rcases List.mem_append.1 within with front | back
    · rcases List.mem_cons.1 front with rfl | among
      · exact opens.details "path" _ named (by decide)
      · obtain ⟨remark, inside, rfl⟩ := List.mem_map.1 among
        exact (told remark inside).details "path" _ named (unbound remark inside)
    · obtain rfl := List.mem_singleton.1 back
      exact closes.details "path" _ named (by decide)

/-- Three ways in which records do not tell of an operation: a detail in the place of the logger or
of the message keeps its body from being run at all, a logger that names another operation is
believed, and so is a message with another value of a detail. -/
theorem run_account_astray :
    let action (details : Fields) (speaker : Logger) (keywords : Fields) : Action Unit Unit :=
      run .obliging "disk" details fun _ =>
        (Account.tells speaker .info "ready" keywords fun _ => .returns ()).act .obliging
    let records (details : Fields) (speaker : Logger) (keywords : Fields) : List Record :=
      (after (action details speaker keywords) .untouched).records
    let shown (key : String) (record : Record) : String :=
      ((record.extra.get? key).getD .null).shown
    let kind (details : Fields) : String :=
      match ending (action details .verify []) .untouched with
      | .ok _ => ""
      | .error fault => fault.kind
    Template.IsPlain "disk" ∧
      (∀ detail ∈ [loggerDetail, messageDetail], detail ∉ ["job_id", "operation"] ++ lastKeywords ∧
        records [(detail, .text "x")] .verify [] = [] ∧ kind [(detail, .text "x")] = "TypeError") ∧
      (records [] ⟨[("operation", .text "other")]⟩ []).map (shown "operation")
        = ["disk", "other", "disk"] ∧
      (records [("path", .text "a.img")] .verify [("path", .text "b.img")]).map (shown "path")
        = ["a.img", "b.img", "a.img"] := by
  refine ⟨by decide, fun detail listed => ?_, by decide +kernel, by decide +kernel⟩
  rcases List.mem_pair.1 listed with rfl | rfl
  · exact ⟨by decide, rfl, rfl⟩
  · exact ⟨by decide, rfl, rfl⟩

end Operation

end DiskFixture
