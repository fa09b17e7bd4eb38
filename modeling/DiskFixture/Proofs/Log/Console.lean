import DiskFixture.Proofs.Log.Remark
import DiskFixture.Proofs.Log.Sinks

/-!
Commands on the console. Main statement: once the sinks are installed, what the console shows of
commands, issued one after the other, is fixed by how each of them ended and by the flags; and of
what a command logs, the filter takes nothing away that the level of the console lets through.
-/

namespace DiskFixture

variable {σ : Type}

namespace Scene

/-- The commands that some calls run, with the answers. Values that are no words run nothing. -/
def answered (host : Host σ) (scene : Scene σ) : List (List Value) → List (List String × Reply)
  | [] => []
  | values :: rest =>
    match Command.words values with
    | .ok argv => (argv, scene.reply host argv) :: (scene.next host argv).answered host rest
    | .error _ => scene.answered host rest

/-- What all commands tell is what the first call tells and what the rest do in the scene left. -/
theorem remarks_answered_cons (host : Host σ) (scene : Scene σ) (values : List Value)
    (rest : List (List Value)) :
    (scene.answered host (values :: rest)).flatMap (fun call => Command.remarks call.1 call.2)
      = Command.remarksOf host scene values
        ++ ((Command.sceneAfter host scene values).answered host rest).flatMap
          fun call => Command.remarks call.1 call.2 := by
  rw [answered, Command.remarksOf, Command.sceneAfter]
  cases Command.words values with
  | ok argv => rfl
  | error misuse => rfl

end Scene

namespace Command

/-- The world after some calls, whatever comes of them. -/
def issue (host : Host σ) (world : World σ) (calls : List (List Value)) : World σ :=
  calls.foldl (fun world values => after (runValues host values) world) world

theorem records_issue (host : Host σ) (world : World σ) (calls : List (List Value)) :
    (issue host world calls).records
      = world.records ++ ((world.scene.answered host calls).flatMap
          fun call => remarks call.1 call.2).map (Remark.record world.extra) := by
  induction calls generalizing world with
  | nil => exact (List.append_nil _).symm
  | cons values rest ih =>
    have first := tells_runValues host world values
    have later := ih (after (runValues host values) world)
    rw [first.records, first.extra, scene_after_runValues] at later
    rw [Scene.remarks_answered_cons, List.map_append, ← List.append_assoc]
    exact later

section Kept

variable {base : Fields} {argv : List String} {reply : Reply} {remark : Remark}

/-- Whether extra values mark all records of commands as what a command printed. -/
def isMarked (base : Fields) : Bool :=
  match base.get? "stream" with
  | some (.text stream) => stream == "output"
  | _ => false

theorem isCommandOutput_command (base : Fields) :
    isCommandOutput (Fields.overlay base Logger.command.bound) = .ok (isMarked base) := by
  have tags : (Fields.overlay base Logger.command.bound).get? "tags"
      = some (.ofTexts ["command"]) := by
    rw [Fields.get?_overlay]
    rfl
  have stream : (Fields.overlay base Logger.command.bound).get? "stream" = base.get? "stream" := by
    rw [Fields.get?_overlay]
    rfl
  unfold isCommandOutput isMarked
  rw [tags, stream]
  rfl

theorem isCommandOutput_printer (base : Fields) :
    isCommandOutput (Fields.overlay base printer.bound) = .ok true := by
  have tags : (Fields.overlay base printer.bound).get? "tags" = some (.ofTexts ["command"]) := by
    rw [Fields.get?_overlay]
    rfl
  have stream : (Fields.overlay base printer.bound).get? "stream" = some (.text "output") := by
    rw [Fields.get?_overlay]
    rfl
  unfold isCommandOutput
  rw [tags, stream]
  rfl

/-- An announcement is kept unless the extra values around it make it look like what a command
printed. -/
theorem isKept_announcement (base : Fields) (argv : List String) :
    isKept Level.debug.number ((announcement argv).record base).extra = .ok !isMarked base := by
  have raw : isCommandOutput ((announcement argv).record base).extra = .ok (isMarked base) :=
    isCommandOutput_command base
  rw [isKept, raw]
  cases isMarked base <;> rfl

/-- What is told about an answer is kept, whatever the extra values around it. -/
theorem isKept_report (base : Fields) (member : remark ∈ report argv reply) :
    isKept remark.level.number (remark.record base).extra = .ok true := by
  obtain ⟨plain, ⟨speaker, level⟩ | ⟨speaker, level⟩⟩ := voice_of_mem_report member
  · have raw : isCommandOutput (remark.record base).extra = .ok (isMarked base) := by
      rw [Remark.record, plain, speaker]
      exact isCommandOutput_command base
    rw [isKept, raw, level]
    cases isMarked base <;> rfl
  · have raw : isCommandOutput (remark.record base).extra = .ok true := by
      rw [Remark.record, plain, speaker]
      exact isCommandOutput_printer base
    rw [isKept, raw]
    rcases level with level | level <;> rw [level] <;> rfl

end Kept

end Command

namespace Verbosity

theorem console_append (verbosity : Verbosity) (front rest : List Record) :
    verbosity.console (front ++ rest) = verbosity.console front ++ verbosity.console rest := by
  simp only [console, fromLevel, List.filter_append]

theorem console_of_kept (verbosity : Verbosity) {records : List Record}
    (kept : ∀ record ∈ records, isKept record.level.number record.extra = .ok true) :
    verbosity.console records = fromLevel verbosity.consoleLevel records := by
  refine List.filter_eq_self.2 fun record member => ?_
  rw [kept record (List.mem_filter.1 member).1]
  rfl

/-- What the console shows of how a command ended. What a command printed that did well takes the
flag for tracing. -/
def displayReport (verbosity : Verbosity) (argv : List String) : Reply → List (Level × String)
  | .failed (.system error) =>
    [(.error, "Command could not be started: " ++ " ".intercalate argv ++ ": " ++ error.message)]
  | .failed (.misuse _) => []
  | .exited status output =>
    if status.same (.int 0) then
      if verbosity.trace && !output.isEmpty then [(.trace, "output: " ++ Text.strip output)] else []
    else [(.warning, "Command failed with code " ++ status.shown ++ ": " ++ Text.strip output)]

/-- What the console shows of a command: that it runs, if a flag was given and not everything is
marked as output, and how it ended. -/
def display (verbosity : Verbosity) (marked : Bool) (argv : List String) (reply : Reply) :
    List (Level × String) :=
  (if (verbosity.debug || verbosity.trace) && !marked then
    [(.debug, "Running command: " ++ " ".intercalate argv)] else [])
    ++ verbosity.displayReport argv reply

theorem consoleLevel_le_debug_iff (verbosity : Verbosity) :
    verbosity.consoleLevel.number ≤ Level.debug.number ↔
      (verbosity.debug || verbosity.trace) = true := by
  obtain ⟨debug, trace⟩ := verbosity
  cases debug <;> cases trace <;> decide

theorem consoleLevel_le_trace_iff (verbosity : Verbosity) :
    verbosity.consoleLevel.number ≤ Level.trace.number ↔ verbosity.trace = true := by
  obtain ⟨debug, trace⟩ := verbosity
  cases debug <;> cases trace <;> decide

theorem map_console_announcement (verbosity : Verbosity) (base : Fields) (argv : List String) :
    (verbosity.console [(Command.announcement argv).record base]).map
        (fun record => (record.level, record.message))
      = if (verbosity.debug || verbosity.trace) && !Command.isMarked base then
          [(.debug, "Running command: " ++ " ".intercalate argv)] else [] := by
  have kept := Command.isKept_announcement base argv
  have level : ((Command.announcement argv).record base).level = .debug := rfl
  by_cases flagged : (verbosity.debug || verbosity.trace) = true
  · have above := verbosity.consoleLevel_le_debug_iff.2 flagged
    cases marked : Command.isMarked base with
    | true => simp [console, fromLevel, level, above, kept, marked, Except.toOption]
    | false =>
      simp [console, fromLevel, level, above, kept, marked, flagged, Except.toOption]
      rfl
  · have below := mt verbosity.consoleLevel_le_debug_iff.1 flagged
    simp [console, fromLevel, level, below, flagged]

/-- What is told about an answer passes the filter, so the level of the console decides. -/
theorem map_console_report (verbosity : Verbosity) (base : Fields) (argv : List String)
    (reply : Reply) :
    (verbosity.console ((Command.report argv reply).map (Remark.record base))).map
        (fun record => (record.level, record.message))
      = verbosity.displayReport argv reply := by
  have heavy := verbosity.consoleLevel_le_warning
  have heavier : verbosity.consoleLevel.number ≤ Level.error.number :=
    Int.le_trans heavy (by decide)
  have kept : ∀ record ∈ (Command.report argv reply).map (Remark.record base),
      isKept record.level.number record.extra = .ok true := by
    intro record member
    obtain ⟨remark, told, rfl⟩ := List.mem_map.1 member
    exact Command.isKept_report base told
  have one (logger : Logger) (level : Level) (message : String) :
      (fromLevel verbosity.consoleLevel
          [(Remark.mk logger level message []).record base]).map
        (fun record => (record.level, record.message))
        = if verbosity.consoleLevel.number ≤ level.number then [(level, message)] else [] := by
    rw [fromLevel, List.filter_singleton]
    by_cases shown : verbosity.consoleLevel.number ≤ level.number <;> simp [Remark.record, shown]
  rw [verbosity.console_of_kept kept]
  cases reply with
  | failed fault =>
    cases fault with
    | system error => exact (one _ _ _).trans (if_pos heavier)
    | misuse wrong => rfl
  | exited status output =>
    rw [Command.report, displayReport]
    by_cases zero : status.same (.int 0) = true
    · rw [if_pos zero, if_pos zero]
      by_cases empty : output.isEmpty = true
      · simp [empty, fromLevel]
      · simp only [empty, Bool.not_false, Bool.and_true]
        exact (one _ _ _).trans (by simp only [consoleLevel_le_trace_iff])
    · rw [if_neg zero, if_neg zero]
      exact (one _ _ _).trans (if_pos heavy)

theorem map_console_remarks (verbosity : Verbosity) (base : Fields) (argv : List String)
    (reply : Reply) :
    (verbosity.console ((Command.remarks argv reply).map (Remark.record base))).map
        (fun record => (record.level, record.message))
      = verbosity.display (Command.isMarked base) argv reply := by
  rw [Command.remarks, List.map_cons, ← List.singleton_append, console_append, List.map_append,
    map_console_announcement, map_console_report]
  rfl

theorem map_console_calls (verbosity : Verbosity) (base : Fields)
    (calls : List (List String × Reply)) :
    (verbosity.console
        ((calls.flatMap fun call => Command.remarks call.1 call.2).map (Remark.record base))).map
        (fun record => (record.level, record.message))
      = calls.flatMap fun call => verbosity.display (Command.isMarked base) call.1 call.2 := by
  induction calls with
  | nil => rfl
  | cons call rest ih =>
    rw [List.flatMap_cons, List.map_append, console_append, List.map_append, ih,
      map_console_remarks]
    rfl

end Verbosity

namespace Sinks

section Commands

variable {sinks : Sinks} {outcome : Except Fault Unit} {keeper : Keeper}
  {verbosity : Verbosity} {given default : Value} {world : World σ}

/-- Once the sinks are installed, what commands log has the standing values and those of the scope,
and the console knows its flags. -/
theorem records_since_install (host : Host σ)
    (installs : ending (install keeper verbosity given default) world = .ok (sinks, outcome))
    (calls : List (List Value)) :
    let left := after (install keeper verbosity given default) world
    let extra := Fields.overlay standing world.scope
    sinks.verbosity = verbosity ∧
      (Command.issue host left calls).records.drop left.records.length
        = ((left.scene.answered host calls).flatMap fun call =>
          Command.remarks call.1 call.2).map (Remark.record extra) := by
  intro left extra
  obtain ⟨flags, same⟩ := install_spec installs
  refine ⟨flags, ?_⟩
  rw [Command.records_issue]
  exact List.drop_left.trans (by rw [same])

/-- In a scope that says nothing of a stream, the console shows every announcement that the flags
ask for, and how each command ended. -/
theorem console_of_unmarked_commands (host : Host σ)
    (installs : ending (install keeper verbosity given default) world = .ok (sinks, outcome))
    (silent : ∀ entry ∈ world.scope, entry.1 ≠ "stream") (calls : List (List Value)) :
    let left := after (install keeper verbosity given default) world
    let fresh := (Command.issue host left calls).records.drop left.records.length
    (sinks.verbosity.console fresh).map (fun record => (record.level, record.message))
      = (left.scene.answered host calls).flatMap fun call =>
        (if verbosity.debug || verbosity.trace then
          [(.debug, "Running command: " ++ " ".intercalate call.1)] else [])
          ++ verbosity.displayReport call.1 call.2 := by
  intro left fresh
  obtain ⟨flags, told⟩ := records_since_install host installs calls
  have unmarked : Command.isMarked (Fields.overlay standing world.scope) = false := by
    rw [Command.isMarked, Fields.get?_overlay, Fields.last?_eq_none silent]
    rfl
  have shown := verbosity.map_console_calls (Fields.overlay standing world.scope)
    (left.scene.answered host calls)
  simp only [unmarked, Verbosity.display, Bool.not_false, Bool.and_true] at shown
  rw [flags]
  exact (congrArg (fun records => (verbosity.console records).map
    fun record => (record.level, record.message)) told).trans shown

end Commands

end Sinks

end DiskFixture
