import DiskFixture.Disk.Build
import DiskFixture.Proofs.Scene

/-!
Plans and their course. A planned command comes with what its answer must be for the plan to go on;
a plan takes its course up to the first answer that is not. Main statements: what the parts of a
build do is the course of the parts of its plan, and one part after the other is the course of
both.
-/

namespace DiskFixture

variable {σ : Type} {α β : Type}

theorem Problem.isOperational_of_isCommand {problem : Problem}
    (command : problem.isCommand = true) : problem.isOperational = true := by
  cases problem with
  | command => rfl
  | _ => cases command

namespace Plan

inductive Demand where
  | success
  /-- Success, and an identifier in what was printed for a device node. -/
  | identifier (node : String)
  /-- Any answer, also that the command failed or was not started. A call that was wrong has none. -/
  | answer

/-- A planned command. -/
structure Step where
  argv : List String
  demand : Demand

def Demand.isMet : Demand → Reply → Bool
  | .success, reply => reply.succeeds
  | .identifier _, reply =>
    reply.succeeds &&
      (Identifier.find? reply.output).any fun value => (Identifier.parse value).isOk
  | .answer, reply => !reply.isMisuse

def fulfils (host : Host σ) (scene : Scene σ) : List Step → Bool
  | [] => true
  | step :: rest =>
    step.demand.isMet (scene.reply host step.argv)
      && fulfils host (scene.next host step.argv) rest

def Step.verdict (step : Step) (reply : Reply) : Except Fault Unit :=
  match step.demand with
  | .success => (Command.reading step.argv reply).map fun _ => ()
  | .identifier node =>
    match Command.reading step.argv reply with
    | .error fault => .error fault
    | .ok output => (Identifier.ofOutput node output).map fun _ => ()
  | .answer =>
    match reply with
    | .failed (.misuse wrong) => .error (.ofMisuse wrong)
    | _ => .ok ()

/-- The fault at which a plan breaks off. -/
def verdict (host : Host σ) (scene : Scene σ) : List Step → Except Fault Unit
  | [] => .ok ()
  | step :: rest =>
    match step.verdict (scene.reply host step.argv) with
    | .error fault => .error fault
    | .ok _ => verdict host (scene.next host step.argv) rest

/-- The commands that are issued until a plan breaks off. -/
def issued (host : Host σ) (scene : Scene σ) : List Step → List (List String)
  | [] => []
  | step :: rest =>
    match step.verdict (scene.reply host step.argv) with
    | .error _ => [step.argv]
    | .ok _ => step.argv :: issued host (scene.next host step.argv) rest

theorem Step.verdict_eq_ok_iff (step : Step) (reply : Reply) :
    step.verdict reply = .ok () ↔ step.demand.isMet reply = true := by
  unfold verdict
  cases step.demand with
  | answer =>
    cases reply with
    | exited status output => simp [Demand.isMet, Reply.isMisuse]
    | failed fault => cases fault <;> simp [Demand.isMet, Reply.isMisuse, CallFault.isMisuse]
  | success =>
    cases reads : Command.reading step.argv reply with
    | ok output => simp [Demand.isMet, Except.map, (Command.reading_eq_ok_iff.1 reads).1]
    | error fault =>
      cases success : reply.succeeds with
      | false => simp [Demand.isMet, Except.map, success]
      | true => simp [Command.reading_of_succeeds _ success] at reads
  | identifier node =>
    cases reads : Command.reading step.argv reply with
    | ok output =>
      obtain ⟨success, rfl⟩ := Command.reading_eq_ok_iff.1 reads
      cases found : Identifier.find? reply.output with
      | none => simp [Demand.isMet, Identifier.ofOutput, Except.map, found]
      | some value =>
        cases parsed : Identifier.parse value <;>
          simp [Demand.isMet, Identifier.ofOutput, Except.map, Except.isOk, Except.toBool, found,
            parsed, success]
    | error fault =>
      cases success : reply.succeeds with
      | false => simp [Demand.isMet, success]
      | true => simp [Command.reading_of_succeeds _ success] at reads

/-- A command that may fail is judged by the faults that are not about it. -/
theorem Step.verdict_answer (argv : List String) (reply : Reply) :
    Step.verdict ⟨argv, .answer⟩ reply =
      match Command.reading argv reply with
      | .ok _ => .ok ()
      | .error fault => if fault.problem.isCommand then .ok () else .error fault := by
  cases reply with
  | exited status output =>
    by_cases zero : status.same (.int 0) = true <;>
      simp [verdict, Command.reading, zero, Fault.ofProblem, Problem.isCommand]
  | failed fault =>
    cases fault <;>
      simp [verdict, Command.reading, Fault.dueTo, Fault.ofMisuse, Fault.ofProblem,
        Problem.isCommand]

/-- What an answer to a planned command is blamed for: that the command was not started or did not
exit well, that its output gives no identifier where one is demanded, or that the call of it went
wrong. -/
inductive Step.Blames (step : Step) : Reply → Fault → Prop
  | exited {status : Value} {output : String} (demanded : step.demand ≠ .answer)
      (bad : status.same (.int 0) = false) :
      Blames step (.exited status output)
        (.ofProblem (.command step.argv status (.text output)))
  | unstarted {error : SystemError} (demanded : step.demand ≠ .answer) :
      Blames step (.failed (.system error))
        (.dueTo (.command step.argv .null (.text error.message)) (.ofSystem error))
  | missing {node output : String} {status : Value} (demanded : step.demand = .identifier node)
      (good : status.same (.int 0) = true) (none : Identifier.find? output = none) :
      Blames step (.exited status output) (.ofProblem (.identityMissing (.text node)))
  | malformed {node output value : String} {status : Value} {misuse : Misuse}
      (demanded : step.demand = .identifier node) (good : status.same (.int 0) = true)
      (found : Identifier.find? output = some value)
      (wrong : Identifier.parse value = .error misuse) :
      Blames step (.exited status output)
        (.dueTo (.identityMalformed (.text node) (.text value)) (.ofMisuse misuse))
  | miscalled (wrong : Misuse) : Blames step (.failed (.misuse wrong)) (.ofMisuse wrong)

section Blames

variable {step : Step} {reply : Reply} {cause : Fault}

theorem Step.blames_of_reading (demanded : step.demand ≠ .answer)
    (reads : Command.reading step.argv reply = .error cause) : step.Blames reply cause := by
  cases reply with
  | failed fault =>
    cases fault with
    | misuse wrong =>
      cases reads
      exact .miscalled wrong
    | system error =>
      cases reads
      exact .unstarted demanded
  | exited status output =>
    by_cases good : status.same (.int 0) = true
    · simp [Command.reading, good] at reads
    · simp only [Command.reading, good] at reads
      cases reads
      exact .exited demanded (Bool.eq_false_iff.2 good)

/-- What a plan breaks off with at a command is what its answer is blamed for. -/
theorem Step.blames_of_verdict (breaks : step.verdict reply = .error cause) :
    step.Blames reply cause := by
  unfold verdict at breaks
  cases demand : step.demand with
  | answer =>
    rw [demand] at breaks
    dsimp only at breaks
    split at breaks <;> cases breaks
    exact .miscalled _
  | success =>
    rw [demand] at breaks
    exact blames_of_reading (by simp [demand]) (eq_error_of_map breaks)
  | identifier node =>
    rw [demand] at breaks
    dsimp only at breaks
    cases reads : Command.reading step.argv reply with
    | error other =>
      rw [reads] at breaks
      cases breaks
      exact blames_of_reading (by simp [demand]) reads
    | ok output =>
      rw [reads] at breaks
      have fails := eq_error_of_map breaks
      obtain ⟨success, rfl⟩ := Command.reading_eq_ok_iff.1 reads
      cases reply with
      | failed fault => cases success
      | exited status output =>
        unfold Identifier.ofOutput at fails
        split at fails
        · rename_i none
          cases fails
          exact .missing demand success none
        · rename_i value found
          split at fails
          · cases fails
          · rename_i misuse wrong
            cases fails
            exact .malformed demand success found wrong

end Blames

/-- A plan breaks off with what can befall a tool, unless the call was wrong. -/
theorem Step.verdict_cases {step : Step} {reply : Reply} {fault : Fault}
    (bad : step.verdict reply = .error fault) :
    (reply.isMisuse = false ∧ fault.problem.isOperational = true) ∨
      ∃ wrong, reply = .failed (.misuse wrong) ∧ fault = .ofMisuse wrong := by
  cases blames_of_verdict bad with
  | exited => exact .inl ⟨rfl, rfl⟩
  | unstarted => exact .inl ⟨rfl, rfl⟩
  | missing => exact .inl ⟨rfl, rfl⟩
  | malformed => exact .inl ⟨rfl, rfl⟩
  | miscalled wrong => exact .inr ⟨wrong, rfl, rfl⟩

section Course

variable {host : Host σ} {scene : Scene σ} {front rest : List Step} {fault : Fault}

theorem verdict_eq_ok_iff :
    verdict host scene front = .ok () ↔ fulfils host scene front = true := by
  induction front generalizing scene with
  | nil => simp [verdict, fulfils]
  | cons step front ih =>
    have first := step.verdict_eq_ok_iff (scene.reply host step.argv)
    cases answer : step.verdict (scene.reply host step.argv) with
    | ok done => simp [verdict, fulfils, answer, ih, first.1 answer]
    | error fault =>
      have unmet : step.demand.isMet (scene.reply host step.argv) = false := by
        simpa [answer] using first
      simp [verdict, fulfils, answer, unmet]

theorem fulfils_of_error (bad : verdict host scene front = .error fault) :
    fulfils host scene front = false := by
  rw [← Bool.not_eq_true, ← verdict_eq_ok_iff, bad]
  simp

theorem exists_verdict_of_not_fulfils (unmet : fulfils host scene front = false) :
    ∃ fault, verdict host scene front = .error fault := by
  cases judged : verdict host scene front with
  | error fault => exact ⟨fault, rfl⟩
  | ok done => simp [verdict_eq_ok_iff.1 judged] at unmet

theorem fulfils_append (host : Host σ) (scene : Scene σ) (front rest : List Step) :
    fulfils host scene (front ++ rest)
      = (fulfils host scene front
        && fulfils host (scene.through host (front.map (·.argv))) rest) := by
  induction front generalizing scene with
  | nil => rfl
  | cons step front ih => simp [fulfils, ih, Bool.and_assoc]

theorem issued_of_ok (good : verdict host scene front = .ok ()) :
    issued host scene front = front.map (·.argv) := by
  induction front generalizing scene with
  | nil => rfl
  | cons step front ih =>
    cases answer : step.verdict (scene.reply host step.argv) with
    | error fault => simp [verdict, answer] at good
    | ok done =>
      have good : verdict host (scene.next host step.argv) front = .ok () := by
        simpa [verdict, answer] using good
      simp [issued, answer, ih good]

/-- What comes behind a plan is judged if the plan is fulfilled, in the scene that it leaves. -/
theorem verdict_append (host : Host σ) (scene : Scene σ) (front rest : List Step) :
    verdict host scene (front ++ rest) =
      match verdict host scene front with
      | .error fault => .error fault
      | .ok _ => verdict host (scene.through host (front.map (·.argv))) rest := by
  induction front generalizing scene with
  | nil => rfl
  | cons step front ih =>
    cases answer : step.verdict (scene.reply host step.argv) <;> simp [verdict, answer, ih]

theorem issued_append (host : Host σ) (scene : Scene σ) (front rest : List Step) :
    issued host scene (front ++ rest) = issued host scene front ++
      match verdict host scene front with
      | .error _ => []
      | .ok _ => issued host (scene.through host (front.map (·.argv))) rest := by
  induction front generalizing scene with
  | nil => rfl
  | cons step front ih =>
    cases answer : step.verdict (scene.reply host step.argv) <;>
      simp [verdict, issued, answer, ih]

theorem verdict_append_of_ok (good : verdict host scene front = .ok ()) :
    verdict host scene (front ++ rest)
      = verdict host (scene.through host (front.map (·.argv))) rest := by
  rw [verdict_append, good]

theorem issued_append_of_ok (good : verdict host scene front = .ok ()) :
    issued host scene (front ++ rest)
      = front.map (·.argv) ++ issued host (scene.through host (front.map (·.argv))) rest := by
  rw [issued_append, good, issued_of_ok good]

theorem append_of_error (rest : List Step) (bad : verdict host scene front = .error fault) :
    verdict host scene (front ++ rest) = .error fault ∧
      issued host scene (front ++ rest) = issued host scene front := by
  rw [verdict_append, issued_append, bad]
  exact ⟨rfl, List.append_nil _⟩

/-- A plan breaks off at one of its commands, the first whose answer is not as demanded. -/
theorem exists_of_error (bad : verdict host scene front = .error fault) :
    ∃ done failed later, front = done ++ failed :: later ∧
      verdict host scene done = .ok () ∧
      failed.verdict ((scene.through host (done.map (·.argv))).reply host failed.argv)
        = .error fault ∧
      issued host scene front = done.map (·.argv) ++ [failed.argv] := by
  induction front generalizing scene with
  | nil => simp [verdict] at bad
  | cons step front ih =>
    cases answer : step.verdict (scene.reply host step.argv) with
    | error other =>
      have same : other = fault := by simpa [verdict, answer] using bad
      exact ⟨[], step, front, rfl, rfl, by simpa [same] using answer, by simp [issued, answer]⟩
    | ok nothing =>
      have bad : verdict host (scene.next host step.argv) front = .error fault := by
        simpa [verdict, answer] using bad
      obtain ⟨done, failed, later, split, good, breaks, trace⟩ := ih bad
      exact ⟨step :: done, failed, later, by simp [split], by simpa [verdict, answer] using good,
        by simpa using breaks, by simpa [issued, answer] using trace⟩

/-- On a faithful host, what breaks a plan off is what can befall a tool, or a call that was
wrong. -/
theorem fault_of_verdict (faithful : host.Faithful)
    (bad : verdict host scene front = .error fault) :
    fault.problem.isOperational = true ∨ fault.IsOfCall := by
  obtain ⟨done, failed, later, -, -, breaks, -⟩ := exists_of_error bad
  rcases Step.verdict_cases breaks with ⟨-, operational⟩ | ⟨wrong, answers, rfl⟩
  · exact .inl operational
  · exact .inr (faithful.isOfCall_of_reply answers)

end Course

end Plan

/-- What an action does in a world is the course of a plan. -/
structure Performs (host : Host σ) (world : World σ) (plan : List Plan.Step)
    (action : Action σ α) : Prop where
  verdict : (ending action world).map (fun _ => ()) = Plan.verdict host world.scene plan
  commands : (after action world).commands = world.commands ++ Plan.issued host world.scene plan
  scene : (after action world).scene
    = world.scene.through host (Plan.issued host world.scene plan)
  settings : (after action world).settings = world.settings

namespace Performs

variable {host : Host σ} {world : World σ} {front rest : List Plan.Step}
  {action : Action σ α} {next : α → Action σ β}

theorem verdict_of_ok {result : α} (performs : Performs host world front action)
    (ends : ending action world = .ok result) :
    Plan.verdict host world.scene front = .ok () := by
  rw [← performs.verdict, ends]
  rfl

theorem verdict_of_error {fault : Fault} (performs : Performs host world front action)
    (ends : ending action world = .error fault) :
    Plan.verdict host world.scene front = .error fault := by
  rw [← performs.verdict, ends]
  rfl

theorem scene_of_ok {result : α} (performs : Performs host world front action)
    (ends : ending action world = .ok result) :
    (after action world).scene = world.scene.through host (front.map (·.argv)) := by
  rw [performs.scene, Plan.issued_of_ok (performs.verdict_of_ok ends)]

/-- An action after another performs the plan of the one and then that of the other. -/
theorem bind (first : Performs host world front action)
    (second : ∀ result, ending action world = .ok result →
      Performs host (after action world) rest (next result)) :
    Performs host world (front ++ rest) (action >>= next) := by
  cases ends : ending action world with
  | error fault =>
    obtain ⟨verdict, issued⟩ := Plan.append_of_error rest (first.verdict_of_error ends)
    constructor
    · rw [ending_bind, ends, verdict]
      rfl
    · simpa [after_bind, ends, issued] using first.commands
    · simpa [after_bind, ends, issued] using first.scene
    · simpa [after_bind, ends] using first.settings
  | ok result =>
    have good := first.verdict_of_ok ends
    have second := second result ends
    have scene := first.scene
    rw [Plan.issued_of_ok good] at scene
    have commands := first.commands
    rw [Plan.issued_of_ok good] at commands
    constructor
    · rw [ending_bind, ends, Plan.verdict_append_of_ok good, ← scene]
      exact second.verdict
    · rw [after_bind, ends, Plan.issued_append_of_ok good, ← scene, ← List.append_assoc, ← commands]
      exact second.commands
    · rw [after_bind, ends, Plan.issued_append_of_ok good, Scene.through_append, ← scene]
      exact second.scene
    · rw [after_bind, ends]
      exact second.settings.trans first.settings

theorem quiet {result : α} (ends : ending action world = .ok result)
    (commands : (after action world).commands = world.commands)
    (scene : (after action world).scene = world.scene)
    (settings : (after action world).settings = world.settings) :
    Performs host world [] action :=
  ⟨by rw [ends]; rfl, by simp [Plan.issued, commands], scene, settings⟩

theorem pure (result : α) : Performs host world [] (pure result : Action σ α) :=
  quiet (ending_pure result world) rfl rfl rfl

theorem log (logger : Logger) (level : Level) (message : String) :
    Performs host world [] (logger.log level message) :=
  quiet (Logger.ending_log logger level message world) rfl rfl rfl

theorem bind_pure (first : Performs host world front action) (f : α → β) :
    Performs host world front (action >>= fun result => Pure.pure (f result)) := by
  have both : Performs host world (front ++ []) (action >>= fun result => Pure.pure (f result)) :=
    first.bind fun result _ => pure (f result)
  rwa [List.append_nil] at both

theorem run (argv : List String) :
    Performs host world [⟨argv, .success⟩] (Command.run host argv) := by
  have issued : Plan.issued host world.scene [⟨argv, .success⟩] = [argv] := by
    simp only [Plan.issued]
    split <;> rfl
  constructor
  · simp only [Command.ending_run, Plan.verdict, Plan.Step.verdict]
    cases Command.reading argv (world.scene.reply host argv) <;> rfl
  · simp [issued]
  · simp [issued]
  · simp

theorem ending_tolerate_run (logger : Logger) (describe : Fault → String) (argv : List String) :
    ending (DiskFixture.tolerate logger describe (Command.run host argv)) world
      = Plan.Step.verdict ⟨argv, .answer⟩ (world.scene.reply host argv) := by
  rw [ending_tolerate, Command.ending_run, Plan.Step.verdict_answer]
  cases reads : Command.reading argv (world.scene.reply host argv) with
  | ok output => rfl
  | error fault =>
    have same : fault.problem.isOperational = fault.problem.isCommand := by
      rcases Command.reading_cases reads with ⟨-, command⟩ | ⟨wrong, -, rfl⟩
      · rw [command, Problem.isOperational_of_isCommand command]
      · rfl
    dsimp only
    rw [same]

/-- A command whose failure is only logged. What it leaves unlogged is a call that was wrong. -/
theorem tolerate (logger : Logger) (describe : Fault → String) (argv : List String) :
    Performs host world [⟨argv, .answer⟩]
      (DiskFixture.tolerate logger describe (Command.run host argv)) := by
  have issued : Plan.issued host world.scene [⟨argv, .answer⟩] = [argv] := by
    simp only [Plan.issued]
    split <;> rfl
  obtain ⟨scene, commands, settings⟩ :=
    alike_after_tolerate logger describe (Command.run host argv) world
  constructor
  · rw [ending_tolerate_run]
    simp only [Plan.verdict]
    cases Plan.Step.verdict ⟨argv, .answer⟩ (world.scene.reply host argv) <;> rfl
  · rw [commands, issued, Command.commands_after_run]
  · rw [scene, issued, Command.scene_after_run]
    rfl
  · rw [settings, Command.settings_after_run]

end Performs

end DiskFixture
