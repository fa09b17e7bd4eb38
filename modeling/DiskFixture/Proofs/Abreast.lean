import DiskFixture.Proofs.Disk.Rollback

/-!
Two runs side by side, each on a host and in a world of its own. The hosts answer alike, except for
the wait for device nodes, of which each has its own answer. Main statement: what two actions do
side by side passes from their parts to the whole, so that the runs end alike, leave scenes that
look alike, and issue commands that are related as those of the parts are.
-/

namespace DiskFixture

variable {σ τ α β : Type}

/-- The command that waits for device nodes. -/
def Plan.wait : List String := ["udevadm", "settle"]

/-- Scenes with the same files, of which the hosts have memories that are alike. -/
structure Scene.Like (alike : σ → τ → Prop) (scene : Scene σ) (other : Scene τ) : Prop where
  memory : alike scene.memory other.memory
  files : scene.files = other.files

theorem Scene.Like.shown {alike : σ → τ → Prop} {world : World σ} {other : World τ}
    (like : world.scene.Like alike other.scene) :
    world.files = other.files ∧ alike world.memory other.memory :=
  ⟨like.files, like.memory⟩

/-- Hosts that cannot be told apart but by a wait for device nodes. A wait may end in any way, but
changes no file, and none of the later answers. -/
structure Host.Agree (alike : σ → τ → Prop) (host : Host σ) (partner : Host τ) : Prop where
  run : ∀ {scene other} argv, Scene.Like alike scene other → argv ≠ Plan.wait →
    scene.reply host argv = other.reply partner argv ∧
      (scene.next host argv).Like alike (other.next partner argv)
  refuse : ∀ {memory other} operation path, alike memory other →
    (host.refuse memory operation path).1 = (partner.refuse other operation path).1 ∧
      alike (host.refuse memory operation path).2 (partner.refuse other operation path).2
  waits : ∀ {scene other}, Scene.Like alike scene other →
    (scene.next host Plan.wait).Like alike other
  awaited : ∀ {scene other}, Scene.Like alike scene other →
    scene.Like alike (other.next partner Plan.wait)

theorem Host.Agree.removed {alike : σ → τ → Prop} {host : Host σ} {partner : Host τ}
    (agree : host.Agree alike partner) (path : String) {scene : Scene σ} {other : Scene τ}
    (like : scene.Like alike other) :
    scene.removal host path = other.removal partner path ∧
      (scene.removed host path).Like alike (other.removed partner path) := by
  have asked := agree.refuse (other.files.removalOf path) path like.memory
  unfold Scene.removal Scene.removed
  rw [like.files]
  revert asked
  rcases host.refuse scene.memory (other.files.removalOf path) path with ⟨refusal, left⟩
  rcases partner.refuse other.memory (other.files.removalOf path) path with ⟨answer, kept⟩
  rintro ⟨same, remembers⟩
  obtain rfl : refusal = answer := same
  cases refusal with
  | some fault => exact ⟨rfl, remembers, rfl⟩
  | none => exact ⟨rfl, remembers, rfl⟩

/-- A relation between what is issued in two runs. -/
abbrev Issued := List (List String) → List (List String) → Prop

/-- What is issued first and then is related, if the parts are. -/
structure Issued.Joins (front rest whole : Issued) : Prop where
  join : ∀ {a b c d}, front a b → rest c d → whole (a ++ c) (b ++ d)
  skip : rest [] []

theorem Issued.joins_eq : Joins Eq Eq Eq := ⟨by rintro a _ c _ rfl rfl; rfl, rfl⟩

/-- Two actions, in like worlds, end alike, leave like scenes, and issue what is so related. -/
structure InStep (alike : σ → τ → Prop) (issued : Issued) (world : World σ) (other : World τ)
    (action : Action σ α) (partner : Action τ α) : Prop where
  ends : ending action world = ending partner other
  scenes : (after action world).scene.Like alike (after partner other).scene
  commands : ∃ front rest, (after action world).commands = world.commands ++ front ∧
    (after partner other).commands = other.commands ++ rest ∧ issued front rest

namespace InStep

variable {alike : σ → τ → Prop} {front rest whole : Issued} {world : World σ} {other : World τ}
  {action : Action σ α} {partner : Action τ α} {next : α → Action σ β} {onward : α → Action τ β}

theorem mono (weaker : ∀ {a b}, front a b → whole a b)
    (step : InStep alike front world other action partner) :
    InStep alike whole world other action partner := by
  obtain ⟨ends, scenes, done, did, issues, issued, related⟩ := step
  exact ⟨ends, scenes, done, did, issues, issued, weaker related⟩

theorem attempt (step : InStep alike whole world other action partner) :
    InStep alike whole world other action.attempt partner.attempt := by
  constructor
  · simp only [Action.ending_attempt, step.ends]
  · simpa only [Action.after_attempt] using step.scenes
  · simpa only [Action.after_attempt] using step.commands

theorem bind_pure (step : InStep alike whole world other action partner) (f : α → β) :
    InStep alike whole world other (action >>= fun result => Pure.pure (f result))
      (partner >>= fun result => Pure.pure (f result)) := by
  simp only [bind_pure_comp]
  constructor
  · rw [ending_map, ending_map, step.ends]
  · simpa only [after_map] using step.scenes
  · simpa only [after_map] using step.commands

/-- What two actions do side by side, and then two others in the worlds that they leave. -/
theorem bind (joins : Issued.Joins front rest whole)
    (step : InStep alike front world other action partner)
    (second : ∀ result, ending action world = .ok result → ending partner other = .ok result →
      InStep alike rest (after action world) (after partner other) (next result)
        (onward result)) :
    InStep alike whole world other (action >>= next) (partner >>= onward) := by
  obtain ⟨done, did, issues, issued, related⟩ := step.commands
  cases ends : ending action world with
  | error fault =>
    have stops : ending partner other = .error fault := step.ends.symm.trans ends
    have left : after (action >>= next) world = after action world := by rw [after_bind, ends]
    have view : after (partner >>= onward) other = after partner other := by
      rw [after_bind, stops]
    refine ⟨by rw [ending_bind, ending_bind, ends, stops], ?_, done, did, ?_, ?_, ?_⟩
    · rw [left, view]
      exact step.scenes
    · rw [left, issues]
    · rw [view, issued]
    · simpa using joins.join related joins.skip
  | ok result =>
    have goes : ending partner other = .ok result := step.ends.symm.trans ends
    have later := second result ends goes
    obtain ⟨more, others, behind, beyond, further⟩ := later.commands
    refine ⟨?_, ?_, done ++ more, did ++ others, ?_, ?_, joins.join related further⟩
    · rw [ending_bind, ending_bind, ends, goes]
      exact later.ends
    · rw [after_bind_of_ok ends, after_bind_of_ok goes]
      exact later.scenes
    · rw [after_bind_of_ok ends, behind, issues, List.append_assoc]
    · rw [after_bind_of_ok goes, beyond, issued, List.append_assoc]

end InStep

/-- Two actions that are in step wherever they start. -/
def Abreast (alike : σ → τ → Prop) (issued : Issued) (action : Action σ α)
    (partner : Action τ α) : Prop :=
  ∀ ⦃world other⦄, world.scene.Like alike other.scene →
    InStep alike issued world other action partner

namespace Abreast

variable {alike : σ → τ → Prop} {front rest whole : Issued} {action : Action σ α}
  {partner : Action τ α} {next : α → Action σ β} {onward : α → Action τ β}

theorem of_quiet (outcome : Except Fault α)
    (quiet : ∀ world, ending action world = outcome ∧ (after action world).scene = world.scene ∧
      (after action world).commands = world.commands)
    (still : ∀ world, ending partner world = outcome ∧
      (after partner world).scene = world.scene ∧
      (after partner world).commands = world.commands) :
    Abreast alike Eq action partner := by
  intro world other like
  obtain ⟨ends, scene, commands⟩ := quiet world
  obtain ⟨stops, view, issues⟩ := still other
  refine ⟨ends.trans stops.symm, ?_, [], [], ?_, ?_, rfl⟩
  · rw [scene, view]
    exact like
  · rw [commands, List.append_nil]
  · rw [issues, List.append_nil]

theorem pure (result : α) :
    Abreast alike Eq (pure result : Action σ α) (pure result : Action τ α) :=
  of_quiet (.ok result) (fun _ => ⟨rfl, rfl, rfl⟩) fun _ => ⟨rfl, rfl, rfl⟩

theorem throw (fault : Fault) :
    Abreast alike Eq (throw fault : Action σ α) (throw fault : Action τ α) :=
  of_quiet (.error fault) (fun _ => ⟨rfl, rfl, rfl⟩) fun _ => ⟨rfl, rfl, rfl⟩

theorem log (logger : Logger) (level : Level) (message : String) :
    Abreast alike Eq (logger.log (σ := σ) level message) (logger.log (σ := τ) level message) :=
  of_quiet (.ok ()) (fun _ => ⟨rfl, rfl, rfl⟩) fun _ => ⟨rfl, rfl, rfl⟩

theorem mono (weaker : ∀ {a b}, front a b → whole a b)
    (does : Abreast alike front action partner) : Abreast alike whole action partner :=
  fun _ _ like => (does like).mono weaker

theorem attempt (does : Abreast alike whole action partner) :
    Abreast alike whole action.attempt partner.attempt :=
  fun _ _ like => (does like).attempt

theorem bind_pure (does : Abreast alike whole action partner) (f : α → β) :
    Abreast alike whole (action >>= fun result => Pure.pure (f result))
      (partner >>= fun result => Pure.pure (f result)) :=
  fun _ _ like => (does like).bind_pure f

/-- What two actions do side by side, and then two others, whatever the first ones returned. -/
theorem bind (joins : Issued.Joins front rest whole) (first : Abreast alike front action partner)
    (second : ∀ result, Abreast alike rest (next result) (onward result)) :
    Abreast alike whole (action >>= next) (partner >>= onward) :=
  fun _ _ like => (first like).bind joins fun result _ _ => second result (first like).scenes

/-- The parts of two actions that issue the same. -/
theorem andThen (first : Abreast alike Eq action partner)
    (second : ∀ result, Abreast alike Eq (next result) (onward result)) :
    Abreast alike Eq (action >>= next) (partner >>= onward) :=
  bind Issued.joins_eq first second

theorem rollback {step : Action σ Unit} {counter : Action τ Unit}
    (undoes : Abreast alike Eq step counter) (description : String) :
    Abreast alike Eq (rollback description step) (DiskFixture.rollback description counter) := by
  refine undoes.attempt.andThen fun outcome => ?_
  cases outcome with
  | ok done => exact pure ()
  | error fault =>
    dsimp only
    split
    · exact log _ _ _
    · exact (throw fault).andThen fun _ => log _ _ _

/-- An action that is in step, and the rollback steps, which are so wherever they start. -/
theorem withRollback {step : Action σ Unit} {counter : Action τ Unit}
    (joins : Issued.Joins whole Eq whole) (undoes : Abreast alike Eq step counter)
    {world : World σ} {other : World τ} (does : InStep alike whole world other action partner)
    (description : String) :
    InStep alike whole world other (withRollback description step action)
      (DiskFixture.withRollback description counter partner) := by
  refine does.attempt.bind joins fun outcome _ _ => ?_
  have scenes := does.attempt.scenes
  cases outcome with
  | ok result => exact pure result scenes
  | error fault => exact ((undoes.rollback description).andThen fun _ => throw fault) scenes

section Hosts

variable {host : Host σ} {companion : Host τ} (agree : host.Agree alike companion)
include agree

theorem issue {argv : List String} (other : argv ≠ Plan.wait) :
    Abreast alike (fun front rest => front = [argv] ∧ rest = [argv]) (Command.run host argv)
      (Command.run companion argv) := by
  intro world partner like
  obtain ⟨same, scenes⟩ := agree.run argv like other
  constructor
  · rw [Command.ending_run, Command.ending_run, same]
  · rw [Command.scene_after_run, Command.scene_after_run]
    exact scenes
  · exact ⟨[argv], [argv], Command.commands_after_run .., Command.commands_after_run .., rfl, rfl⟩

theorem run {argv : List String} (other : argv ≠ Plan.wait) :
    Abreast alike Eq (Command.run host argv) (Command.run companion argv) :=
  (issue agree other).mono fun ⟨this, that⟩ => this.trans that.symm

theorem removePath (path : String) :
    Abreast alike Eq (removePath host path) (DiskFixture.removePath companion path) := by
  intro world other like
  obtain ⟨ends, scene, commands, -⟩ := removePath_spec host path world
  obtain ⟨stops, view, issues, -⟩ := removePath_spec companion path other
  have idle : world.scene.isIdle path = other.scene.isIdle path := by
    funext fault
    rw [Scene.isIdle, like.files, Scene.isIdle]
  obtain ⟨removals, scenes⟩ := agree.removed path like
  refine ⟨?_, ?_, [], [], ?_, ?_, rfl⟩
  · rw [ends, stops, Scene.clearing, Scene.clearing, removals, idle]
  · rw [scene, view]
    exact scenes
  · rw [commands, List.append_nil]
  · rw [issues, List.append_nil]

end Hosts

end Abreast

end DiskFixture
