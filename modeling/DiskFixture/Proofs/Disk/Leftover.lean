import DiskFixture.Proofs.Disk.Steps
import DiskFixture.Proofs.Disk.Trace
import DiskFixture.Proofs.Files.Reach

/-!
What a failed build leaves. All that a build does in front of its last rollback step, it does
through commands; the last rollback step removes what is at the path. Main statement: after a failed
build nothing stands at its path, and elsewhere everything is as the commands left it.
-/

namespace DiskFixture

variable {σ : Type} {α β : Type} {host : Host σ}

/-- An action that changes files only through commands. -/
def CommandsOnly (host : Host σ) (action : Action σ α) : Prop :=
  ∀ world, ∃ issued, (after action world).commands = world.commands ++ issued ∧
    (after action world).scene = world.scene.through host issued

namespace CommandsOnly

variable {action : Action σ α} {next : α → Action σ β}

theorem idle (commands : ∀ world, (after action world).commands = world.commands)
    (scene : ∀ world, (after action world).scene = world.scene) : CommandsOnly host action :=
  fun world => ⟨[], by simp [commands], scene world⟩

theorem pure (result : α) : CommandsOnly host (pure result : Action σ α) :=
  idle (fun _ => rfl) fun _ => rfl

theorem throw (fault : Fault) : CommandsOnly host (throw fault : Action σ α) :=
  idle (fun _ => rfl) fun _ => rfl

theorem get : CommandsOnly host (get : Action σ (World σ)) :=
  idle (fun _ => rfl) fun _ => rfl

theorem log (logger : Logger) (level : Level) (message : String) :
    CommandsOnly host (logger.log level message) :=
  idle (fun _ => rfl) fun _ => rfl

theorem attempt (does : CommandsOnly host action) : CommandsOnly host action.attempt :=
  fun world => by simpa using does world

theorem bind (first : CommandsOnly host action)
    (second : ∀ result, CommandsOnly host (next result)) :
    CommandsOnly host (action >>= next) := by
  intro world
  obtain ⟨front, commands, scene⟩ := first world
  rw [after_bind]
  cases ending action world with
  | error fault => exact ⟨front, commands, scene⟩
  | ok result =>
    obtain ⟨rest, later, left⟩ := second result (after action world)
    refine ⟨front ++ rest, ?_, ?_⟩
    · rw [later, commands, List.append_assoc]
    · rw [left, scene, Scene.through_append]

theorem run (argv : List String) : CommandsOnly host (Command.run host argv) :=
  fun _ => ⟨[argv], by simp, by simp⟩

theorem rollback {step : Action σ Unit} (does : CommandsOnly host step) (description : String) :
    CommandsOnly host (rollback description step) := by
  refine does.attempt.bind fun outcome => ?_
  cases outcome with
  | ok done => exact pure ()
  | error fault =>
    dsimp only
    split
    · exact log _ _ _
    · exact (throw fault).bind fun _ => log _ _ _

theorem withRollback {step : Action σ Unit} (undoes : CommandsOnly host step)
    (does : CommandsOnly host action) (description : String) :
    CommandsOnly host (withRollback description step action) := by
  refine does.attempt.bind fun outcome => ?_
  cases outcome with
  | ok result => exact pure result
  | error fault => exact (undoes.rollback description).bind fun _ => throw fault

/-- All steps of a build change files only through commands. -/
theorem compositional : Compositional host (CommandsOnly host) where
  pure := pure
  throw := throw
  get := get
  bind := bind
  attempt := attempt
  log logger level message _ := log logger level message
  run := run

theorem securely (path : String) (device : String) (specs : List PartitionSpec) :
    CommandsOnly host (LoopDisk.securely host path specs device) :=
  (compositional.detach (.text device)).withRollback
    (compositional.onceAttached path specs device) _

end CommandsOnly

namespace LoopDisk

/-- The steps of a build are steps through commands, which the removal of the path takes back. -/
theorem exists_assemble_eq (host : Host σ) (path : String) (specs : List PartitionSpec) :
    ∃ action : Action σ LoopDisk, CommandsOnly host action ∧
      assemble host path specs
        = withRollback ("remove " ++ path) (removePath host path) action := by
  cases writable : Text.isWritable (Layout.diskSize specs) with
  | true =>
    have attaches : CommandsOnly host (untilAttached host path specs) :=
      CommandsOnly.compositional.untilAttached path specs
    exact ⟨_, attaches.bind fun device => .securely path device specs,
      assemble_eq host path writable⟩
  | false => exact ⟨_, .throw _, assemble_of_unwritable host path writable⟩

/-- What a failed build leaves is what its commands and then the removal of its path left. -/
theorem after_failed_build (host : Host σ) (path : String) (specs : List PartitionSpec)
    (world : World σ) {fault : Fault}
    (fails : ending (build host path specs) world = .error fault) :
    ∃ issued, (after (build host path specs) world).commands = world.commands ++ issued ∧
      (after (build host path specs) world).scene
        = (world.scene.through host issued).removed host path := by
  obtain ⟨ends, alike⟩ := build_spec host path specs world
  obtain ⟨action, does, steps⟩ := exists_assemble_eq host path specs
  rw [ends, steps, ending_withRollback] at fails
  rw [alike.commands, alike.scene, steps, after_withRollback]
  obtain ⟨issued, commands, scene⟩ := does (started host path specs world)
  rw [commands_started] at commands
  rw [scene_started] at scene
  refine ⟨issued, ?_⟩
  cases result : ending action (started host path specs world) with
  | ok disk => simp [result] at fails
  | error other =>
    -- the removal is the outermost step that takes back, so nothing runs after it
    obtain ⟨left, same, -⟩ := after_rollback ("remove " ++ path) (removePath host path)
      (after action (started host path specs world))
    obtain ⟨-, removed, kept, -⟩ := removePath_spec host path
      (after action (started host path specs world))
    exact ⟨same.trans (kept.trans commands), left.trans (removed.trans (by rw [scene]))⟩

end LoopDisk

theorem Scene.files_removed {scene : Scene σ} {path : String}
    (willing : (host.refuse scene.memory (scene.files.removalOf path) path).1 = none) :
    (scene.removed host path).files = after (Filing.delete path) scene.files := by
  simp only [removed, willing]

/-- A failed build leaves nothing at its path, whatever the commands did, and elsewhere nothing but
what they did. -/
theorem LoopDisk.hasEntry_after_failed_build (host : Host σ) (path : String)
    (specs : List PartitionSpec) (world : World σ)
    (willing : ∀ memory operation, (host.refuse memory operation path).1 = none)
    (named : Path.endsInName path = true) {fault : Fault}
    (fails : ending (build host path specs) world = .error fault) :
    (after (build host path specs) world).files.hasEntry path = false ∧
      ∃ issued, (after (build host path specs) world).commands = world.commands ++ issued ∧
        ∀ place, ¬ (world.scene.through host issued).files.Covers path place →
          (after (build host path specs) world).files.at? place
            = (world.scene.through host issued).files.at? place := by
  obtain ⟨issued, commands, scene⟩ := after_failed_build host path specs world fails
  have files : (after (build host path specs) world).files
      = after (Filing.delete path) (world.scene.through host issued).files := by
    rw [← Scene.files_removed (willing _ _), ← scene, World.scene_files]
  rw [files]
  refine ⟨?_, issued, commands, fun place outside => Filing.at?_after_delete outside⟩
  cases nameable : FileTree.isNameable path with
  | true => exact Filing.hasEntry_after_delete _ named nameable
  | false => simp [FileTree.hasEntry, nameable]

/-- An image that was written is gone although its device stayed attached. -/
theorem LoopDisk.hasEntry_after_stuck_build :
    (∀ memory operation, (Host.stuck.refuse memory operation "disk.img").1 = none) ∧
      Path.endsInName "disk.img" = true ∧
      ∃ fault, ending (build .stuck "disk.img" [.data]) .untouched = .error fault ∧
        (after (build .stuck "disk.img" [.data]) .untouched).files.hasEntry "disk.img" = false := by
  have worded : ∀ spec ∈ [PartitionSpec.data], spec.IsWorded := by
    simp [PartitionSpec.isWorded_data]
  have unmet : Plan.fulfils .stuck World.untouched.scene
      (Plan.ofBuild .stuck .untouched "disk.img" [.data]) = false := by
    decide +kernel
  have named : Path.endsInName "disk.img" = true := by decide +kernel
  obtain ⟨done, failed, later, cause, -, -, -, -, fails, -⟩ := build_of_not_fulfils .stuck
    .untouched "disk.img" [.data] worded (by decide +kernel) unmet
  exact ⟨fun _ _ => rfl, named, _, fails,
    (hasEntry_after_failed_build _ _ _ _ (fun _ _ => rfl) named fails).1⟩

end DiskFixture
