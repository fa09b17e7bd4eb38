import DiskFixture.Proofs.Disk.Records
import DiskFixture.Proofs.Disk.Trace

/-!
The records of rollback steps. Main statements: no step of a build itself writes one, and a build
that fails writes one for each of its rollback steps that fails, in their order, and none for the
others.
-/

namespace DiskFixture

variable {σ : Type} {α β : Type} {host : Host σ}

/-- What the records of failed rollback steps start with. -/
def rollbackHead : String := "Rollback step '"

/-- The text of the record of a rollback step that failed. -/
def rollbackNote (description : String) (fault : Fault) : String :=
  rollbackHead ++ description ++ "' failed: " ++ fault.message

def Level.isRollbackNote (level : Level) (message : String) : Bool :=
  level == .error && rollbackHead.toList.isPrefixOf message.toList

def Record.isRollbackNote (record : Record) : Bool := record.level.isRollbackNote record.message

/-- The texts of the records of failed rollback steps, in the order in which they were written. -/
def World.rollbackNotes (world : World σ) : List String :=
  (world.records.filter (·.isRollbackNote)).map (·.message)

/-- What is noted of a rollback step that ended like this. -/
def noted (description : String) : Except Fault Unit → List String
  | .ok _ => []
  | .error fault => if fault.problem.isOperational then [rollbackNote description fault] else []

theorem isRollbackNote_rollbackNote (description : String) (fault : Fault) :
    Level.error.isRollbackNote (rollbackNote description fault) = true := by
  simp [Level.isRollbackNote, rollbackNote, String.toList_append, List.append_assoc]

theorem Logger.rollbackNotes_noted (logger : Logger) (level : Level) (message : String)
    (world : World σ) :
    (logger.noted level message world).rollbackNotes
      = world.rollbackNotes ++ if level.isRollbackNote message then [message] else [] := by
  unfold World.rollbackNotes Logger.noted
  by_cases note : level.isRollbackNote message = true <;>
    simp [List.filter_append, Record.isRollbackNote, note]

/-- An action that writes no record of a rollback step. -/
def Discreet (action : Action σ α) : Prop :=
  ∀ world, (after action world).rollbackNotes = world.rollbackNotes

theorem isForeign_isRollbackNote : Record.IsForeign (·.isRollbackNote) where
  level record marked := by
    simp only [Record.isRollbackNote, Level.isRollbackNote, Bool.and_eq_true, beq_iff_eq] at marked
    exact marked.1
  -- this record is of the same level, but it starts in another way
  command standing scope argv reason := by
    simp [Record.isRollbackNote, Level.isRollbackNote, rollbackHead, String.toList_append,
      List.isPrefixOf]

theorem Discreet.of_spares {action : Action σ α} (spares : Spares (·.isRollbackNote) action) :
    Discreet action :=
  fun world => congrArg (·.map (·.message)) (spares world)

theorem Discreet.removePath (path : String) : Discreet (removePath host path) :=
  of_spares (Spares.removePath isForeign_isRollbackNote path)

section WithRollback

variable (description : String) {step : Action σ Unit} (discreet : Discreet step)
  (action : Action σ α) (world : World σ)

include discreet

theorem rollbackNotes_rollback :
    (after (rollback description step) world).rollbackNotes
      = world.rollbackNotes ++ noted description (ending step world) := by
  rw [rollback_eq, after_tolerate]
  cases ends : ending step world with
  | ok done => simp [noted, discreet world]
  | error fault =>
    cases operational : fault.problem.isOperational with
    | false => simp [noted, operational, discreet world]
    | true =>
      have note := isRollbackNote_rollbackNote description fault
      simp only [rollbackNote, rollbackHead] at note
      simp [noted, operational, Logger.rollbackNotes_noted, note, discreet world, rollbackNote,
        rollbackHead]

theorem rollbackNotes_withRollback {fault : Fault} (fails : ending action world = .error fault) :
    (after (withRollback description step action) world).rollbackNotes
      = (after action world).rollbackNotes
        ++ noted description (ending step (after action world)) := by
  rw [after_withRollback, fails]
  exact rollbackNotes_rollback description discreet (after action world)

end WithRollback

namespace LoopDisk

section Notes

variable {world : World σ} {path : String} {specs : List PartitionSpec}

/-- The part of a build behind the attachment, where it fails: it notes the release of the device,
if that fails too. -/
theorem rollbackNotes_securely (worded : ∀ spec ∈ specs, spec.IsWorded) (device : String)
    {fault : Fault} (fails : ending (onceAttached host path specs device) world = .error fault) :
    let plan := Plan.identifying device 1 specs
    let scene := world.scene.through host (Plan.issued host world.scene plan)
    let left := after (securely host path specs device) world
    left.rollbackNotes
        = world.rollbackNotes ++ noted ("detach " ++ device) (scene.detaching host device) ∧
      left.scene = scene.next host (Plan.release device) := by
  have performs : Performs host world (Plan.identifying device 1 specs)
      (onceAttached host path specs device) := .onceAttached worded device
  have quiet : Discreet (onceAttached host path specs device) :=
    .of_spares ((Spares.compositional isForeign_isRollbackNote).onceAttached path specs device)
  have discreet : Discreet (detach host (.text device)) :=
    .of_spares ((Spares.compositional isForeign_isRollbackNote).detach (.text device))
  constructor
  · rw [securely, rollbackNotes_withRollback _ discreet _ _ fails, quiet world, ending_detach,
      performs.scene]
  · rw [securely, after_withRollback, fails]
    have released :=
      (after_detach host (after (onceAttached host path specs device) world) device).2
    rw [performs.scene] at released
    exact (after_rollback _ _ _).1.trans released

/-- The steps of a build in front of its last rollback step, where they fail: they note the release
of the device, if the image was attached and the release fails. -/
theorem rollbackNotes_attached_securely (worded : ∀ spec ∈ specs, spec.IsWorded) {fault : Fault}
    (breaks : Plan.verdict host world.scene (Plan.ofBuild host world path specs) = .error fault) :
    let left := after (untilAttached host path specs >>= securely host path specs) world
    let scene := Plan.broken host world path specs
    let device := Plan.device host world.scene path specs
    if Plan.isAttached host world path specs then
      left.rollbackNotes
          = world.rollbackNotes ++ noted ("detach " ++ device) (scene.detaching host device) ∧
        left.scene = scene.next host (Plan.release device)
    else left.rollbackNotes = world.rollbackNotes ∧ left.scene = scene := by
  have first : Performs host world (Plan.attaching host world path specs)
      (untilAttached host path specs) := .untilAttached
  have quiet : Discreet (untilAttached host path specs) :=
    .of_spares ((Spares.compositional isForeign_isRollbackNote).untilAttached path specs)
  rw [Plan.ofBuild_eq] at breaks
  dsimp only
  rw [Plan.broken, Plan.isAttached, Plan.ofBuild_eq, after_bind]
  cases attaches : ending (untilAttached host path specs) world with
  | error other =>
    have bad := first.verdict_of_error attaches
    have unmet := Plan.fulfils_of_error bad
    -- nothing is attached, and so nothing is to be released
    rw [unmet, if_neg (by decide), (Plan.append_of_error _ bad).2]
    exact ⟨quiet world, first.scene⟩
  | ok device =>
    have good := first.verdict_of_ok attaches
    have met := Plan.verdict_eq_ok_iff.1 good
    rw [met, if_pos rfl, Plan.issued_append_of_ok good, Scene.through_append]
    rw [Plan.verdict_append_of_ok good] at breaks
    obtain rfl := eq_device attaches
    -- the plan breaks off behind the attachment, and the release is the inner of the two steps
    have scene := first.scene_of_ok attaches
    have performs : Performs host (after (untilAttached host path specs) world) _
        (onceAttached host path specs (Plan.device host world.scene path specs)) :=
      .onceAttached worded _
    have fails : ending (onceAttached host path specs (Plan.device host world.scene path specs))
        (after (untilAttached host path specs) world) = .error fault := by
      apply eq_error_of_map
      rw [performs.verdict, scene, breaks]
    obtain ⟨notes, left⟩ := rollbackNotes_securely worded _ fails
    rw [quiet world, scene] at notes
    rw [scene] at left
    exact ⟨notes, left⟩

/-- A build that breaks off notes its rollback steps that fail, in their order, and nothing else. -/
theorem rollbackNotes_assemble (worded : ∀ spec ∈ specs, spec.IsWorded)
    (writable : Text.isWritable (Layout.diskSize specs) = true) {fault : Fault}
    (breaks : Plan.verdict host world.scene (Plan.ofBuild host world path specs) = .error fault) :
    (after (assemble host path specs) world).rollbackNotes
      = world.rollbackNotes
        ++ (Plan.takenBack host world path specs).flatMap fun step => noted step.1 step.2 := by
  have verdict := (attached_securely_spec host world path specs worded).1
  rw [breaks, mapError_error] at verdict
  have before := rollbackNotes_attached_securely worded breaks
  rw [assemble_eq host path writable,
    rollbackNotes_withRollback _ (Discreet.removePath path) _ _ (eq_error_of_map verdict),
    (removePath_spec host path _).1, Plan.takenBack]
  dsimp only at before ⊢
  split at before <;> rename_i attached
  · rw [before.1, before.2, if_pos attached]
    simp
  · rw [before.1, before.2, if_neg attached]
    simp

theorem rollbackNotes_assemble_of_unwritable
    (unwritable : Text.isWritable (Layout.diskSize specs) = false) :
    (after (assemble host path specs) world).rollbackNotes
      = world.rollbackNotes ++ noted ("remove " ++ path) (world.scene.clearing host path) := by
  rw [assemble_of_unwritable host path unwritable,
    rollbackNotes_withRollback _ (Discreet.removePath path) _ _ (Action.ending_reject world _),
    (removePath_spec host path _).1, Action.after_reject]

theorem rollbackNotes_build (host : Host σ) (path : String) (specs : List PartitionSpec)
    (world : World σ) :
    (after (build host path specs) world).rollbackNotes
        = (after (assemble host path specs) (started host path specs world)).rollbackNotes ∧
      (started host path specs world).rollbackNotes = world.rollbackNotes := by
  obtain ⟨extra, records⟩ := Operation.records_after_run host "disk" (details path specs)
    (fun _ => construct host path specs) world (free_details path specs) isPlain_disk
  -- the record that closes a build may be an error too, but it starts with the kind of operation
  have capital : Text.capitalize "disk" = "Disk" := by decide +kernel
  have other : ∀ ends : Except Fault LoopDisk,
      (Operation.closing "disk" ends extra).isRollbackNote = false := by
    intro ends
    cases ends <;> simp [Operation.closing, capital, Record.isRollbackNote, Level.isRollbackNote,
      rollbackHead, List.isPrefixOf]
  have built : build host path specs
      = Operation.run host "disk" (details path specs) fun _ => construct host path specs := rfl
  constructor
  · rw [← after_construct, World.rollbackNotes, built, records]
    simp [List.filter_append, other, World.rollbackNotes, started]
  · simp [started, Operation.opened, Logger.notedWith, World.rollbackNotes, List.filter_append,
      Record.isRollbackNote, Level.isRollbackNote]

end Notes

end LoopDisk

end DiskFixture
