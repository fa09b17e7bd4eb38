import DiskFixture.Proofs.Disk.BuildPlan
import DiskFixture.Proofs.Disk.Removal
import DiskFixture.Proofs.Log.Operation

/-!
Builds with their rollback. A build is two parts, each with a step that takes it back: up to the
attachment, and after it. Main statements: what a step with rollback ends in and leaves, and that a
build whose size can be written is these two parts.
-/

namespace DiskFixture

variable {σ : Type} {α : Type}

namespace Fault

/-- The fault that is left behind a rollback step. What no tool and no file system made is not
caught there, and takes the place of the fault before it. -/
def overridden (fault : Fault) : Except Fault Unit → Fault
  | .ok _ => fault
  | .error other => if other.problem.isOperational then fault else other

/-- The fault that is left behind rollback steps, one after the other. -/
def left (fault : Fault) (outcomes : List (Except Fault Unit)) : Fault :=
  outcomes.foldl overridden fault

variable {fault : Fault} {outcome : Except Fault Unit} {outcomes : List (Except Fault Unit)}

theorem overridden_of_isOperational
    (operational : (fault.overridden outcome).problem.isOperational = true) :
    fault.overridden outcome = fault := by
  cases outcome with
  | ok done => rfl
  | error other =>
    unfold overridden at operational ⊢
    dsimp only at operational ⊢
    split
    · rfl
    · rename_i grave
      rw [if_neg grave] at operational
      exact absurd operational grave

theorem left_of_isOperational (operational : (fault.left outcomes).problem.isOperational = true) :
    fault.left outcomes = fault := by
  induction outcomes generalizing fault with
  | nil => rfl
  | cons outcome rest ih =>
    have later : left (fault.overridden outcome) rest = fault.overridden outcome := ih operational
    have here : fault.left (outcome :: rest) = fault.overridden outcome := later
    rw [here] at operational ⊢
    exact overridden_of_isOperational operational

/-- A property of the fault, and of every fault of the rollback steps, is one of the fault that is
left. -/
theorem left_mem {P : Fault → Prop} (first : P fault)
    (each : ∀ other, .error other ∈ outcomes → P other) : P (fault.left outcomes) := by
  induction outcomes generalizing fault with
  | nil => exact first
  | cons outcome rest ih =>
    refine ih ?_ fun other inside => each other (List.mem_cons_of_mem _ inside)
    cases outcome with
    | ok done => exact first
    | error other =>
      unfold overridden
      dsimp only
      split
      · exact first
      · exact each other List.mem_cons_self

end Fault

section WithRollback

variable (description : String) (step : Action σ Unit) (action : Action σ α) (world : World σ)

theorem rollback_eq :
    rollback description step = tolerate Logger.ownDisk
      (fun fault => "Rollback step '" ++ description ++ "' failed: " ++ fault.message) step := by
  unfold rollback tolerate
  congr 1
  funext outcome
  cases outcome <;> rfl

theorem ending_rollback :
    ending (rollback description step) world =
      match ending step world with
      | .ok _ => .ok ()
      | .error fault => if fault.problem.isOperational then .ok () else .error fault := by
  rw [rollback_eq, ending_tolerate]
  cases ending step world <;> rfl

theorem after_rollback :
    (after (rollback description step) world).scene = (after step world).scene ∧
      (after (rollback description step) world).commands = (after step world).commands ∧
      (after (rollback description step) world).settings = (after step world).settings := by
  rw [rollback_eq]
  exact alike_after_tolerate _ _ step world

theorem ending_withRollback :
    ending (withRollback description step action) world
      = (ending action world).mapError (·.overridden (ending step (after action world))) := by
  cases ends : ending action world with
  | ok result => simp [withRollback, ending_bind, ends]
  | error fault =>
    cases undone : ending step (after action world) with
    | ok done => simp [withRollback, ending_bind, ending_rollback, ends, undone, Fault.overridden]
    | error other =>
      cases operational : other.problem.isOperational <;>
        simp [withRollback, ending_bind, ending_rollback, ends, undone, Fault.overridden,
          operational]

theorem after_withRollback :
    after (withRollback description step action) world =
      match ending action world with
      | .ok _ => after action world
      | .error _ => after (rollback description step) (after action world) := by
  cases ends : ending action world with
  | ok result => simp [withRollback, after_bind, ends]
  | error fault =>
    cases rolls : ending (rollback description step) (after action world) <;>
      simp [withRollback, after_bind, ends, rolls]

theorem ending_of_withRollback {result : α}
    (ends : ending (withRollback description step action) world = .ok result) :
    ending action world = .ok result := by
  rw [ending_withRollback] at ends
  cases same : ending action world with
  | ok other => rwa [same] at ends
  | error fault => simp [same] at ends

end WithRollback

def Plan.release (device : String) : List String := ["losetup", "-d", device]

theorem Plan.issued_must (host : Host σ) (scene : Scene σ) (argv : List String) :
    issued host scene [must argv] = [argv] := by
  unfold issued
  split <;> rfl

/-- How the release of a device ends in a scene. -/
def Scene.detaching (host : Host σ) (scene : Scene σ) (device : String) : Except Fault Unit :=
  (Command.reading (Plan.release device) (scene.reply host (Plan.release device))).map fun _ => ()

/-- On a faithful host, a release fails as the command does, or its call goes wrong. -/
theorem Scene.fault_of_detaching {host : Host σ} {scene : Scene σ} {device : String}
    {fault : Fault} (faithful : host.Faithful)
    (fails : scene.detaching host device = .error fault) :
    fault.problem.isOperational = true ∨ fault.IsOfCall := by
  rcases faithful.fault_of_reading (eq_error_of_map fails) with command | ⟨-, rfl⟩ | garbled
  · exact .inl (Problem.isOperational_of_isCommand command)
  · exact .inr (.inl rfl)
  · exact .inr (.inr garbled)

theorem detach_text (host : Host σ) (device : String) :
    detach host (.text device) =
      Command.run host (Plan.release device) >>= fun _ =>
        Logger.ownDisk.log .debug ("Detached " ++ device) := rfl

theorem Performs.detach {host : Host σ} {world : World σ} (device : String) :
    Performs host world [Plan.must (Plan.release device)]
      (DiskFixture.detach host (.text device)) := by
  rw [detach_text]
  exact (run _).bind fun _ _ => log _ _ _

namespace LoopDisk

section Detach

variable (host : Host σ) (world : World σ) (device : String)

theorem ending_detach :
    ending (detach host (.text device)) world = world.scene.detaching host device := by
  rw [detach_text, ending_bind, Command.ending_run, Scene.detaching]
  cases Command.reading (Plan.release device) (world.scene.reply host (Plan.release device)) <;> rfl

theorem after_detach :
    (after (detach host (.text device)) world).commands
        = world.commands ++ [Plan.release device] ∧
      (after (detach host (.text device)) world).scene
        = world.scene.next host (Plan.release device) := by
  have performs : Performs host world [Plan.must (Plan.release device)]
      (detach host (.text device)) := .detach device
  exact ⟨by rw [performs.commands, Plan.issued_must],
    by rw [performs.scene, Plan.issued_must, Scene.through_cons, Scene.through_nil]⟩

end Detach

def untilPartitioned (host : Host σ) (path : String) (specs : List PartitionSpec) :
    Action σ Unit := do
  allocate host path (.int (Layout.diskSize specs))
  let _ ← Command.run host (Plan.makeTable path)
  makePartitions host path (Layout.extents specs)

def untilAttached (host : Host σ) (path : String) (specs : List PartitionSpec) :
    Action σ String := do
  untilPartitioned host path specs
  attach host path

def onceAttached (host : Host σ) (path : String) (specs : List PartitionSpec)
    (device : String) : Action σ LoopDisk := do
  Logger.ownDisk.log .info ("Attached " ++ path ++ " as " ++ device)
  let partitions ← formatPartitions host device 1 specs
  return ⟨path, .text device, partitions⟩

/-- The part of a build behind the attachment, with the step that takes the attachment back. -/
def securely (host : Host σ) (path : String) (specs : List PartitionSpec)
    (device : String) : Action σ LoopDisk :=
  withRollback ("detach " ++ device) (detach host (.text device))
    (onceAttached host path specs device)

theorem assemble_eq (host : Host σ) (path : String) {specs : List PartitionSpec}
    (writable : Text.isWritable (Layout.diskSize specs) = true) :
    assemble host path specs =
      withRollback ("remove " ++ path) (removePath host path)
        (untilAttached host path specs >>= securely host path specs) := by
  simp only [assemble, untilAttached, untilPartitioned, writable, if_true, bind_assoc]
  rfl

theorem assemble_of_unwritable (host : Host σ) (path : String) {specs : List PartitionSpec}
    (unwritable : Text.isWritable (Layout.diskSize specs) = false) :
    assemble host path specs =
      withRollback ("remove " ++ path) (removePath host path)
        (Action.reject .unwritableInteger) := by
  simp only [assemble, unwritable]
  rfl

/-- The fault of a build whose steps ended in `fault`. -/
def buildFault (path : String) (fault : Fault) : Fault :=
  if fault.problem.isOperational then
    .dueTo (.build (.text ("Failed to build disk image " ++ path ++ ": " ++ fault.message))
      (.text path)) fault
  else fault

def details (path : String) (specs : List PartitionSpec) : Fields :=
  [("path", .text path), ("size_mib", .int (Layout.diskSize specs))]

def construct (host : Host σ) (path : String) (specs : List PartitionSpec) : Action σ LoopDisk := do
  match ← Action.attempt (assemble host path specs) with
  | .ok disk => return disk
  | .error fault =>
    unless fault.problem.isOperational do throw fault
    let message := "Failed to build disk image " ++ path ++ ": " ++ fault.message
    throw (.dueTo (.build (.text message) (.text path)) fault)

section Build

variable (host : Host σ) (path : String) (specs : List PartitionSpec) (world : World σ)

theorem ending_construct :
    ending (construct host path specs) world
      = (ending (assemble host path specs) world).mapError (buildFault path) := by
  cases ends : ending (assemble host path specs) world with
  | ok disk => simp [construct, ending_bind, ends]
  | error fault =>
    cases operational : fault.problem.isOperational <;>
      simp [construct, ending_bind, ends, operational, buildFault]

theorem after_construct :
    after (construct host path specs) world = after (assemble host path specs) world := by
  cases ends : ending (assemble host path specs) world with
  | ok disk => simp [construct, after_bind, ends]
  | error fault =>
    cases operational : fault.problem.isOperational <;>
      simp [construct, after_bind, ends, operational]

def started : World σ := Operation.opened host "disk" (details path specs) world

@[simp] theorem scene_started : (started host path specs world).scene = world.scene := rfl

@[simp] theorem commands_started :
    (started host path specs world).commands = world.commands := rfl

omit host world in
theorem free_details : ∀ key ∈ Operation.reserved, (details path specs).get? key = none := by
  simp [Operation.reserved, details, Fields.get?, Operation.loggerDetail, Operation.messageDetail]

theorem isPlain_disk : Template.IsPlain (Text.capitalize "disk") := by decide +kernel

/-- A build ends as its steps do, and leaves what they leave. -/
theorem build_spec :
    ending (build host path specs) world
        = (ending (assemble host path specs) (started host path specs world)).mapError
          (buildFault path) ∧
      Operation.Alike (after (build host path specs) world)
        (after (assemble host path specs) (started host path specs world)) := by
  obtain ⟨ends, alike⟩ := Operation.run_spec host "disk" (details path specs)
    (fun _ => construct host path specs) world (free_details path specs) isPlain_disk
  rw [ending_construct] at ends
  rw [after_construct] at alike
  exact ⟨ends, alike⟩

end Build

end LoopDisk

end DiskFixture
