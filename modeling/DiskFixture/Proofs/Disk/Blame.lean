import DiskFixture.Proofs.Disk.RollbackNotes

/-!
The blame for a failed build. Main statement: a build that fails does so for the first planned
command whose answer is not as demanded. Its fault names the path, is due to the very fault of that
command and tells all of it, unless a call went wrong, be it that command or a rollback step; and
only rollback steps that fail are noted.
-/

namespace DiskFixture

variable {σ : Type} {host : Host σ}

/-- Whether a text stands somewhere in a message. -/
def Text.IsToldIn (text message : String) : Prop :=
  ∃ front rest, message = front ++ text ++ rest

theorem Text.IsToldIn.behind {text message : String} (told : IsToldIn text message)
    (front : String) : IsToldIn text (front ++ message) := by
  obtain ⟨before, rest, rfl⟩ := told
  exact ⟨front ++ before, rest, by simp [String.append_assoc]⟩

/-- The message about a command tells its words and its whole output. -/
theorem Problem.isToldIn_message (argv : List String) (status : Value) (output : String) :
    let message := (command argv status (.text output)).message
    Text.IsToldIn (" ".intercalate argv) message ∧ Text.IsToldIn output message := by
  have told : ∃ outcome, (command argv status (.text output)).message
      = "Command failed (" ++ " ".intercalate argv ++ "): " ++ outcome ++ " (" ++ output ++ ")" :=
    ⟨_, rfl⟩
  obtain ⟨outcome, told⟩ := told
  constructor
  · refine ⟨"Command failed (", "): " ++ outcome ++ " (" ++ output ++ ")", ?_⟩
    rw [told]
    simp only [String.append_assoc]
  · exact ⟨_, ")", told⟩

namespace LoopDisk

section Build

variable {world : World σ} {path : String} {specs : List PartitionSpec} {cause : Fault}

/-- The message of a build fault tells the command that it is due to, and all that it printed. -/
theorem exists_buildFault_eq (operational : cause.problem.isOperational = true) (path : String) :
    ∃ message, buildFault path cause = .dueTo (.build (.text message) (.text path)) cause ∧
      ∀ argv status output, cause.problem = .command argv status (.text output) →
        Text.IsToldIn (" ".intercalate argv) message ∧ Text.IsToldIn output message := by
  refine ⟨_, if_pos operational, fun argv status output command => ?_⟩
  obtain ⟨words, printed⟩ := Problem.isToldIn_message argv status output
  rw [Fault.message, command]
  exact ⟨words.behind _, printed.behind _⟩

/-- A build of a size that cannot be written notes its only rollback step, the removal. -/
theorem rollbackNotes_build_of_unwritable (host : Host σ) (world : World σ) (path : String)
    (unwritable : Text.isWritable (Layout.diskSize specs) = false) :
    (after (build host path specs) world).rollbackNotes
      = world.rollbackNotes ++ noted ("remove " ++ path) (world.scene.clearing host path) := by
  obtain ⟨inner, outer⟩ := rollbackNotes_build host path specs world
  rw [inner, rollbackNotes_assemble_of_unwritable unwritable, outer, scene_started]

theorem rollbackNotes_build_of_breaks (worded : ∀ spec ∈ specs, spec.IsWorded)
    (writable : Text.isWritable (Layout.diskSize specs) = true)
    (breaks : Plan.verdict host world.scene (Plan.ofBuild host world path specs) = .error cause) :
    (after (build host path specs) world).rollbackNotes
      = world.rollbackNotes
        ++ (Plan.takenBack host world path specs).flatMap fun step => noted step.1 step.2 := by
  obtain ⟨inner, outer⟩ := rollbackNotes_build host path specs world
  rw [inner, ← outer]
  -- what a build opens with is in neither the scene nor the settings
  exact rollbackNotes_assemble worded writable breaks

/-- The fault of a failed build is due to the first planned command whose answer is not as demanded,
and each of its rollback steps is noted if it fails, and not if it does not. Where the call of that
command or of a rollback step went wrong, the last such fault is what comes out, as it is and
unnoted; and a size that cannot be written is refused before any command. -/
theorem build_blames (worded : ∀ spec ∈ specs, spec.IsWorded) {fault : Fault}
    (fails : ending (build host path specs) world = .error fault) :
    let plan := Plan.ofBuild host world path specs
    let notes := (after (build host path specs) world).rollbackNotes
    (Text.isWritable (Layout.diskSize specs) = false →
      fault = Fault.overridden (.ofMisuse .unwritableInteger) (world.scene.clearing host path) ∧
      notes = world.rollbackNotes
        ++ noted ("remove " ++ path) (world.scene.clearing host path)) ∧
    (Text.isWritable (Layout.diskSize specs) = true →
      ∃ done failed later cause,
        plan = done ++ failed :: later ∧
        Plan.fulfils host world.scene done = true ∧
        failed.Blames ((world.scene.through host (done.map (·.argv))).reply host failed.argv)
          cause ∧
        notes = world.rollbackNotes
          ++ (Plan.takenBack host world path specs).flatMap (fun step => noted step.1 step.2) ∧
        let left := Plan.faultLeft host world path specs cause
        (left.problem.isOperational = true →
          left = cause ∧
          ∃ message, fault = .dueTo (.build (.text message) (.text path)) cause ∧
            ∀ argv status output, cause.problem = .command argv status (.text output) →
              Text.IsToldIn (" ".intercalate argv) message ∧ Text.IsToldIn output message) ∧
        (left.problem.isOperational = false →
          fault = left ∧ (host.Faithful → fault.IsOfCall))) := by
  dsimp only
  constructor
  · intro unwritable
    obtain ⟨course, -⟩ := build_of_unwritable host world path specs unwritable
    rw [fails] at course
    exact ⟨Except.error.inj course, rollbackNotes_build_of_unwritable host world path unwritable⟩
  · intro writable
    obtain ⟨course, -⟩ := build_of_writable host world path specs worded writable
    rw [fails] at course
    cases breaks : Plan.verdict host world.scene (Plan.ofBuild host world path specs) with
    | ok goes => simp [breaks, Except.map] at course
    | error cause =>
      rw [breaks] at course
      have ends : fault = buildFault path (Plan.faultLeft host world path specs cause) :=
        Except.error.inj course
      obtain ⟨done, failed, later, split, good, answer, -⟩ := Plan.exists_of_error breaks
      refine ⟨done, failed, later, cause, split, Plan.verdict_eq_ok_iff.1 good,
        Plan.Step.blames_of_verdict answer, rollbackNotes_build_of_breaks worded writable breaks,
        fun operational => ?_, fun grave => ?_⟩
      · have same : Plan.faultLeft host world path specs cause = cause :=
          Fault.left_of_isOperational operational
        rw [same] at ends operational
        obtain ⟨message, shape, tells⟩ := exists_buildFault_eq operational path
        exact ⟨same, message, ends.trans shape, tells⟩
      · have uncaught : fault = Plan.faultLeft host world path specs cause :=
          ends.trans (if_neg (by simp [grave]))
        refine ⟨uncaught, fun faithful => ?_⟩
        rcases Plan.faultLeft_cases faithful breaks with operational | wrong
        · simp [operational] at grave
        · exact uncaught ▸ wrong

end Build

/-- Where the format fails, it is to blame, although the release fails after it and is noted. -/
theorem build_blames_stuck :
    ∃ cause message,
      ending (build .stuck "disk.img" [.data]) .untouched
        = .error (.dueTo (.build (.text message) (.text "disk.img")) cause) ∧
      (after (build .stuck "disk.img" [.data]) .untouched).rollbackNotes
        = ["Rollback step 'detach /dev/loop0' failed: " ++
            "Command failed (losetup -d /dev/loop0): exit status 1 (busy)"] := by
  have worded : ∀ spec ∈ [PartitionSpec.data], spec.IsWorded := by
    simp [PartitionSpec.isWorded_data]
  have writable : Text.isWritable (Layout.diskSize [.data]) = true := by decide +kernel
  have taken : ((Plan.takenBack .stuck .untouched "disk.img" [.data]).flatMap
      fun step => noted step.1 step.2)
        = ["Rollback step 'detach /dev/loop0' failed: " ++
            "Command failed (losetup -d /dev/loop0): exit status 1 (busy)"] := by
    decide +kernel
  have broken : ((ending (build .stuck "disk.img" [.data]) .untouched).map fun _ => ()).mapError
      (·.problem.isOperational) = .error true := by
    decide +kernel
  cases fails : ending (build .stuck "disk.img" [.data]) .untouched with
  | ok disk =>
    rw [fails] at broken
    cases broken
  | error fault =>
    rw [fails] at broken
    have raised : fault.problem.isOperational = true := Except.error.inj broken
    obtain ⟨-, blamed⟩ := build_blames worded fails
    obtain ⟨done, failed, later, cause, -, -, -, notes, due, uncaught⟩ := blamed writable
    cases operational :
        (Plan.faultLeft .stuck .untouched "disk.img" [.data] cause).problem.isOperational with
    | true =>
      obtain ⟨-, message, shape, -⟩ := due operational
      exact ⟨cause, message, congrArg Except.error shape, notes.trans taken⟩
    | false =>
      rw [(uncaught operational).1, operational] at raised
      cases raised

end LoopDisk

/-- A host that formats nothing, and whose output is no text when it releases a device. -/
def Host.mumbling : Host Unit :=
  .fixed
    (fun argv => match argv with
      | "mkfs.ext4" :: _ => .exited (.int 1) "busy"
      | "losetup" :: "-d" :: _ => .garbled
      | _ => .usual argv)
    imaging

theorem Host.faithful_mumbling : mumbling.Faithful := by
  refine faithful_fixed fun argv => ?_
  split
  · exact .exited 1 _
  · exact .garbled _
  · exact Reply.isAnswer_usual argv

/-- A release whose output is no text hides why the build failed, and is not noted. -/
theorem LoopDisk.build_blames_release :
    Host.mumbling.Faithful ∧ Text.isWritable (Layout.diskSize [.data]) = true ∧
      (match Plan.verdict .mumbling World.untouched.scene
          (Plan.ofBuild .mumbling .untouched "disk.img" [.data]) with
        | .ok _ => ""
        | .error fault => fault.kind) = "ExternalCommandError" ∧
      (match ending (build .mumbling "disk.img" [.data]) .untouched with
        | .ok _ => ""
        | .error fault => fault.kind) = "UnicodeDecodeError" ∧
      (after (build .mumbling "disk.img" [.data]) .untouched).rollbackNotes = [] := by
  refine ⟨Host.faithful_mumbling, ?_⟩
  decide +kernel

end DiskFixture
