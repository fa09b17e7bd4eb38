import DiskFixture.Proofs.Disk.Rollback

/-!
The command trace of a build. Main statement: a build issues exactly its plan or, where it fails,
the plan up to and with the first command whose answer is not as demanded, and behind that only the
release of a device that was attached; and it fails with a build fault exactly if neither that
answer nor a rollback step was a call that went wrong.
-/

namespace DiskFixture

variable {σ : Type} {α : Type} {host : Host σ} {world : World σ} {path : String}
  {specs : List PartitionSpec}

namespace Plan

def attaching (host : Host σ) (world : World σ) (path : String) (specs : List PartitionSpec) :
    List Step :=
  (untilAttached path specs).map must
    ++ settling host world.settings (attached host world.scene path specs)

theorem ofBuild_eq (host : Host σ) (world : World σ) (path : String)
    (specs : List PartitionSpec) :
    ofBuild host world path specs
      = attaching host world path specs
        ++ identifying (device host world.scene path specs) 1 specs := rfl

end Plan

namespace Performs

theorem untilPartitioned (host : Host σ) (world : World σ) (path : String)
    (specs : List PartitionSpec) :
    Performs host world ((Plan.untilPartitioned path specs).map Plan.must)
      (LoopDisk.untilPartitioned host path specs) :=
  (allocate path _).bind fun _ _ => (run _).bind fun _ _ => makePartitions path _

theorem untilAttached :
    Performs host world (Plan.attaching host world path specs)
      (LoopDisk.untilAttached host path specs) := by
  have first := untilPartitioned host world path specs
  rw [Plan.attaching, Plan.untilAttached_eq, List.map_append, List.append_assoc]
  refine first.bind fun done ends => ?_
  have scene := first.scene_of_ok ends
  rw [Plan.argv_must] at scene
  have rest : Performs host (after (LoopDisk.untilPartitioned host path specs) world) _
      (DiskFixture.attach host path) := attach path
  rw [first.settings, scene] at rest
  rw [Plan.attached, Plan.untilAttached_eq, Scene.through_append]
  exact rest

theorem onceAttached (worded : ∀ spec ∈ specs, spec.IsWorded) (device : String) :
    Performs host world (Plan.identifying device 1 specs)
      (LoopDisk.onceAttached host path specs device) :=
  (log _ _ _).bind fun _ _ => (formatPartitions device 1 worded).bind_pure _

end Performs

namespace Plan

/-- Whether the image is attached and the wait for its device nodes is answered. From there on the
device is released if the build fails. -/
def isAttached (host : Host σ) (world : World σ) (path : String) (specs : List PartitionSpec) :
    Bool :=
  fulfils host world.scene (attaching host world path specs)

/-- The commands that take back a build which broke off. -/
def undoing (host : Host σ) (world : World σ) (path : String) (specs : List PartitionSpec) :
    List (List String) :=
  if isAttached host world path specs
      && !fulfils host world.scene (ofBuild host world path specs) then
    [release (device host world.scene path specs)]
  else []

/-- The scene in which the plan of a build breaks off. -/
def broken (host : Host σ) (world : World σ) (path : String) (specs : List PartitionSpec) :
    Scene σ :=
  world.scene.through host (issued host world.scene (ofBuild host world path specs))

/-- The rollback steps of a plan that breaks off, with how they end. -/
def takenBack (host : Host σ) (world : World σ) (path : String) (specs : List PartitionSpec) :
    List (String × Except Fault Unit) :=
  let scene := broken host world path specs
  let device := device host world.scene path specs
  if isAttached host world path specs then
    [("detach " ++ device, scene.detaching host device),
      ("remove " ++ path, (scene.next host (release device)).clearing host path)]
  else [("remove " ++ path, scene.clearing host path)]

/-- The fault that is left of a plan that breaks off with this one, behind its rollback steps. -/
def faultLeft (host : Host σ) (world : World σ) (path : String) (specs : List PartitionSpec)
    (cause : Fault) : Fault :=
  cause.left ((takenBack host world path specs).map (·.2))

/-- On a faithful host, what is left of a build that fails is what can befall a tool or the file
system, or a call that went wrong. -/
theorem faultLeft_cases (faithful : host.Faithful) {cause : Fault}
    (breaks : verdict host world.scene (ofBuild host world path specs) = .error cause) :
    (faultLeft host world path specs cause).problem.isOperational = true ∨
      (faultLeft host world path specs cause).IsOfCall := by
  have clears {scene : Scene σ} {other : Fault} (fails : scene.clearing host path = .error other) :
      other.problem.isOperational = true ∨ other.IsOfCall :=
    (Scene.fault_of_clearing faithful fails).imp_right fun ⟨_, same⟩ => .inl same
  apply Fault.left_mem (P := fun fault => fault.problem.isOperational = true ∨ fault.IsOfCall)
  · exact fault_of_verdict faithful breaks
  · intro other inside
    unfold takenBack at inside
    dsimp only at inside
    split at inside
    · simp only [List.map_cons, List.map_nil, List.mem_cons, List.not_mem_nil, or_false] at inside
      rcases inside with fails | fails
      · exact Scene.fault_of_detaching faithful fails.symm
      · exact clears fails.symm
    · simp only [List.map_cons, List.map_nil, List.mem_cons, List.not_mem_nil, or_false] at inside
      exact clears inside.symm

end Plan

namespace LoopDisk

theorem eq_strip_of_attach {device : String}
    (ends : ending (attach host path) world = .ok device) :
    device = Text.strip (world.scene.reply host (Plan.attach path)).output := by
  simp only [attach, ending_bind, Command.ending_run, ending_get] at ends
  cases reads : Command.reading (Plan.attach path) (world.scene.reply host (Plan.attach path)) with
  | error fault => simp [reads] at ends
  | ok output =>
    rw [(Command.reading_eq_ok_iff.1 reads).2]
    simp only [reads] at ends
    split at ends
    · rw [ending_bind] at ends
      split at ends
      · exact (Except.ok.inj ends).symm
      · cases ends
    · exact (Except.ok.inj ends).symm

theorem eq_device {device : String}
    (ends : ending (untilAttached host path specs) world = .ok device) :
    device = Plan.device host world.scene path specs := by
  have front := Performs.untilPartitioned host world path specs
  rw [untilAttached, ending_bind] at ends
  cases partitions : ending (untilPartitioned host path specs) world with
  | error fault => simp [partitions] at ends
  | ok done =>
    have scene := front.scene_of_ok partitions
    rw [Plan.argv_must] at scene
    simp only [partitions] at ends
    rw [Plan.device, eq_strip_of_attach ends, scene]

theorem eq_of_onceAttached {device : String} {disk : LoopDisk}
    (ends : ending (onceAttached host path specs device) world = .ok disk) :
    disk.path = path ∧ disk.device = .text device := by
  simp only [onceAttached, ending_bind, Logger.ending_log, ending_pure] at ends
  split at ends <;> cases ends
  exact ⟨rfl, rfl⟩

/-- A build that returns is an attachment that returned a device, and behind it the steps that
returned the disk. -/
theorem parts_of_build {disk : LoopDisk}
    (returned : ending (build host path specs) world = .ok disk) :
    ∃ device,
      let start := started host path specs world
      let attached := after (untilAttached host path specs) start
      ending (untilAttached host path specs) start = .ok device ∧
        ending (onceAttached host path specs device) attached = .ok disk ∧
        Operation.Alike (after (build host path specs) world)
          (after (onceAttached host path specs device) attached) := by
  obtain ⟨ends, alike⟩ := build_spec host path specs world
  rw [ends] at returned
  cases assembles : ending (assemble host path specs) (started host path specs world) with
  | error fault => simp [assembles] at returned
  | ok built =>
    obtain rfl : built = disk := by simpa [assembles] using returned
    cases writable : Text.isWritable (Layout.diskSize specs) with
    | false =>
      rw [assemble_of_unwritable host path writable] at assembles
      cases ending_of_withRollback _ _ _ _ assembles
    | true =>
      rw [assemble_eq host path writable] at assembles alike
      have parts := ending_of_withRollback _ _ _ _ assembles
      obtain ⟨device, attaches, secures⟩ := ending_bind_eq_ok_iff.1 parts
      have completes := ending_of_withRollback _ _ _ _ secures
      refine ⟨device, attaches, completes, ?_⟩
      rw [after_withRollback, parts] at alike
      dsimp only at alike
      rw [after_bind_of_ok attaches, securely, after_withRollback, completes] at alike
      exact alike

/-- A build returns a disk of its path and of the device that the attachment printed. -/
theorem eq_of_build {disk : LoopDisk} (ends : ending (build host path specs) world = .ok disk) :
    disk.path = path ∧ disk.device = .text (Plan.device host world.scene path specs) := by
  obtain ⟨device, attaches, completes, -⟩ := parts_of_build ends
  have printed := eq_device attaches
  rw [scene_started] at printed
  exact printed ▸ eq_of_onceAttached completes

section Assemble

variable (host world path specs)

/-- The part of a build behind the attachment takes the course of its plan, and where that breaks
off, the device is detached. -/
theorem securely_spec (worded : ∀ spec ∈ specs, spec.IsWorded) (device : String) :
    let plan := Plan.identifying device 1 specs
    let scene := world.scene.through host (Plan.issued host world.scene plan)
    let commands := Plan.issued host world.scene plan
      ++ if Plan.fulfils host world.scene plan then [] else [Plan.release device]
    let left := after (securely host path specs device) world
    (ending (securely host path specs device) world).map (fun _ => ())
        = (Plan.verdict host world.scene plan).mapError
            (·.overridden (scene.detaching host device)) ∧
      left.commands = world.commands ++ commands ∧
      left.scene = world.scene.through host commands := by
  have performs : Performs host world (Plan.identifying device 1 specs)
      (onceAttached host path specs device) := .onceAttached worded device
  dsimp only
  rw [securely, ending_withRollback, after_withRollback, ending_detach, ← performs.verdict,
    performs.scene]
  cases ends : ending (onceAttached host path specs device) world with
  | ok disk =>
    have good := Plan.verdict_eq_ok_iff.1 (performs.verdict_of_ok ends)
    rw [if_pos good, List.append_nil]
    exact ⟨rfl, performs.commands, performs.scene⟩
  | error fault =>
    have bad := Plan.fulfils_of_error (performs.verdict_of_error ends)
    obtain ⟨scene, commands, -⟩ := after_rollback ("detach " ++ device)
      (detach host (.text device)) (after (onceAttached host path specs device) world)
    dsimp only
    rw [if_neg (by simp [bad]), scene, commands, (after_detach host _ device).1,
      (after_detach host _ device).2, performs.commands, performs.scene, Scene.through_append,
      List.append_assoc]
    exact ⟨rfl, rfl, rfl⟩

theorem attached_securely_spec (worded : ∀ spec ∈ specs, spec.IsWorded) :
    let plan := Plan.ofBuild host world path specs
    let device := Plan.device host world.scene path specs
    let action := untilAttached host path specs >>= securely host path specs
    let commands := Plan.issued host world.scene plan ++ Plan.undoing host world path specs
    (ending action world).map (fun _ => ())
        = (Plan.verdict host world.scene plan).mapError (fun cause =>
            if Plan.isAttached host world path specs then
              cause.overridden ((Plan.broken host world path specs).detaching host device)
            else cause) ∧
      (after action world).commands = world.commands ++ commands ∧
      (after action world).scene = world.scene.through host commands := by
  have first : Performs host world (Plan.attaching host world path specs)
      (untilAttached host path specs) := .untilAttached
  dsimp only
  rw [Plan.ofBuild_eq, ending_bind, after_bind]
  cases attaches : ending (untilAttached host path specs) world with
  | error fault =>
    have bad := first.verdict_of_error attaches
    have unmet : Plan.isAttached host world path specs = false := Plan.fulfils_of_error bad
    obtain ⟨verdict, issued⟩ := Plan.append_of_error
      (Plan.identifying (Plan.device host world.scene path specs) 1 specs) bad
    rw [verdict, issued, Plan.undoing, unmet]
    simp [first.commands, first.scene, Except.map]
  | ok device =>
    have good := first.verdict_of_ok attaches
    have met : Plan.isAttached host world path specs = true := Plan.verdict_eq_ok_iff.1 good
    -- the plan names the device before it is attached, and this is the one
    obtain rfl := eq_device attaches
    obtain ⟨verdict, commands, scene⟩ := securely_spec host
      (after (untilAttached host path specs) world) path specs worded
      (Plan.device host world.scene path specs)
    rw [first.scene_of_ok attaches] at verdict commands scene
    rw [Plan.verdict_append_of_ok good, Plan.issued_append_of_ok good]
    have undoing : Plan.undoing host world path specs
        = if Plan.fulfils host
            (world.scene.through host ((Plan.attaching host world path specs).map (·.argv)))
            (Plan.identifying (Plan.device host world.scene path specs) 1 specs) then []
          else [Plan.release (Plan.device host world.scene path specs)] := by
      have whole := met
      rw [Plan.isAttached] at whole
      rw [Plan.undoing, met, Plan.ofBuild_eq, Plan.fulfils_append, whole]
      cases Plan.fulfils host _
        (Plan.identifying (Plan.device host world.scene path specs) 1 specs) <;> rfl
    refine ⟨?_, ?_, ?_⟩
    · rw [verdict, Plan.broken, Plan.ofBuild_eq, Plan.issued_append_of_ok good,
        Scene.through_append]
      simp only [met, if_true]
    · rw [commands, first.commands, Plan.issued_of_ok good, undoing]
      simp only [List.append_assoc]
    · rw [scene, undoing]
      simp only [List.append_assoc, Scene.through_append]

/-- The steps of a build take the course of its plan. Where they break off, the device is detached
if there is one, and nothing else is run. -/
theorem assemble_spec (worded : ∀ spec ∈ specs, spec.IsWorded)
    (writable : Text.isWritable (Layout.diskSize specs) = true) :
    let plan := Plan.ofBuild host world path specs
    (ending (assemble host path specs) world).map (fun _ => ())
        = (Plan.verdict host world.scene plan).mapError (Plan.faultLeft host world path specs) ∧
      (after (assemble host path specs) world).commands
        = world.commands ++ Plan.issued host world.scene plan
          ++ Plan.undoing host world path specs := by
  obtain ⟨verdict, commands, scene⟩ := attached_securely_spec host world path specs worded
  dsimp only at verdict commands scene ⊢
  rw [assemble_eq host path writable, ending_withRollback, after_withRollback,
    (removePath_spec host path _).1, scene, List.append_assoc, ← commands]
  cases ends : ending (untilAttached host path specs >>= securely host path specs) world with
  | ok disk =>
    rw [ends] at verdict
    cases judged : Plan.verdict host world.scene (Plan.ofBuild host world path specs) with
    | ok done => exact ⟨rfl, rfl⟩
    | error cause => simp [judged, Except.map] at verdict
  | error fault =>
    rw [ends] at verdict
    refine ⟨?_, by rw [(after_rollback _ _ _).2.1, (removePath_spec host path _).2.2.1]⟩
    cases judged : Plan.verdict host world.scene (Plan.ofBuild host world path specs) with
    | ok done => simp [judged, Except.map] at verdict
    | error cause =>
      have unmet := Plan.fulfils_of_error judged
      rw [judged] at verdict
      obtain rfl := Except.error.inj verdict
      unfold Plan.faultLeft Plan.takenBack Plan.undoing Plan.broken
      cases attached : Plan.isAttached host world path specs <;>
        simp [unmet, Except.map, Fault.left, Scene.through_append]

/-- A build whose size cannot be written issues nothing, and ends in this misuse, unless the removal
fails with another one. -/
theorem build_of_unwritable (unwritable : Text.isWritable (Layout.diskSize specs) = false) :
    ending (build host path specs) world
        = .error (Fault.overridden (.ofMisuse .unwritableInteger)
            (world.scene.clearing host path)) ∧
      (after (build host path specs) world).commands = world.commands := by
  obtain ⟨ends, alike⟩ := build_spec host path specs world
  rw [alike.commands, ends, assemble_of_unwritable host path unwritable, ending_withRollback,
    after_withRollback, Action.ending_reject, Action.after_reject, (removePath_spec host path _).1]
  refine ⟨?_, by rw [(after_rollback _ _ _).2.1, (removePath_spec host path _).2.2.1]; rfl⟩
  -- neither misuse is caught
  have grave : (Fault.overridden (.ofMisuse .unwritableInteger)
      (world.scene.clearing host path)).problem.isOperational ≠ true := by
    intro operational
    rw [Fault.overridden_of_isOperational operational] at operational
    cases operational
  exact congrArg Except.error (if_neg grave)

/-- A build whose size can be written ends as its plan does, in a build fault where that breaks off
and no call went wrong. -/
theorem build_of_writable (worded : ∀ spec ∈ specs, spec.IsWorded)
    (writable : Text.isWritable (Layout.diskSize specs) = true) :
    let plan := Plan.ofBuild host world path specs
    (ending (build host path specs) world).map (fun _ => ())
        = (Plan.verdict host world.scene plan).mapError
            (fun cause => buildFault path (Plan.faultLeft host world path specs cause)) ∧
      (after (build host path specs) world).commands
        = world.commands ++ Plan.issued host world.scene plan
          ++ Plan.undoing host world path specs := by
  obtain ⟨ends, alike⟩ := build_spec host path specs world
  obtain ⟨course, commands⟩ := assemble_spec host (started host path specs world) path specs
    worded writable
  -- the logger that a build starts with is in neither the scene nor the settings
  have same : Plan.ofBuild host (started host path specs world) path specs
      = Plan.ofBuild host world path specs := rfl
  have undoing : Plan.undoing host (started host path specs world) path specs
      = Plan.undoing host world path specs := rfl
  have left : Plan.faultLeft host (started host path specs world) path specs
      = Plan.faultLeft host world path specs := rfl
  rw [same, left, scene_started] at course
  rw [same, scene_started, commands_started, undoing] at commands
  dsimp only
  refine ⟨?_, alike.commands.trans commands⟩
  rw [ends]
  cases assembles : ending (assemble host path specs) (started host path specs world) with
  | ok disk =>
    rw [assembles] at course
    cases judged : Plan.verdict host world.scene (Plan.ofBuild host world path specs) with
    | ok done => rfl
    | error cause => simp [judged, Except.map] at course
  | error fault =>
    rw [assembles] at course
    cases judged : Plan.verdict host world.scene (Plan.ofBuild host world path specs) with
    | ok done => simp [judged, Except.map] at course
    | error cause =>
      rw [judged] at course
      obtain rfl := Except.error.inj course
      rfl

/-- A build issues its plan and returns a disk, if every answer is as demanded. -/
theorem build_of_fulfils (worded : ∀ spec ∈ specs, spec.IsWorded)
    (writable : Text.isWritable (Layout.diskSize specs) = true)
    (met : Plan.fulfils host world.scene (Plan.ofBuild host world path specs) = true) :
    (∃ disk, ending (build host path specs) world = .ok disk) ∧
      (after (build host path specs) world).commands
        = world.commands ++ (Plan.ofBuild host world path specs).map (·.argv) := by
  have good := Plan.verdict_eq_ok_iff.2 met
  obtain ⟨course, commands⟩ := build_of_writable host world path specs worded writable
  rw [good] at course
  rw [Plan.issued_of_ok good, Plan.undoing, met] at commands
  refine ⟨?_, by simpa using commands⟩
  cases ends : ending (build host path specs) world with
  | ok disk => exact ⟨disk, rfl⟩
  | error fault => simp [ends, Except.map] at course

/-- Where an answer is not as demanded, a build issues the plan up to and with the first command
whose answer is not, and behind that the release of the device if it is attached. It ends in a build
fault that is due to this answer, unless a call went wrong. -/
theorem build_of_not_fulfils (worded : ∀ spec ∈ specs, spec.IsWorded)
    (writable : Text.isWritable (Layout.diskSize specs) = true)
    (unmet : Plan.fulfils host world.scene (Plan.ofBuild host world path specs) = false) :
    ∃ done failed later cause, Plan.ofBuild host world path specs = done ++ failed :: later ∧
      Plan.fulfils host world.scene done = true ∧
      failed.verdict ((world.scene.through host (done.map (·.argv))).reply host failed.argv)
        = .error cause ∧
      (after (build host path specs) world).commands
        = world.commands ++ (done ++ [failed]).map (·.argv)
          ++ (if Plan.isAttached host world path specs then
              [Plan.release (Plan.device host world.scene path specs)]
            else []) ∧
      let fault := Plan.faultLeft host world path specs cause
      ending (build host path specs) world = .error (buildFault path fault) ∧
        (fault.problem.isOperational = true → fault = cause) ∧
        (host.Faithful → fault.problem.isOperational = true ∨ fault.IsOfCall) := by
  obtain ⟨course, commands⟩ := build_of_writable host world path specs worded writable
  obtain ⟨cause, bad⟩ := Plan.exists_verdict_of_not_fulfils unmet
  obtain ⟨done, failed, later, split, good, breaks, issued⟩ := Plan.exists_of_error bad
  rw [bad] at course
  refine ⟨done, failed, later, cause, split, Plan.verdict_eq_ok_iff.1 good, breaks, ?_,
    eq_error_of_map course, Fault.left_of_isOperational,
    fun faithful => Plan.faultLeft_cases faithful bad⟩
  simp [commands, issued, Plan.undoing, unmet]

/-- The course of a build is that of its plan. If the size can be written, the plan is issued and a
disk returned if and only if every answer is as demanded; otherwise the plan is issued up to and
with the first command whose answer is not, and behind that the release of the device if it is
attached. The build then ends in a build fault due to that answer, except where a call went wrong,
be it this command, the release or the removal: that is not caught and comes out as it is. -/
theorem build_trace (worded : ∀ spec ∈ specs, spec.IsWorded) :
    let writable := Text.isWritable (Layout.diskSize specs)
    let plan := Plan.ofBuild host world path specs
    let fulfilled := Plan.fulfils host world.scene plan
    let ends := ending (build host path specs) world
    let commands := (after (build host path specs) world).commands
    (writable = false →
      ends = .error (Fault.overridden (.ofMisuse .unwritableInteger)
        (world.scene.clearing host path)) ∧
      commands = world.commands) ∧
    (writable = true → fulfilled = true →
      (∃ disk, ends = .ok disk) ∧ commands = world.commands ++ plan.map (·.argv)) ∧
    (writable = true → fulfilled = false →
      ∃ done failed later cause, plan = done ++ failed :: later ∧
        Plan.fulfils host world.scene done = true ∧
        failed.verdict ((world.scene.through host (done.map (·.argv))).reply host failed.argv)
          = .error cause ∧
        commands = world.commands ++ (done ++ [failed]).map (·.argv)
          ++ (if Plan.isAttached host world path specs then
              [Plan.release (Plan.device host world.scene path specs)]
            else []) ∧
        let fault := Plan.faultLeft host world path specs cause
        ends = .error (buildFault path fault) ∧
          (fault.problem.isOperational = true → fault = cause) ∧
          (host.Faithful → fault.problem.isOperational = true ∨ fault.IsOfCall)) :=
  ⟨build_of_unwritable host world path specs, build_of_fulfils host world path specs worded,
    build_of_not_fulfils host world path specs worded⟩

end Assemble

theorem build_trace_obliging :
    (∀ spec ∈ [PartitionSpec.data], spec.IsWorded) ∧
      (∃ disk, ending (build .obliging "disk.img" [.data]) .untouched = .ok disk) ∧
      (after (build .obliging "disk.img" [.data]) .untouched).commands =
        [["dd", "if=/dev/zero", "of=disk.img", "bs=1M", "count=66"],
          ["parted", "-s", "disk.img", "mktable", "gpt"],
          ["parted", "-s", "disk.img", "mkpart", "primary", "1MiB", "65MiB"],
          ["losetup", "-f", "-P", "disk.img", "--show"],
          ["udevadm", "settle"],
          ["blkid", "/dev/loop0p1"],
          ["mkfs.ext4", "/dev/loop0p1", "-L", "data"]] := by
  have worded : ∀ spec ∈ [PartitionSpec.data], spec.IsWorded := by
    simp [PartitionSpec.isWorded_data]
  have trace := build_trace .obliging .untouched "disk.img" [.data] worded
  have writable : Text.isWritable (Layout.diskSize [.data]) = true := by decide +kernel
  have met : Plan.fulfils .obliging World.untouched.scene
      (Plan.ofBuild .obliging .untouched "disk.img" [.data]) = true := by
    decide +kernel
  obtain ⟨returns, commands⟩ := trace.2.1 writable met
  exact ⟨worded, returns, commands.trans (by decide +kernel)⟩

/-- A format whose output is no text fails the build, but not with a build fault. -/
theorem build_garbled :
    let host := Host.garbling ["mkfs.ext4"]
    host.Faithful ∧ PartitionSpec.data.IsWorded ∧
      (match ending (build host "disk.img" [.data]) .untouched with
        | .ok _ => ""
        | .error fault => fault.kind) = "UnicodeDecodeError" ∧
      (after (build host "disk.img" [.data]) .untouched).commands.drop 5 =
        [["blkid", "/dev/loop0p1"],
          ["mkfs.ext4", "/dev/loop0p1", "-L", "data"],
          ["losetup", "-d", "/dev/loop0"]] := by
  refine ⟨Host.faithful_garbling _, PartitionSpec.isWorded_data, ?_⟩
  decide +kernel

example : (after (build .obliging "disk.img" [.huge]) .untouched).commands = [] :=
  (build_of_unwritable .obliging .untouched "disk.img" [.huge] PartitionSpec.isWritable_huge).2

end LoopDisk

end DiskFixture
