import DiskFixture.Proofs.Abreast
import DiskFixture.Proofs.Disk.Partitions

/-!
Builds and the wait for device nodes. Two builds side by side, on hosts that only a wait tells
apart, take the same steps; the one place where what they issue may differ is behind the attachment.
Main statement: neither the settings nor the tool that waits have a say in how a build ends and what
it leaves, as long as a wait is answered; where it is not, the build ends there and the device stays
attached.
-/

namespace DiskFixture

variable {σ τ : Type} {alike : σ → τ → Prop} {host : Host σ} {companion : Host τ}
  {path : String} {specs : List PartitionSpec}

namespace Plan

/-- What is issued in two runs is the same, except that one of them may have waited for device nodes
right behind an attachment. -/
inductive DifferByWait (path : String) : Issued
  | same (commands : List (List String)) : DifferByWait path commands commands
  | waited (front rest : List (List String)) :
    DifferByWait path (front ++ attach path :: wait :: rest) (front ++ attach path :: rest)
  | unwaited (front rest : List (List String)) :
    DifferByWait path (front ++ attach path :: rest) (front ++ attach path :: wait :: rest)

namespace DifferByWait

theorem joins_behind : Issued.Joins Eq (DifferByWait path) (DifferByWait path) := by
  refine ⟨?_, same []⟩
  rintro before _ _ _ rfl differ
  cases differ with
  | same commands => exact same _
  | waited front rest => simpa only [List.append_assoc] using waited (before ++ front) rest
  | unwaited front rest => simpa only [List.append_assoc] using unwaited (before ++ front) rest

theorem joins_before : Issued.Joins (DifferByWait path) Eq (DifferByWait path) := by
  refine ⟨?_, rfl⟩
  rintro _ _ later _ differ rfl
  cases differ with
  | same commands => exact same _
  | waited front rest =>
    simpa only [List.append_assoc, List.cons_append] using waited front (rest ++ later)
  | unwaited front rest =>
    simpa only [List.append_assoc, List.cons_append] using unwaited front (rest ++ later)

end DifferByWait

/-- At most one wait on either side. -/
def PerhapsWait : Issued := fun front rest =>
  (front = [] ∨ front = [wait]) ∧ (rest = [] ∨ rest = [wait])

theorem joins_attach :
    Issued.Joins (fun front rest => front = [attach path] ∧ rest = [attach path]) PerhapsWait
      (DifferByWait path) := by
  refine ⟨?_, .inl rfl, .inl rfl⟩
  rintro _ _ _ _ ⟨rfl, rfl⟩ ⟨rfl | rfl, rfl | rfl⟩
  · exact .same _
  · exact .unwaited [] []
  · exact .waited [] []
  · exact .same _

/-- Whether the wait for device nodes behind an attachment, if there is one, is answered. -/
def isAwaited (host : Host σ) (world : World σ) (path : String) (specs : List PartitionSpec) :
    Bool :=
  let scene := attached host world.scene path specs
  fulfils host scene (settling host world.settings scene)

theorem attached_eq (host : Host σ) (scene : Scene σ) (path : String)
    (specs : List PartitionSpec) :
    attached host scene path specs
      = (scene.through host (untilPartitioned path specs)).next host (attach path) := by
  rw [attached, untilAttached_eq, Scene.through_append]
  rfl

/-- A wait that is not answered is a call that went wrong. -/
theorem unanswered_of_settling {settings : Fields} {scene : Scene σ}
    (unmet : fulfils host scene (settling host settings scene) = false) :
    settling host settings scene = [⟨wait, .answer⟩] ∧
      ∃ wrong, scene.reply host wait = .failed (.misuse wrong) := by
  unfold settling at unmet ⊢
  split at unmet
  · rename_i waits
    refine ⟨if_pos waits, ?_⟩
    simp only [fulfils, Demand.isMet, Bool.and_true, Bool.not_eq_false'] at unmet
    unfold wait
    cases answer : scene.reply host ["udevadm", "settle"] with
    | exited status output => simp [answer, Reply.isMisuse] at unmet
    | failed fault =>
      cases fault with
      | system error => simp [answer, Reply.isMisuse, CallFault.isMisuse] at unmet
      | misuse wrong => exact ⟨wrong, rfl⟩
  · cases unmet

end Plan

namespace LoopDisk

theorem performs_await (host : Host σ) (world : World σ) :
    Performs host world (Plan.settling host world.settings world.scene) (await host) := by
  have plan : Plan.settling host world.settings world.scene
      = [] ++ Plan.settling host world.settings world.scene := rfl
  rw [plan]
  refine (Performs.quiet (ending_get world) rfl rfl rfl).bind fun found ends => ?_
  cases ends
  by_cases wanted : Settings.isOn world.settings "settle_udev" true = true
  · simpa [Plan.settling, wanted, World.scene] using Performs.settle
  · simpa [Plan.settling, wanted] using Performs.pure ()

/-- A wait that is answered does not fail, and issues one command or none. -/
theorem await_spec {world : World σ}
    (answered : Plan.fulfils host world.scene (Plan.settling host world.settings world.scene)
      = true) :
    ending (await host) world = .ok () ∧
      ∃ waits, (waits = [] ∨ waits = [Plan.wait]) ∧
        (after (await host) world).commands = world.commands ++ waits ∧
        (after (await host) world).scene = world.scene.through host waits := by
  have performs := performs_await host world
  have good := Plan.verdict_eq_ok_iff.2 answered
  have goes : ending (await host) world = .ok () := by
    cases ends : ending (await host) world with
    | ok done => rfl
    | error fault =>
      have bad := performs.verdict_of_error ends
      rw [good] at bad
      cases bad
  refine ⟨goes, (Plan.settling host world.settings world.scene).map (·.argv), ?_, ?_, ?_⟩
  · unfold Plan.settling
    split
    · exact .inr rfl
    · exact .inl rfl
  · rw [performs.commands, Plan.issued_of_ok good]
  · exact performs.scene_of_ok goes

end LoopDisk

namespace Abreast

variable (agree : host.Agree alike companion)
include agree

theorem await {world : World σ} {other : World τ} (like : world.scene.Like alike other.scene)
    (answered : Plan.fulfils host world.scene (Plan.settling host world.settings world.scene)
      = true)
    (replied : Plan.fulfils companion other.scene
      (Plan.settling companion other.settings other.scene) = true) :
    InStep alike Plan.PerhapsWait world other (LoopDisk.await host) (LoopDisk.await companion) := by
  obtain ⟨goes, waits, few, issues, scene⟩ := LoopDisk.await_spec answered
  obtain ⟨passes, pauses, rare, issued, view⟩ := LoopDisk.await_spec replied
  refine ⟨goes.trans passes.symm, ?_, waits, pauses, issues, issued, few, rare⟩
  have left : (world.scene.through host waits).Like alike other.scene := by
    rcases few with rfl | rfl
    · exact like
    · exact agree.waits like
  rw [scene, view]
  rcases rare with rfl | rfl
  · exact left
  · exact agree.awaited left

theorem attach (path : String) {world : World σ} {other : World τ}
    (like : world.scene.Like alike other.scene)
    (answered : Plan.fulfils host (world.scene.next host (Plan.attach path))
      (Plan.settling host world.settings (world.scene.next host (Plan.attach path))) = true)
    (replied : Plan.fulfils companion (other.scene.next companion (Plan.attach path))
      (Plan.settling companion other.settings (other.scene.next companion (Plan.attach path)))
        = true) :
    InStep alike (Plan.DifferByWait path) world other (attach host path)
      (DiskFixture.attach companion path) := by
  rw [LoopDisk.attach_eq, LoopDisk.attach_eq]
  have foreign : Plan.attach path ≠ Plan.wait := by simp [Plan.attach, Plan.wait]
  have step := issue agree foreign like
  refine step.bind Plan.joins_attach fun output _ _ => ?_
  rw [← Command.scene_after_run, ← Command.settings_after_run host (Plan.attach path) world]
    at answered
  rw [← Command.scene_after_run, ← Command.settings_after_run companion (Plan.attach path) other]
    at replied
  exact (await agree step.scenes answered replied).bind_pure fun _ => Text.strip output

theorem makePartitions (path : String) (extents : List Extent) :
    Abreast alike Eq (makePartitions host path extents)
      (DiskFixture.makePartitions companion path extents) := by
  induction extents with
  | nil => exact pure ()
  | cons extent rest ih =>
    have other : Plan.makePartition path extent ≠ Plan.wait := by
      simp [Plan.makePartition, Plan.wait]
    exact (run agree other).andThen fun _ => ih

theorem untilPartitioned (path : String) (specs : List PartitionSpec) :
    Abreast alike Eq (LoopDisk.untilPartitioned host path specs)
      (LoopDisk.untilPartitioned companion path specs) := by
  have image : Plan.allocate path (.int (Layout.diskSize specs)) ≠ Plan.wait := by
    simp [Plan.allocate, Plan.wait]
  have table : Plan.makeTable path ≠ Plan.wait := by simp [Plan.makeTable, Plan.wait]
  refine ((run agree image).bind_pure _).andThen fun _ => ?_
  exact (run agree table).andThen fun _ => makePartitions agree path _

theorem untilAttached (path : String) (specs : List PartitionSpec) {world : World σ}
    {other : World τ} (like : world.scene.Like alike other.scene)
    (answered : Plan.isAwaited host world path specs = true)
    (replied : Plan.isAwaited companion other path specs = true) :
    InStep alike (Plan.DifferByWait path) world other (LoopDisk.untilAttached host path specs)
      (LoopDisk.untilAttached companion path specs) := by
  have step := untilPartitioned agree path specs like
  refine step.bind Plan.DifferByWait.joins_behind fun done ends stops => ?_
  have front := Performs.untilPartitioned host world path specs
  have fore := Performs.untilPartitioned companion other path specs
  have scene := front.scene_of_ok ends
  have view := fore.scene_of_ok stops
  rw [Plan.argv_must] at scene view
  unfold Plan.isAwaited at answered replied
  rw [Plan.attached_eq, ← scene, ← front.settings] at answered
  rw [Plan.attached_eq, ← view, ← fore.settings] at replied
  exact attach agree path step.scenes answered replied

theorem resolve (node : String) :
    Abreast alike Eq (Identifier.resolve host node) (Identifier.resolve companion node) := by
  have other : ["blkid", node] ≠ Plan.wait := by simp [Plan.wait]
  refine (run agree other).andThen fun output => ?_
  split
  · exact throw _
  · exact (log _ _ _).andThen fun _ => pure _

theorem make (node : String) (filesystem label : Value) :
    Abreast alike Eq (Filesystem.make host (.text node) filesystem label)
      (Filesystem.make companion (.text node) filesystem label) := by
  refine (log _ _ _).andThen fun _ => ?_
  cases command : Filesystem.makeCommand (.text node) filesystem label with
  | error misuse => exact throw (.ofMisuse misuse)
  | ok argv =>
    have other : argv ≠ Plan.wait := by
      rintro rfl
      exact Filesystem.head_ne_of_makeCommand command (by decide) rfl
    exact run agree other

theorem formatPartitions (device : String) (index : Nat) (specs : List PartitionSpec) :
    Abreast alike Eq (formatPartitions host device index specs)
      (DiskFixture.formatPartitions companion device index specs) := by
  induction specs generalizing index with
  | nil => exact pure []
  | cons spec rest ih =>
    refine (resolve agree _).andThen fun identifier => ?_
    exact (make agree _ _ _).andThen fun _ => (ih (index + 1)).andThen fun _ => pure _

theorem detach (device : String) :
    Abreast alike Eq (DiskFixture.detach host (.text device))
      (DiskFixture.detach companion (.text device)) := by
  have other : Plan.release device ≠ Plan.wait := by simp [Plan.release, Plan.wait]
  exact (run agree other).andThen fun _ => log _ _ _

theorem securely (path : String) (specs : List PartitionSpec) (device : String) :
    Abreast alike Eq (LoopDisk.securely host path specs device)
      (LoopDisk.securely companion path specs device) := by
  have does : Abreast alike Eq (LoopDisk.onceAttached host path specs device)
      (LoopDisk.onceAttached companion path specs device) :=
    (log _ _ _).andThen fun _ => (formatPartitions agree device 1 specs).andThen fun _ => pure _
  exact fun _ _ like => withRollback Issued.joins_eq (detach agree device) (does like) _

theorem assemble (path : String) (specs : List PartitionSpec) {world : World σ} {other : World τ}
    (like : world.scene.Like alike other.scene)
    (answered : Plan.isAwaited host world path specs = true)
    (replied : Plan.isAwaited companion other path specs = true) :
    InStep alike (Plan.DifferByWait path) world other (LoopDisk.assemble host path specs)
      (LoopDisk.assemble companion path specs) := by
  cases writable : Text.isWritable (Layout.diskSize specs) with
  | true =>
    rw [LoopDisk.assemble_eq host path writable, LoopDisk.assemble_eq companion path writable]
    have step := untilAttached agree path specs like answered replied
    have does := step.bind Plan.DifferByWait.joins_before fun device _ _ =>
      securely agree path specs device step.scenes
    exact withRollback Plan.DifferByWait.joins_before (removePath agree path) does _
  | false =>
    rw [LoopDisk.assemble_of_unwritable host path writable,
      LoopDisk.assemble_of_unwritable companion path writable]
    have refuses : Abreast alike Eq (Action.reject .unwritableInteger : Action σ LoopDisk)
        (Action.reject .unwritableInteger : Action τ LoopDisk) := throw _
    have steps := withRollback Issued.joins_eq (removePath agree path) (refuses like)
      ("remove " ++ path)
    refine steps.mono ?_
    rintro issued _ rfl
    exact .same issued

theorem build (path : String) (specs : List PartitionSpec) {world : World σ} {other : World τ}
    (like : world.scene.Like alike other.scene)
    (answered : Plan.isAwaited host world path specs = true)
    (replied : Plan.isAwaited companion other path specs = true) :
    InStep alike (Plan.DifferByWait path) world other (LoopDisk.build host path specs)
      (LoopDisk.build companion path specs) := by
  obtain ⟨ends, alone⟩ := LoopDisk.build_spec host path specs world
  obtain ⟨stops, apart⟩ := LoopDisk.build_spec companion path specs other
  have begun : (LoopDisk.started host path specs world).scene.Like alike
      (LoopDisk.started companion path specs other).scene := like
  have step := assemble agree path specs begun answered replied
  obtain ⟨front, rest, issues, issued, differ⟩ := step.commands
  refine ⟨?_, ?_, front, rest, ?_, ?_, differ⟩
  · rw [ends, stops, step.ends]
  · rw [alone.scene, apart.scene]
    exact step.scenes
  · rw [alone.commands, issues, LoopDisk.commands_started]
  · rw [apart.commands, issued, LoopDisk.commands_started]

end Abreast

namespace LoopDisk

/-- How a build can end on a faithful host: in a disk, in a build fault, in the misuse of a size
that has too many digits, or in a call that went wrong. -/
theorem ending_build_cases (faithful : host.Faithful) (worded : ∀ spec ∈ specs, spec.IsWorded)
    (path : String) (world : World σ) :
    let ends := ending (build host path specs) world
    (∃ disk, ends = .ok disk) ∨
      (∃ message causes, ends = .error ⟨.build (.text message) (.text path), causes⟩) ∨
      (Text.isWritable (Layout.diskSize specs) = false ∧
        ends = .error (.ofMisuse .unwritableInteger)) ∨
      ∃ fault, ends = .error fault ∧ fault.IsOfCall := by
  intro ends
  cases writable : Text.isWritable (Layout.diskSize specs) with
  | false =>
    obtain ⟨refused, -⟩ := build_of_unwritable host world path specs writable
    right; right
    cases clears : world.scene.clearing host path with
    | ok done =>
      rw [clears] at refused
      exact .inl ⟨rfl, refused⟩
    | error fault =>
      rw [clears] at refused
      rcases Scene.fault_of_clearing faithful clears with operational | ⟨-, rfl⟩
      · exact .inl ⟨rfl, refused.trans (congrArg Except.error (if_pos operational))⟩
      · exact .inr ⟨_, refused, .inl rfl⟩
  | true =>
    cases met : Plan.fulfils host world.scene (Plan.ofBuild host world path specs) with
    | true => exact .inl (build_of_fulfils host world path specs worded writable met).1
    | false =>
      obtain ⟨_, _, _, cause, -, -, -, -, fails, -, left⟩ :=
        build_of_not_fulfils host world path specs worded writable met
      rcases left faithful with operational | wrong
      · exact .inr (.inl ⟨_, _, fails.trans (congrArg Except.error (if_pos operational))⟩)
      · refine .inr (.inr (.inr ⟨_, fails, ?_⟩))
        rcases wrong with same | ⟨garbled, same⟩
        · exact .inl (by rw [same]; rfl)
        · exact .inr ⟨garbled, by rw [same]; rfl⟩

/-- Where the image is attached and the wait behind it is not answered, the build ends there, and
the device is not released. -/
theorem build_of_unanswered (host : Host σ) (world : World σ) (path : String)
    (worded : ∀ spec ∈ specs, spec.IsWorded)
    (writable : Text.isWritable (Layout.diskSize specs) = true)
    (attached : Plan.fulfils host world.scene ((Plan.untilAttached path specs).map Plan.must)
      = true)
    (unanswered : Plan.isAwaited host world path specs = false) :
    let scene := Plan.attached host world.scene path specs
    ∃ wrong, scene.reply host Plan.wait = .failed (.misuse wrong) ∧
      ending (build host path specs) world
        = .error (Fault.overridden (.ofMisuse wrong)
            ((scene.next host Plan.wait).clearing host path)) ∧
      (after (build host path specs) world).commands
        = world.commands ++ Plan.untilAttached path specs ++ [Plan.wait] := by
  obtain ⟨waits, wrong, answer⟩ := Plan.unanswered_of_settling unanswered
  obtain ⟨course, commands⟩ := build_of_writable host world path specs worded writable
  have good := Plan.verdict_eq_ok_iff.2 attached
  have breaks : Plan.verdict host (Plan.attached host world.scene path specs)
      [⟨Plan.wait, .answer⟩] = .error (.ofMisuse wrong) := by
    simp [Plan.verdict, Plan.Step.verdict, answer]
  have wait : Plan.issued host (Plan.attached host world.scene path specs)
      [⟨Plan.wait, .answer⟩] = [Plan.wait] := by
    simp [Plan.issued, Plan.Step.verdict, answer]
  -- the attachment goes well, so the plan up to the wait breaks off with the wait
  have ends : Plan.verdict host world.scene (Plan.attaching host world path specs)
      = .error (.ofMisuse wrong) := by
    rw [Plan.attaching, waits, Plan.verdict_append_of_ok good, Plan.argv_must]
    exact breaks
  have issued : Plan.issued host world.scene (Plan.attaching host world path specs)
      = Plan.untilAttached path specs ++ [Plan.wait] := by
    rw [Plan.attaching, waits, Plan.issued_append_of_ok good, Plan.argv_must]
    exact congrArg _ wait
  obtain ⟨verdict, whole⟩ := Plan.append_of_error
    (Plan.identifying (Plan.device host world.scene path specs) 1 specs) ends
  have loose : Plan.isAttached host world path specs = false := Plan.fulfils_of_error ends
  have broken : Plan.broken host world path specs
      = (Plan.attached host world.scene path specs).next host Plan.wait := by
    rw [Plan.broken, Plan.ofBuild_eq, whole, issued, Scene.through_append]
    rfl
  rw [Plan.ofBuild_eq, verdict] at course
  rw [Plan.ofBuild_eq, whole, issued, Plan.undoing, loose] at commands
  have left : Plan.faultLeft host world path specs (.ofMisuse wrong)
      = Fault.overridden (.ofMisuse wrong) (((Plan.attached host world.scene path specs).next
          host Plan.wait).clearing host path) := by
    rw [Plan.faultLeft, Plan.takenBack, loose, broken]
    rfl
  refine ⟨wrong, answer, ?_, by simpa [List.append_assoc] using commands⟩
  have grave : (Plan.faultLeft host world path specs (.ofMisuse wrong)).problem.isOperational
      ≠ true := by
    intro operational
    have same : Plan.faultLeft host world path specs (.ofMisuse wrong) = .ofMisuse wrong :=
      Fault.left_of_isOperational operational
    rw [same] at operational
    cases operational
  rw [← left]
  exact (eq_error_of_map course).trans (congrArg Except.error (if_neg grave))

/-- Builds on hosts that only a wait for device nodes tells apart end in the same way and leave the
same files, whatever the settings are, and their commands differ in one wait at most, right behind
the attachment, if the waits are answered. A wait behind the attachment that is not ends the build,
and the device is not released. -/
theorem build_settling (agree : host.Agree alike companion) {world : World σ} {other : World τ}
    (like : world.scene.Like alike other.scene) (path : String) (specs : List PartitionSpec) :
    let ends := ending (build host path specs) world
    let left := after (build host path specs) world
    let view := after (build companion path specs) other
    let scene := Plan.attached host world.scene path specs
    let worded := ∀ spec ∈ specs, spec.IsWorded
    (Plan.isAwaited host world path specs = true →
      Plan.isAwaited companion other path specs = true →
        ends = ending (build companion path specs) other ∧
        left.files = view.files ∧ alike left.memory view.memory ∧
        ∃ front rest, left.commands = world.commands ++ front ∧
          view.commands = other.commands ++ rest ∧ Plan.DifferByWait path front rest) ∧
    (worded → Text.isWritable (Layout.diskSize specs) = true →
      Plan.fulfils host world.scene ((Plan.untilAttached path specs).map Plan.must) = true →
      Plan.isAwaited host world path specs = false →
        ∃ wrong, scene.reply host Plan.wait = .failed (.misuse wrong) ∧
          ends = .error (Fault.overridden (.ofMisuse wrong)
            ((scene.next host Plan.wait).clearing host path)) ∧
          left.commands = world.commands ++ Plan.untilAttached path specs ++ [Plan.wait]) ∧
    (worded → host.Faithful →
      (∃ disk, ends = .ok disk) ∨
      (∃ message causes, ends = .error ⟨.build (.text message) (.text path), causes⟩) ∨
      (Text.isWritable (Layout.diskSize specs) = false ∧
        ends = .error (.ofMisuse .unwritableInteger)) ∨
      ∃ fault, ends = .error fault ∧ fault.IsOfCall) := by
  refine ⟨fun answered replied => ?_, build_of_unanswered host world path,
    fun worded faithful => ending_build_cases faithful worded path world⟩
  have step := Abreast.build agree path specs like answered replied
  obtain ⟨files, memory⟩ := step.scenes.shown
  exact ⟨step.ends, files, memory, step.commands⟩

end LoopDisk

/-- A host with another tool to wait for device nodes: whether it is found, and how its call
ends. -/
def Host.waiting (host : Host σ) (found : Bool) (answer : Reply) : Host σ :=
  { host with
    hasTool := fun memory tool => if tool = "udevadm" then found else host.hasTool memory tool
    run := fun memory files argv =>
      if argv = Plan.wait then (answer, memory, files) else host.run memory files argv }

theorem Scene.Like.eq {scene other : Scene σ} (like : scene.Like Eq other) : scene = other := by
  obtain ⟨memory, files⟩ := like
  cases scene
  cases other
  rw [Scene.mk.injEq]
  exact ⟨memory, files⟩

/-- Nothing but the waits tells a host with one tool to wait from the same host with another. -/
theorem Host.agree_waiting (host : Host σ) (found other : Bool) (answer reply : Reply) :
    (host.waiting found answer).Agree Eq (host.waiting other reply) := by
  have idle (found : Bool) (answer : Reply) (scene : Scene σ) :
      scene.next (host.waiting found answer) Plan.wait = scene := by
    simp [Scene.next, waiting]
  have elsewhere (found : Bool) (answer : Reply) (scene : Scene σ) {argv : List String}
      (foreign : argv ≠ Plan.wait) :
      scene.reply (host.waiting found answer) argv = scene.reply host argv ∧
        scene.next (host.waiting found answer) argv = scene.next host argv := by
    simp [Scene.reply, Scene.next, waiting, foreign]
  constructor
  · intro scene other argv like foreign
    obtain rfl : scene = other := like.eq
    rw [(elsewhere _ _ _ foreign).1, (elsewhere _ _ _ foreign).1, (elsewhere _ _ _ foreign).2,
      (elsewhere _ _ _ foreign).2]
    exact ⟨rfl, rfl, rfl⟩
  · rintro memory _ operation path rfl
    exact ⟨rfl, rfl⟩
  · intro scene other like
    rw [idle]
    exact like
  · intro scene other like
    rw [idle]
    exact like

theorem Host.Faithful.waiting {host : Host σ} (faithful : host.Faithful) (found : Bool)
    {answer : Reply} (proper : answer.IsAnswer) : (host.waiting found answer).Faithful where
  unpassed memory files argv nameless := by
    have foreign : argv ≠ Plan.wait := by
      rintro rfl
      exact absurd nameless (by decide)
    exact (if_neg foreign).trans (faithful.unpassed memory files argv nameless)
  answers memory files argv nameable := by
    simp only [Host.waiting]
    split
    · exact proper
    · exact faithful.answers memory files argv nameable
  refuse := faithful.refuse

namespace LoopDisk

/-- Where a wait times out and where there is no tool to wait with, the same disk is built. -/
theorem build_settling_obliging :
    let impatient := Host.obliging.waiting true (.exited (.int 1) "timed out")
    let toolless := Host.obliging.waiting false (.exited (.int 0) "")
    impatient.Agree Eq toolless ∧
      World.untouched.scene.Like Eq World.untouched.scene ∧
      (∃ disk, ending (build impatient "disk.img" [.data]) .untouched = .ok disk ∧
        ending (build toolless "disk.img" [.data]) .untouched = .ok disk) ∧
      (after (build impatient "disk.img" [.data]) .untouched).commands.drop 3 =
        [["losetup", "-f", "-P", "disk.img", "--show"],
          ["udevadm", "settle"],
          ["blkid", "/dev/loop0p1"],
          ["mkfs.ext4", "/dev/loop0p1", "-L", "data"]] ∧
      (after (build toolless "disk.img" [.data]) .untouched).commands.drop 3 =
        [["losetup", "-f", "-P", "disk.img", "--show"],
          ["blkid", "/dev/loop0p1"],
          ["mkfs.ext4", "/dev/loop0p1", "-L", "data"]] := by
  intro impatient toolless
  have agree : impatient.Agree Eq toolless := Host.obliging.agree_waiting true false _ _
  have like : World.untouched.scene.Like Eq World.untouched.scene := ⟨rfl, rfl⟩
  have same := ((build_settling agree like "disk.img" [.data]).1 (by decide +kernel)
    (by decide +kernel)).1
  have built : (ending (build impatient "disk.img" [.data]) .untouched).isOk = true := by
    decide +kernel
  obtain ⟨disk, returned⟩ := exists_ok_of_isOk built
  refine ⟨agree, like, ⟨disk, returned, same.symm.trans returned⟩, ?_, ?_⟩
  · decide +kernel
  · decide +kernel

/-- Where a wait prints what is no text, the build fails and leaves the device attached; where there
is no tool to wait with, the disk is built. -/
theorem build_settling_garbled :
    let garbling := Host.obliging.waiting true .garbled
    let toolless := Host.obliging.waiting false .garbled
    garbling.Agree Eq toolless ∧ garbling.Faithful ∧ PartitionSpec.data.IsWorded ∧
      (ending (build toolless "disk.img" [.data]) .untouched).isOk = true ∧
      (match ending (build garbling "disk.img" [.data]) .untouched with
        | .ok _ => ""
        | .error fault => fault.kind) = "UnicodeDecodeError" ∧
      (after (build garbling "disk.img" [.data]) .untouched).commands.drop 3 =
        [["losetup", "-f", "-P", "disk.img", "--show"],
          ["udevadm", "settle"]] := by
  intro garbling toolless
  refine ⟨Host.obliging.agree_waiting true false _ _, Host.faithful_obliging.waiting true
    (.garbled _), PartitionSpec.isWorded_data, ?_⟩
  decide +kernel

end LoopDisk

end DiskFixture
