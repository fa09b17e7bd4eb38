import DiskFixture.Proofs.Disk.Course

/-!
The plan of a build, and its parts. The commands up to the attachment are known beforehand; those
after it depend on what the attachment printed, and on whether there is a tool to wait with. Main
statement: each part of a build performs its part of the plan.
-/

namespace DiskFixture

variable {σ : Type}

/-- The fields of a specification are texts, except that a label may be absent. -/
def PartitionSpec.IsWorded (spec : PartitionSpec) : Prop :=
  (∃ name, spec.filesystem = .text name) ∧
    (spec.label = .null ∨ ∃ label, spec.label = .text label)

namespace PartitionSpec

def data : PartitionSpec := ⟨.text "ext4", .text "data", 64, by decide, by decide⟩

theorem pow_digitLimit_pos : 0 < Nat.pow 10 Text.digitLimit :=
  Nat.pow_eq ▸ Nat.pow_pos (by decide)

/-- A partition whose size has too many digits. -/
def huge : PartitionSpec :=
  ⟨.text "ext4", .null, Nat.pow 10 Text.digitLimit, by decide, pow_digitLimit_pos⟩

theorem isWorded_data : data.IsWorded := ⟨⟨_, rfl⟩, .inr ⟨_, rfl⟩⟩

theorem isWritable_huge : Text.isWritable (Layout.diskSize [huge]) = false := by
  have size : Layout.diskSize [huge] = 1 + (Nat.pow 10 Text.digitLimit + 0) + 1 := by
    simp only [Layout.diskSize, Layout.totalSize, Layout.headReserved, Layout.tailReserved, huge]
  rw [Text.isWritable, size, Int.natAbs_natCast]
  exact decide_eq_false (by omega)

end PartitionSpec

namespace Plan

def must (argv : List String) : Step := ⟨argv, .success⟩

theorem argv_must (commands : List (List String)) :
    (commands.map must).map (·.argv) = commands := by
  simp [must, Function.comp_def]

/-- The wait for device nodes: it is made if it is wanted and there is a tool for it, and it may
fail as long as it is answered. -/
def settling (host : Host σ) (settings : Fields) (scene : Scene σ) : List Step :=
  if Settings.isOn settings "settle_udev" true && host.hasTool scene.memory "udevadm" then
    [⟨["udevadm", "settle"], .answer⟩]
  else []

def formatting (node : String) (spec : PartitionSpec) : List Step :=
  (Filesystem.makeCommand (.text node) spec.filesystem spec.label).toOption.toList.map must

/-- The commands for the partitions of a device, the first of which has this index. -/
def identifying (device : String) : (first : Nat) → List PartitionSpec → List Step
  | _, [] => []
  | index, spec :: rest =>
    let node := Layout.node device index
    ⟨["blkid", node], .identifier node⟩ :: formatting node spec
      ++ identifying device (index + 1) rest

def attached (host : Host σ) (scene : Scene σ) (path : String) (specs : List PartitionSpec) :
    Scene σ :=
  scene.through host (untilAttached path specs)

def untilPartitioned (path : String) (specs : List PartitionSpec) : List (List String) :=
  allocate path (.int (Layout.diskSize specs)) :: makeTable path
    :: (Layout.extents specs).map (makePartition path)

theorem untilAttached_eq (path : String) (specs : List PartitionSpec) :
    untilAttached path specs = untilPartitioned path specs ++ [attach path] := rfl

def device (host : Host σ) (scene : Scene σ) (path : String) (specs : List PartitionSpec) :
    String :=
  Text.strip ((scene.through host (untilPartitioned path specs)).reply host (attach path)).output

/-- The plan of a build. -/
def ofBuild (host : Host σ) (world : World σ) (path : String) (specs : List PartitionSpec) :
    List Step :=
  (untilAttached path specs).map must
    ++ settling host world.settings (attached host world.scene path specs)
    ++ identifying (device host world.scene path specs) 1 specs

end Plan

namespace Filesystem

theorem exists_makeCommand {spec : PartitionSpec} (worded : spec.IsWorded) (node : String) :
    ∃ argv, makeCommand (.text node) spec.filesystem spec.label = .ok argv := by
  obtain ⟨⟨name, filesystem⟩, label⟩ := worded
  rw [filesystem]
  rcases label with label | ⟨word, label⟩ <;> rw [label]
  · exact ⟨_, rfl⟩
  · exact ⟨_, makeCommand_text node name word⟩

end Filesystem

namespace Performs

variable {host : Host σ} {world : World σ}

theorem settle :
    Performs host world
      (if host.hasTool world.memory "udevadm" then [⟨["udevadm", "settle"], .answer⟩] else [])
      (Command.settle host) := by
  unfold Command.settle
  by_cases found : host.hasTool world.memory "udevadm" = true
  · rw [if_pos found]
    let reply := world.scene.reply host ["udevadm", "settle"]
    cases reads : Command.reading ["udevadm", "settle"] reply with
    | ok output =>
      constructor <;>
        simp [ending_bind, after_bind, found, reply, reads, Plan.verdict, Plan.issued,
          Plan.Step.verdict_answer, Except.map]
    | error fault =>
      cases command : fault.problem.isCommand <;> constructor <;>
        simp [ending_bind, after_bind, found, reply, reads, command, Plan.verdict, Plan.issued,
          Plan.Step.verdict_answer, Except.map]
  · rw [if_neg found]
    constructor <;> simp [ending_bind, after_bind, found, Plan.verdict, Plan.issued, Except.map]

theorem allocate (path : String) (size : Value) :
    Performs host world [Plan.must (Plan.allocate path size)]
      (DiskFixture.allocate host path size) :=
  (run _).bind_pure _

theorem makePartitions (path : String) (extents : List Extent) :
    Performs host world ((extents.map (Plan.makePartition path)).map Plan.must)
      (DiskFixture.makePartitions host path extents) := by
  induction extents generalizing world with
  | nil => exact pure ()
  | cons extent rest ih => exact (run _).bind fun _ _ => ih

theorem resolve (node : String) :
    Performs host world [⟨["blkid", node], .identifier node⟩] (Identifier.resolve host node) := by
  unfold Identifier.resolve
  cases reads : Command.reading ["blkid", node] (world.scene.reply host ["blkid", node]) with
  | error fault =>
    constructor <;>
      simp [ending_bind, after_bind, reads, Plan.verdict, Plan.issued, Plan.Step.verdict,
        Except.map]
  | ok output =>
    cases found : Identifier.ofOutput node output <;> constructor <;>
      simp [ending_bind, after_bind, reads, found, Plan.verdict, Plan.issued, Plan.Step.verdict,
        Except.map]

theorem make_of_command {target filesystem label : Value} {argv : List String}
    (command : Filesystem.makeCommand target filesystem label = .ok argv) :
    Performs host world [Plan.must argv] (Filesystem.make host target filesystem label) := by
  rw [Filesystem.make, command]
  exact (log _ _ _).bind fun _ _ => (pure argv).bind fun _ ends => by
    cases ends
    exact run argv

theorem make (node : String) {spec : PartitionSpec} (worded : spec.IsWorded) :
    Performs host world (Plan.formatting node spec)
      (Filesystem.make host (.text node) spec.filesystem spec.label) := by
  obtain ⟨argv, command⟩ := Filesystem.exists_makeCommand worded node
  have plan : Plan.formatting node spec = [Plan.must argv] := by
    simp [Plan.formatting, command, Except.toOption]
  rw [plan]
  exact make_of_command command

theorem formatPartitions (device : String) (index : Nat) {specs : List PartitionSpec}
    (worded : ∀ spec ∈ specs, spec.IsWorded) :
    Performs host world (Plan.identifying device index specs)
      (DiskFixture.formatPartitions host device index specs) := by
  induction specs generalizing world index with
  | nil => exact pure []
  | cons spec rest ih =>
    have later := fun spec inside => worded spec (List.mem_cons_of_mem _ inside)
    have first := worded spec List.mem_cons_self
    rw [Plan.identifying, ← List.singleton_append, List.append_assoc]
    refine (resolve _).bind fun identifier _ => (make _ first).bind fun _ _ => ?_
    exact (ih (index + 1) later).bind_pure _

theorem attach (path : String) :
    Performs host world
      (Plan.must (Plan.attach path) ::
        Plan.settling host world.settings (world.scene.next host (Plan.attach path)))
      (DiskFixture.attach host path) := by
  rw [← List.singleton_append]
  refine (run _).bind fun output _ => ?_
  rw [← Command.scene_after_run, ← Command.settings_after_run host (Plan.attach path) world]
  generalize after (Command.run host (Plan.attach path)) world = attached
  rw [← List.nil_append (Plan.settling _ _ _)]
  refine (quiet (ending_get attached) rfl rfl rfl).bind fun found ends => ?_
  cases ends
  by_cases wanted : Settings.isOn attached.settings "settle_udev" true = true
  · simpa [Plan.settling, wanted, World.scene] using settle.bind_pure _
  · simpa [Plan.settling, wanted] using pure (Text.strip output)

end Performs

end DiskFixture
