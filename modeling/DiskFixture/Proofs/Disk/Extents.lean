import DiskFixture.Proofs.Disk.Partitions
import DiskFixture.Proofs.Partition.Layout

/-!
The commands of a build that allocate the image and write its partition table. Nothing behind the
last of them is one again, neither the other steps of a build nor what takes it back. Main
statement: every build issues those that the layout gives, in this order, as far as it gets.
-/

namespace DiskFixture

variable {σ : Type} {α β : Type} {host : Host σ} {world : World σ}

namespace Plan

/-- Whether a command allocates an image or writes its partition table. -/
def shapes (argv : List String) : Bool := argv.head? == some "dd" || argv.head? == some "parted"

/-- Commands of which those that shape an image are the first of a plan, and all of them if there is
any other. -/
structure Follows (plan issued : List (List String)) : Prop where
  begins : issued.filter shapes <+: plan
  whole : (∃ argv ∈ issued, shapes argv = false) → issued.filter shapes = plan

theorem shapes_of_mem_untilPartitioned {path : String} {specs : List PartitionSpec} :
    ∀ argv ∈ untilPartitioned path specs, shapes argv = true := by
  intro argv inside
  simp only [untilPartitioned, List.mem_cons, List.mem_map] at inside
  rcases inside with rfl | rfl | ⟨extent, -, rfl⟩ <;> rfl

theorem shapes_makeCommand {node : String} {filesystem label : Value} {argv : List String}
    (command : Filesystem.makeCommand (.text node) filesystem label = .ok argv) :
    shapes argv = false := by
  have image : argv.head? ≠ some "dd" := Filesystem.head_ne_of_makeCommand command (by decide)
  have table : argv.head? ≠ some "parted" :=
    Filesystem.head_ne_of_makeCommand command (by decide)
  simp [shapes, image, table]

theorem issued_isPrefix (host : Host σ) (scene : Scene σ) (plan : List Step) :
    issued host scene plan <+: plan.map (·.argv) := by
  cases judged : verdict host scene plan with
  | ok done => simp [issued_of_ok judged]
  | error fault =>
    obtain ⟨done, failed, later, rfl, -, -, issued⟩ := exists_of_error judged
    rw [issued]
    exact ⟨later.map (·.argv), by simp⟩

theorem Follows.of_parts {plan front rest : List (List String)} (begins : front <+: plan)
    (shaping : ∀ argv ∈ plan, shapes argv = true) (others : ∀ argv ∈ rest, shapes argv = false)
    (whole : rest ≠ [] → front = plan) : Follows plan (front ++ rest) := by
  have kept : (front ++ rest).filter shapes = front := by
    have first : front.filter shapes = front :=
      List.filter_eq_self.2 fun argv inside => shaping argv (begins.subset inside)
    have none : rest.filter shapes = [] :=
      List.filter_eq_nil_iff.2 fun argv inside => by simp [others argv inside]
    rw [List.filter_append, first, none, List.append_nil]
  constructor
  · rw [kept]
    exact begins
  · rintro ⟨argv, inside, other⟩
    rw [kept]
    apply whole
    rintro rfl
    rw [List.append_nil] at inside
    rw [shaping argv (begins.subset inside)] at other
    cases other

end Plan

/-- An action none of whose commands shapes an image. -/
def SparesShape (action : Action σ α) : Prop :=
  Leads (fun world left : World σ => ∃ issued, left.commands = world.commands ++ issued ∧
    ∀ argv ∈ issued, Plan.shapes argv = false) action

namespace SparesShape

variable {action : Action σ α} {next : α → Action σ β} {plan : List Plan.Step}

theorem of_commands (same : ∀ world, (after action world).commands = world.commands) :
    SparesShape action :=
  fun world => ⟨[], by simp [same], nofun⟩

theorem of_performs (performs : ∀ world, Performs host world plan action)
    (others : ∀ step ∈ plan, Plan.shapes step.argv = false) : SparesShape action := by
  intro world
  refine ⟨_, (performs world).commands, fun argv inside => ?_⟩
  have planned := (Plan.issued_isPrefix host world.scene plan).subset inside
  obtain ⟨step, there, rfl⟩ := List.mem_map.1 planned
  exact others step there

theorem bind (first : SparesShape action) (second : ∀ result, SparesShape (next result)) :
    SparesShape (action >>= next) := by
  refine Leads.bind ?_ first second
  rintro world middle left ⟨front, issued, others⟩ ⟨rest, later, beyond⟩
  refine ⟨front ++ rest, by rw [later, issued, List.append_assoc], fun argv inside => ?_⟩
  exact (List.mem_append.1 inside).elim (others argv) (beyond argv)

theorem pure (result : α) : SparesShape (pure result : Action σ α) := of_commands fun _ => rfl

theorem log (logger : Logger) (level : Level) (message : String) :
    SparesShape (logger.log (σ := σ) level message) :=
  of_commands fun _ => rfl

theorem run {argv : List String} (other : Plan.shapes argv = false) :
    SparesShape (Command.run host argv) :=
  of_performs (fun _ => Performs.run argv) (by simpa using other)

theorem withRollback {step : Action σ Unit} (undoes : SparesShape step)
    (does : SparesShape action) (description : String) :
    SparesShape (withRollback description step action) := by
  intro world
  rw [after_withRollback]
  cases ending action world with
  | ok result => exact does world
  | error fault =>
    have both : SparesShape (action.attempt >>= fun _ => step) :=
      bind (fun world => by simpa using does world) fun _ => undoes
    obtain ⟨issued, commands, others⟩ := both world
    refine ⟨issued, ?_, others⟩
    rw [after_bind_of_ok (Action.ending_attempt world action), Action.after_attempt] at commands
    rw [(after_rollback _ _ _).2.1, commands]

theorem attach (path : String) : SparesShape (attach host path) := by
  have awaits : SparesShape (LoopDisk.await host) := by
    intro world
    obtain ⟨waits, settles, issues⟩ := LoopDisk.issues_await host world
    exact ⟨waits, issues.commands, fun argv inside => settles argv inside ▸ rfl⟩
  rw [LoopDisk.attach_eq]
  exact (run rfl).bind fun _ => awaits.bind fun _ => pure _

theorem detach (device : String) : SparesShape (detach host (.text device)) :=
  of_performs (fun _ => Performs.detach device) (by simp [Plan.must, Plan.release, Plan.shapes])

theorem make (node : String) (filesystem label : Value) :
    SparesShape (Filesystem.make host (.text node) filesystem label) := by
  cases command : Filesystem.makeCommand (.text node) filesystem label with
  | ok argv =>
    have other := Plan.shapes_makeCommand command
    exact of_performs (fun _ => Performs.make_of_command command) (by simpa [Plan.must] using other)
  | error misuse =>
    rw [Filesystem.make, command]
    exact (log _ _ _).bind fun _ => of_commands fun _ => rfl

theorem formatPartitions (device : String) (index : Nat) (specs : List PartitionSpec) :
    SparesShape (formatPartitions host device index specs) := by
  induction specs generalizing index with
  | nil => exact pure []
  | cons spec rest ih =>
    have resolves (node : String) : SparesShape (Identifier.resolve host node) :=
      of_performs (fun _ => Performs.resolve node) (by simp [Plan.shapes])
    refine (resolves _).bind fun identifier => (make _ _ _).bind fun _ => ?_
    exact (ih (index + 1)).bind fun _ => pure _

theorem securely (path : String) (specs : List PartitionSpec) (device : String) :
    SparesShape (LoopDisk.securely host path specs device) := by
  refine (detach device).withRollback ?_ _
  exact (log _ _ _).bind fun _ => (formatPartitions device 1 specs).bind fun _ => pure _

end SparesShape

/-- An action that shapes an image, and then one that does not. -/
theorem Performs.follows {action : Action σ α} {next : α → Action σ β} {plan : List (List String)}
    (performs : Performs host world (plan.map Plan.must) action)
    (shaping : ∀ argv ∈ plan, Plan.shapes argv = true)
    (spares : ∀ result, SparesShape (next result)) :
    ∃ issued, (after (action >>= next) world).commands = world.commands ++ issued ∧
      Plan.Follows plan issued := by
  have begins := Plan.issued_isPrefix host world.scene (plan.map Plan.must)
  rw [Plan.argv_must] at begins
  cases ends : ending action world with
  | error fault =>
    refine ⟨Plan.issued host world.scene (plan.map Plan.must) ++ [], ?_,
      .of_parts begins shaping nofun nofun⟩
    rw [after_bind, ends, performs.commands, List.append_nil]
  | ok result =>
    have good := Plan.issued_of_ok (performs.verdict_of_ok ends)
    rw [Plan.argv_must] at good
    obtain ⟨rest, later, others⟩ := spares result (after action world)
    refine ⟨plan ++ rest, ?_, .of_parts (List.prefix_refl plan) shaping others fun _ => rfl⟩
    rw [after_bind_of_ok ends, later, performs.commands, good, List.append_assoc]

namespace LoopDisk

variable (host world) (path : String) (specs : List PartitionSpec)

theorem follows_assemble :
    ∃ issued, (after (assemble host path specs) world).commands = world.commands ++ issued ∧
      Plan.Follows (Plan.untilPartitioned path specs) issued := by
  have removed (action : Action σ LoopDisk) : (after (withRollback ("remove " ++ path)
      (removePath host path) action) world).commands = (after action world).commands := by
    rw [after_withRollback]
    cases ending action world with
    | ok disk => rfl
    | error fault => exact (after_rollback _ _ _).2.1.trans (removePath_spec host path _).2.2.1
  cases writable : Text.isWritable (Layout.diskSize specs) with
  | false =>
    refine ⟨[], ?_, List.nil_prefix, nofun⟩
    rw [assemble_of_unwritable host path writable, removed, Action.after_reject, List.append_nil]
  | true =>
    rw [assemble_eq host path writable, removed, untilAttached, bind_assoc]
    refine (Performs.untilPartitioned host world path specs).follows
      Plan.shapes_of_mem_untilPartitioned fun _ => ?_
    exact (SparesShape.attach path).bind fun device => .securely path specs device

theorem follows_build :
    ∃ issued, (after (build host path specs) world).commands = world.commands ++ issued ∧
      Plan.Follows (Plan.untilPartitioned path specs) issued := by
  obtain ⟨-, alike⟩ := build_spec host path specs world
  rw [alike.commands, ← commands_started host path specs world]
  exact follows_assemble host (started host path specs world) path specs

/-- The extents of a layout fill the disk between its first MiB and its last, one behind the other,
and those of further specifications come behind them. Whatever comes of a build, the commands that
shape its image have the size and the bounds of this layout, in its order, and all of them are
issued before any other, so by every build that returns. -/
theorem layout_of_build (more : List PartitionSpec) :
    let extents := Layout.extents specs
    let size := Layout.diskSize specs
    let shaping :=
      ["dd", "if=/dev/zero", "of=" ++ path, "bs=1M", "count=" ++ toString size]
        :: ["parted", "-s", path, "mktable", "gpt"]
        :: extents.map fun extent => ["parted", "-s", path, "mkpart", "primary",
          toString extent.start ++ "MiB", toString extent.stop ++ "MiB"]
    Layout.Tiles 1 (size - 1) specs extents ∧ (specs = [] → size = 2) ∧
    Layout.extents (specs ++ more)
      = extents ++ (Layout.extents more).map (Extent.shift (specs.map (·.size)).sum) ∧
    ∃ issued, (after (build host path specs) world).commands = world.commands ++ issued ∧
      Plan.Follows shaping issued ∧
      ((ending (build host path specs) world).isOk = true →
        issued.filter Plan.shapes = shaping) := by
  intro extents size shaping
  obtain ⟨issued, commands, follows⟩ := follows_build host world path specs
  refine ⟨Layout.tiles_extents specs, fun empty => ?_, Layout.extents_append specs more, issued,
    commands, follows, fun good => follows.whole ⟨Plan.attach path, ?_, rfl⟩⟩
  · subst empty
    exact Layout.diskSize_nil
  · obtain ⟨disk, returned⟩ := exists_ok_of_isOk good
    obtain ⟨device, waits, -, -, -, whole⟩ := formats_of_build returned
    rw [commands, List.append_assoc, List.append_cancel_left_eq] at whole
    rw [whole, Plan.untilAttached_eq]
    simp

theorem layout_of_build_obliging :
    (ending (build .obliging "disk.img" [.boot, .data]) .untouched).isOk = true ∧
      (after (build .obliging "disk.img" [.boot, .data]) .untouched).commands.filter Plan.shapes =
        [["dd", "if=/dev/zero", "of=disk.img", "bs=1M", "count=74"],
          ["parted", "-s", "disk.img", "mktable", "gpt"],
          ["parted", "-s", "disk.img", "mkpart", "primary", "1MiB", "9MiB"],
          ["parted", "-s", "disk.img", "mkpart", "primary", "9MiB", "73MiB"]] ∧
      Layout.diskSize [] = 2 := by
  have worded : ∀ spec ∈ [PartitionSpec.boot, PartitionSpec.data], spec.IsWorded := by
    simp [PartitionSpec.isWorded_data, PartitionSpec.isWorded_boot]
  obtain ⟨⟨disk, returned⟩, -⟩ := build_of_fulfils .obliging .untouched "disk.img" [.boot, .data]
    worded (by decide +kernel) (by decide +kernel)
  have good : (ending (build .obliging "disk.img" [.boot, .data]) .untouched).isOk = true := by
    rw [returned]
    rfl
  obtain ⟨-, -, -, issued, commands, -, whole⟩ :=
    layout_of_build .obliging .untouched "disk.img" [.boot, .data] []
  have none := (layout_of_build .obliging .untouched "disk.img" [] []).2.1 rfl
  refine ⟨good, ?_, none⟩
  rw [commands, World.untouched, List.nil_append, whole good]
  decide +kernel

end LoopDisk

end DiskFixture
