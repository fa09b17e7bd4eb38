import DiskFixture.Proofs.Disk.Partitions
import Mathlib.Data.List.Nodup

/-!
The device nodes of the disks of a session. A disk keeps the nodes that its build gave it, whatever
becomes of its device. Main statement: no two partitions of a disk have the same node, and neither
have two of disks that were attached as different devices.
-/

namespace DiskFixture

variable {σ : Type} {host : Host σ} {device : String} {disk : LoopDisk}

namespace LoopDisk

/-- The names of the device nodes of the partitions. -/
def nodes (disk : LoopDisk) : List Value := disk.partitions.map (·.device)

/-- Whether a disk was attached as a device. Its partitions have the nodes of the device, numbered
from one on, and it has the device itself unless that was detached. -/
structure IsOn (device : String) (disk : LoopDisk) : Prop where
  nodes : disk.nodes = (List.range' 1 disk.partitions.length).map fun index : Nat =>
    .text (Layout.node device index)
  device : disk.device = .text device ∨ disk.device = .null

theorem nodes_of_formats {index : Nat} {scene : Scene σ} {specs : List PartitionSpec}
    {partitions : List Partition} (formats : Formats host device index scene specs partitions) :
    partitions.map (·.device) = (List.range' index partitions.length).map fun index : Nat =>
      .text (Layout.node device index) := by
  induction formats with
  | nil => rfl
  | cons found named command later ih =>
    rw [List.map_cons, ih, List.length_cons, List.range'_succ, List.map_cons]

theorem isOn_of_build {world : World σ} {path : String} {specs : List PartitionSpec}
    (returned : ending (build host path specs) world = .ok disk) : ∃ device, disk.IsOn device := by
  obtain ⟨device, waits, named, -, formats, -⟩ := formats_of_build returned
  exact ⟨device, nodes_of_formats formats, .inl named⟩

namespace IsOn

theorem closing (isOn : disk.IsOn device) (host : Host σ) (world : World σ) :
    (disk.closing host world).1.IsOn device := by
  rcases closing_cases host disk world with same | freed
  · rw [same]
    exact isOn
  · rw [freed]
    exact ⟨isOn.nodes, .inr rfl⟩

theorem exists_of_mem {node : Value} (isOn : disk.IsOn device) (inside : node ∈ disk.nodes) :
    ∃ index : Nat, node = .text (Layout.node device index) := by
  rw [isOn.nodes] at inside
  obtain ⟨index, -, rfl⟩ := List.mem_map.1 inside
  exact ⟨index, rfl⟩

/-- The name of any node of a disk tells the device. -/
theorem eq_of_mem {other : String} {index : Int} (isOn : disk.IsOn device)
    (inside : .text (Layout.node other index) ∈ disk.nodes) : other = device := by
  obtain ⟨number, same⟩ := isOn.exists_of_mem inside
  exact (Layout.node_eq_node_iff.1 (Value.text.inj same)).1

theorem nodup (isOn : disk.IsOn device) : disk.nodes.Nodup := by
  rw [isOn.nodes]
  refine List.Nodup.map (fun index number same => ?_) List.nodup_range'
  exact Layout.node_inj (Value.text.inj same)

/-- Disks of different devices have no node in common. -/
theorem disjoint {other : String} {another : LoopDisk} (first : disk.IsOn device)
    (second : another.IsOn other) (different : device ≠ other) :
    disk.nodes.Disjoint another.nodes := by
  intro node here there
  obtain ⟨index, rfl⟩ := first.exists_of_mem here
  exact different (second.eq_of_mem there)

end IsOn

end LoopDisk

namespace Lifetime

/-- Every disk of a session was attached as some device. -/
def Attached (state : State σ) : Prop := ∀ disk ∈ state.disks, ∃ device, disk.IsOn device

theorem attached_step (host : Host σ) {state : State σ} (attached : Attached state)
    (next : Step σ) : Attached (step host state next) := by
  cases next with
  | build path specs =>
    intro disk inside
    rcases List.mem_append.1 inside with before | built
    · exact attached disk before
    · cases ends : ending (LoopDisk.build host path specs) state.world with
      | error fault => simp [ends, Except.toOption] at built
      | ok returned =>
        obtain rfl : disk = returned := by simpa [ends, Except.toOption] using built
        exact LoopDisk.isOn_of_build ends
  | close number =>
    cases there : state.disks[number]? with
    | none => simpa only [step, there] using attached
    | some closed =>
      intro disk inside
      simp only [step, there] at inside
      rcases List.mem_or_eq_of_mem_set inside with before | rfl
      · exact attached disk before
      · obtain ⟨device, isOn⟩ := attached closed (List.mem_of_getElem? there)
        exact ⟨device, isOn.closing host state.world⟩
  | meanwhile change => exact attached

theorem attached_run (host : Host σ) (session : List (Step σ)) {state : State σ}
    (attached : Attached state) : Attached (run host state session) := by
  induction session generalizing state with
  | nil => exact attached
  | cons next rest ih => exact ih (attached_step host attached next)

/-- The name of a node tells its device and its index, whatever the device is called. So in any
session the partitions of a disk have different nodes, and so have those of disks that were attached
as different devices, be they still attached or not. -/
theorem nodes_of_session (host : Host σ) (world : World σ) (session : List (Step σ)) :
    (∀ (device other : String) (index number : Int),
      Layout.node device index = Layout.node other number ↔ device = other ∧ index = number) ∧
    let disks := (run host ⟨world, []⟩ session).disks
    ∀ disk ∈ disks, (∃ device, disk.IsOn device) ∧ disk.nodes.Nodup ∧
      ∀ another ∈ disks, ∀ device other, disk.IsOn device → another.IsOn other → device ≠ other →
        disk.nodes.Disjoint another.nodes := by
  have attached : Attached (run host ⟨world, []⟩ session) := attached_run host session nofun
  refine ⟨fun device other index number => Layout.node_eq_node_iff, ?_⟩
  intro disks disk inside
  obtain ⟨device, isOn⟩ := attached disk inside
  refine ⟨⟨device, isOn⟩, isOn.nodup, ?_⟩
  intro another there device other first second different
  exact first.disjoint second different

/-- A host that attaches one image as a device with the name of a node of another. -/
def misleading : Host Unit :=
  .fixed
    (fun argv => match argv with
      | ["losetup", "-f", "-P", "a.img", "--show"] => .exited (.int 0) "/dev/loop1\n"
      | "losetup" :: "-f" :: _ => .exited (.int 0) "/dev/loop1p1\n"
      | _ => .usual argv)
    fun _ files => files

theorem nodes_of_session_misleading :
    let disks := (run misleading ⟨.untouched, []⟩
      [.build "a.img" [.boot, .data], .build "b.img" [.data], .close 0]).disks
    ∃ first second, first ∈ disks ∧ second ∈ disks ∧ first.IsOn "/dev/loop1" ∧
      second.IsOn "/dev/loop1p1" ∧ first.nodes.Nodup ∧ first.nodes.Disjoint second.nodes := by
  intro disks
  have shown : (disks.map fun disk => disk.nodes.map Value.shown)
      = [["/dev/loop1p1", "/dev/loop1p2"], ["/dev/loop1p1p1"]] := by
    decide +kernel
  obtain ⟨-, sorted⟩ := nodes_of_session misleading .untouched
    [.build "a.img" [.boot, .data], .build "b.img" [.data], .close 0]
  obtain ⟨first, later, split, one, others⟩ := List.map_eq_cons_iff.1 shown
  obtain ⟨second, _, rfl, two, -⟩ := List.map_eq_cons_iff.1 others
  have inside : first ∈ disks ∧ second ∈ disks := by simp [split]
  have named {disk : LoopDisk} {name : String} {rest : List String} (there : disk ∈ disks)
      (nodes : disk.nodes.map Value.shown = Layout.node name 1 :: rest) : disk.IsOn name := by
    obtain ⟨⟨device, isOn⟩, -⟩ := sorted disk there
    obtain ⟨node, _, whole, same, -⟩ := List.map_eq_cons_iff.1 nodes
    obtain ⟨index, rfl⟩ := isOn.exists_of_mem (whole ▸ List.mem_cons_self)
    exact (Layout.node_eq_node_iff.1 same).1 ▸ isOn
  have isFirst : first.IsOn "/dev/loop1" := named inside.1 one
  have isSecond : second.IsOn "/dev/loop1p1" := named inside.2 two
  obtain ⟨-, distinct, apart⟩ := sorted first inside.1
  exact ⟨first, second, inside.1, inside.2, isFirst, isSecond, distinct,
    apart second inside.2 _ _ isFirst isSecond (by decide)⟩

end Lifetime

end DiskFixture
