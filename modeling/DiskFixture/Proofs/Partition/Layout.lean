import DiskFixture.Partition.Layout
import Mathlib.Algebra.GroupWithZero.Nat
import Mathlib.Data.List.Chain
import Mathlib.Data.List.Forall2

/-!
The layout of a disk and its size, which are found separately. Main statements: the extents follow
one another without gaps from the MiB in front to the one at the end, and those of further
specifications are their own layout, shifted by what lies in front.
-/

namespace DiskFixture

def Extent.shift (distance : Nat) (extent : Extent) : Extent :=
  ⟨extent.start + distance, extent.stop + distance⟩

namespace Layout

/-- Extents without gaps from one place to another, one for each specification and of its size. -/
structure Tiles (first stop : Nat) (specs : List PartitionSpec) (extents : List Extent) :
    Prop where
  sizes : List.Forall₂
    (fun spec extent => 1 ≤ spec.size ∧ extent.stop = extent.start + spec.size) specs extents
  starts : ∀ extent ∈ extents.head?, extent.start = first
  onward : extents.IsChain fun extent next => next.start = extent.stop
  stops : ∀ extent ∈ extents.getLast?, extent.stop = stop
  apart : extents.Pairwise fun earlier later =>
    earlier.start < later.start ∧ earlier.stop ≤ later.start
  within : ∀ extent ∈ extents, first ≤ extent.start ∧ extent.stop ≤ stop
  empty : specs = [] → stop = first

namespace Tiles

variable {first stop : Nat} {specs : List PartitionSpec} {extents : List Extent}

theorem nil (first : Nat) : Tiles first first [] [] where
  sizes := .nil
  starts := nofun
  onward := .nil
  stops := nofun
  apart := .nil
  within := nofun
  empty _ := rfl

theorem le (tiles : Tiles first stop specs extents) : first ≤ stop := by
  cases tiles.sizes with
  | nil => exact Nat.le_of_eq (tiles.empty rfl).symm
  | @cons spec extent specs extents size rest =>
    have inside := tiles.within extent List.mem_cons_self
    omega

theorem cons (spec : PartitionSpec) (tiles : Tiles (first + spec.size) stop specs extents) :
    Tiles first stop (spec :: specs) (⟨first, first + spec.size⟩ :: extents) where
  sizes := .cons ⟨spec.size_pos, rfl⟩ tiles.sizes
  starts := by simp
  onward := List.isChain_cons.2 ⟨tiles.starts, tiles.onward⟩
  stops := by
    cases tiles.sizes with
    | nil => simp [tiles.empty rfl]
    | @cons other extent specs extents size rest =>
      rw [List.getLast?_cons_cons]
      exact tiles.stops
  apart := by
    refine List.pairwise_cons.2 ⟨fun extent inside => ?_, tiles.apart⟩
    have behind := (tiles.within extent inside).1
    have positive := spec.size_pos
    dsimp only
    omega
  within := by
    have size := spec.size_pos
    have room := tiles.le
    refine List.forall_mem_cons.2 ⟨⟨Nat.le_refl first, room⟩, fun extent inside => ?_⟩
    have later := tiles.within extent inside
    omega
  empty := nofun

end Tiles

theorem tiles_extentsFrom (offset : Nat) (specs : List PartitionSpec) :
    Tiles offset (offset + totalSize specs) specs (extentsFrom offset specs) := by
  induction specs generalizing offset with
  | nil => exact .nil offset
  | cons spec specs ih =>
    rw [totalSize, ← Nat.add_assoc]
    exact .cons spec (ih (offset + spec.size))

/-- The partitions of a disk lie between the MiB in front and the one at the end. -/
theorem tiles_extents (specs : List PartitionSpec) :
    Tiles 1 (diskSize specs - 1) specs (extents specs) :=
  tiles_extentsFrom headReserved specs

theorem diskSize_nil : diskSize [] = 2 := rfl

section Append

variable (offset distance : Nat) (specs more : List PartitionSpec)

theorem totalSize_eq_sum : totalSize specs = (specs.map (·.size)).sum := by
  induction specs with
  | nil => rfl
  | cons spec specs ih => rw [totalSize, ih, List.map_cons, List.sum_cons]

theorem extentsFrom_append : extentsFrom offset (specs ++ more)
    = extentsFrom offset specs ++ extentsFrom (offset + totalSize specs) more := by
  induction specs generalizing offset with
  | nil => rfl
  | cons spec specs ih =>
    rw [List.cons_append, extentsFrom, ih, Nat.add_assoc, totalSize, extentsFrom, List.cons_append]

theorem extentsFrom_add : extentsFrom (offset + distance) specs
    = (extentsFrom offset specs).map (Extent.shift distance) := by
  induction specs generalizing offset with
  | nil => rfl
  | cons spec specs ih =>
    have onward : offset + distance + spec.size = offset + spec.size + distance :=
      Nat.add_right_comm _ _ _
    rw [extentsFrom, onward, ih]
    rfl

/-- What comes behind other specifications is laid out as by itself, shifted by their sizes. -/
theorem extents_append : extents (specs ++ more)
    = extents specs ++ (extents more).map (Extent.shift (specs.map (·.size)).sum) := by
  rw [extents, extentsFrom_append, extentsFrom_add, totalSize_eq_sum]
  rfl

end Append

end Layout

end DiskFixture
