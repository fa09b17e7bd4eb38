import DiskFixture.Partition.Identifier
import DiskFixture.Value.Same

/-!
Descriptions of partitions. A draft holds whatever was given; a specification is a draft that was
checked: it has a filesystem and a positive size. A partition is a specification together with the
device node and the identifier that it got.
-/

namespace DiskFixture

/-- A partition to create, its size in MiB. Its filesystem and its label are texts, unless they were
given as something else, which nobody notices before they are used. -/
structure PartitionSpec where
  filesystem : Value
  label : Value
  size : Nat
  filesystem_isTruthy : filesystem.isTruthy = true
  size_pos : 0 < size

structure Partition where
  spec : PartitionSpec
  device : Value
  identifier : Identifier

/-- A description that nobody has checked, with the device and the identifier if it claims to be of
a created partition. -/
structure PartitionDraft where
  filesystem : Value
  label : Value
  size : Value
  placement : Option (Value × Identifier)

namespace PartitionDraft

/-- The size of a draft, if it is one. -/
def checkSize : Value → Except Misuse Nat
  | .int size => if size ≤ 0 then .error (.sizeNotPositive size) else .ok size.toNat
  | other => .error (.sizeNotInteger other)

def check (draft : PartitionDraft) : Except Misuse Nat :=
  if draft.filesystem.isTruthy then checkSize draft.size else .error .filesystemAbsent

def fields (draft : PartitionDraft) : List (String × Value) :=
  [("fs_type", draft.filesystem), ("label", draft.label), ("size", draft.size)]
    ++ match draft.placement with
      | none => []
      | some (device, identifier) => [("device", device), ("part_uuid", .text identifier.text)]

def written (draft : PartitionDraft) : String :=
  let common := "fs_type=" ++ draft.filesystem.written ++ ", label=" ++ draft.label.written
    ++ ", size=" ++ draft.size.written
  match draft.placement with
  | none => "PartitionSpec(" ++ common ++ ")"
  | some (device, identifier) =>
    "PartitionInfo(" ++ common ++ ", device=" ++ device.written ++ ", part_uuid=UUID("
      ++ Text.quoted identifier.text ++ "))"

/-- Whether two drafts describe the same. A created partition is never the same as one to create. -/
def same (a b : PartitionDraft) : Bool :=
  a.filesystem.same b.filesystem && a.label.same b.label && a.size.same b.size
    && match a.placement, b.placement with
      | none, none => true
      | some (device, identifier), some (other, another) =>
        device.same other && identifier == another
      | _, _ => false

end PartitionDraft

namespace PartitionSpec

/-- The specification with these fields, if they are usable. -/
def make (filesystem label size : Value) : Except Misuse PartitionSpec :=
  if filled : filesystem.isTruthy = true then
    match size with
    | .int number =>
      if positive : 0 < number then
        .ok ⟨filesystem, label, number.toNat, filled, by omega⟩
      else .error (.sizeNotPositive number)
    | other => .error (.sizeNotInteger other)
  else .error .filesystemAbsent

end PartitionSpec

end DiskFixture
