import DiskFixture.Command
import DiskFixture.Partition.Identifier

/-!
Looking up the identifier of a partition. The tool prints fields, and the first field that starts
with the tag decides: its value is the identifier or a fault.
-/

namespace DiskFixture.Identifier

def ofOutput (device output : String) : Except Fault Identifier :=
  match find? output with
  | none => .error (.ofProblem (.identityMissing (.text device)))
  | some value =>
    match parse value with
    | .ok identifier => .ok identifier
    | .error misuse =>
      .error (.dueTo (.identityMalformed (.text device) (.text value)) (.ofMisuse misuse))

variable {σ : Type}

def resolve (host : Host σ) (device : String) : Action σ Identifier := do
  let output ← Command.run host ["blkid", device]
  match ofOutput device output with
  | .error fault => throw fault
  | .ok identifier =>
    Logger.ownDisk.log .debug ("PARTUUID for " ++ device ++ ": " ++ identifier.text)
    return identifier

end DiskFixture.Identifier
