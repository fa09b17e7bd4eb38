import DiskFixture.Command
import DiskFixture.Text.Case
import DiskFixture.Text.Search

/-!
Making filesystems. The tools of the FAT family take the name of a volume behind another flag than
the rest.
-/

namespace DiskFixture.Filesystem

/-- What occurs in the name of every filesystem of the FAT family. -/
def volumeNameMarkers : List String := ["fat", "dos"]

/-- The flag behind which the label of a filesystem is given. -/
def labelFlag (filesystem : String) : String :=
  let name := (Text.lower filesystem).toList
  if volumeNameMarkers.any fun marker => Text.occursIn marker.toList name then "-n" else "-L"

def labelFlagOf : Value → Except Misuse String
  | .text filesystem => .ok (labelFlag filesystem)
  | other => .error (.lacks other.kind "lower")

/-- The words of the command that makes a filesystem on a device or file. A label that is null is
none. -/
def makeWords (target filesystem label : Value) : Except Misuse (List Value) :=
  let tool := [.text ("mkfs." ++ filesystem.shown), target]
  match label with
  | .null => .ok tool
  | label => (labelFlagOf filesystem).map fun flag => tool ++ [.text flag, label]

def makeCommand (target filesystem label : Value) : Except Misuse (List String) :=
  makeWords target filesystem label >>= Command.words

/-- The command for a target, a filesystem and a label that are texts. -/
theorem makeCommand_text (target filesystem label : String) :
    makeCommand (.text target) (.text filesystem) (.text label)
      = .ok ["mkfs." ++ filesystem, target, labelFlag filesystem, label] := rfl

variable {σ : Type}

/-- Makes a filesystem, and returns what the tool printed. -/
def make (host : Host σ) (target filesystem label : Value) : Action σ String := do
  Logger.ownDisk.log .debug ("Formatting " ++ target.shown ++ " as " ++ filesystem.shown
    ++ " (label: " ++ label.shown ++ ")")
  Command.run host (← Action.ofExcept (makeCommand target filesystem label))

end DiskFixture.Filesystem
