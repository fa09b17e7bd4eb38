import DiskFixture.Command
import DiskFixture.Value.Integer
import DiskFixture.Value.Json

/-!
Settings. Three layers give a setting its value: what was set since the last load, what the settings
file held at that load, and the defaults. A file that is missing or holds no object adds nothing.
-/

namespace DiskFixture.Settings

def bufferDefault : Nat := 1024 * 1024

def archiveDefault : Value := .ofTexts ["gzip", "-k", "-f"]

def mountPrefixDefault : Value := .text "um_mount"

def defaults : Fields :=
  [("io_buffer_size", .int bufferDefault), ("mount_prefix", mountPrefixDefault),
    ("archive_command", archiveDefault), ("settle_udev", .bool true)]

/-- The value of a setting, or `otherwise`. -/
def lookup (settings : Fields) (key : String) (otherwise : Value) : Value :=
  (settings.get? key).getD otherwise

def isOn (settings : Fields) (key : String) (otherwise : Bool) : Bool :=
  (lookup settings key (.bool otherwise)).isTruthy

/-- The integer that a setting stands for. A setting that stands for none counts as `otherwise`,
whatever that is. -/
def integer (settings : Fields) (key : String) (otherwise : Value) : Except Misuse Value :=
  match (lookup settings key otherwise).toInteger with
  | .integer number => .ok (.int number)
  | .absent => .ok otherwise
  | .infinite => .error .infiniteInteger

/-- The number of bytes that are read at a time. -/
def bufferSize (settings : Fields) : Except Misuse Nat :=
  match integer settings "io_buffer_size" (.int bufferDefault) with
  | .error misuse => .error misuse
  | .ok (.int size) => .ok (if size ≤ 0 then bufferDefault else size.toNat)
  | .ok _ => .ok bufferDefault

/-- The settings after a load from a file with this content. The misuse is a content that cannot be
read at all; the defaults are in force then too. -/
def ofContent (content : ByteArray) : Except Misuse Fields :=
  match Text.Utf8.decode content with
  | .error fault => .error (.undecodable fault)
  | .ok text =>
    match Json.read text with
    | .error (.tooLong digits) => .error (.tooManyDigits digits)
    | .error (.tooDeep inList) => .error (.tooDeep inList)
    | .error .malformed => .ok defaults
    | .ok (.object entries) => .ok (Fields.overlay defaults entries)
    | .ok _ => .ok defaults

/-- The home directory. The superuser's is taken when none is named; a name that starts with a tilde
stands for nobody's. -/
def homeDirectory (home : Option String) : Except Misuse String :=
  match ((home.getD "/root").toList.reverse.dropWhile Path.isSlash).reverse with
  | [] => .ok "/"
  | '~' :: _ => .error .homeless
  | trimmed => .ok (String.ofList trimmed)

/-- Where the settings file is: at `override` if that is given, else below the home directory, which
there must be either way. -/
def location (home override : Option String) : Except Misuse String := do
  unless (home.all FileTree.isNameable) && override.all FileTree.isNameable do throw .nullInPath
  let home ← homeDirectory home
  return Path.normalize (override.getD (Path.join home ".config/loopdisk/settings.json"))

variable {σ : Type}

/-- Loads the settings from the file at `path`, whatever was set before. A file that cannot be read
adds nothing; that its name is too long is a fault. -/
def load (path : String) : Action σ Unit := do
  modify fun world => { world with settings := defaults }
  match (← get).files.read path with
  | .error fault => if fault.isOf .nameTooLong then throw (.ofCall fault)
  | .ok content =>
    let settings ← Action.ofExcept (ofContent content)
    modify fun world => { world with settings }

def set (key : String) (value : Value) : Action σ Unit :=
  modify fun world => { world with settings := world.settings.put key value }

def append (key : String) (item : Value) : Action σ Unit := do
  match lookup (← get).settings key .null with
  | .list items => set key (.list (items ++ [item]))
  | other => Action.reject (.lacks other.kind "append")

end DiskFixture.Settings
