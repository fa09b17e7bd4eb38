import DiskFixture.Misuse
import DiskFixture.Value.Same
import DiskFixture.Text.Search

/-!
Log records. A record has a level, a message and extra values. Raw command output is kept only at
the lowest level and from warnings on, so that it neither floods the console nor hides a failure.
-/

namespace DiskFixture

inductive Level where
  | trace
  | debug
  | info
  | success
  | warning
  | error
  | critical
  /-- A level without a name of its own. -/
  | numbered (number : Nat)
  deriving DecidableEq, Repr

namespace Level

def number : Level → Int
  | .trace => 5
  | .debug => 10
  | .info => 20
  | .success => 25
  | .warning => 30
  | .error => 40
  | .critical => 50
  | .numbered number => number

def name : Level → String
  | .trace => "TRACE"
  | .debug => "DEBUG"
  | .info => "INFO"
  | .success => "SUCCESS"
  | .warning => "WARNING"
  | .error => "ERROR"
  | .critical => "CRITICAL"
  | .numbered number => "Level " ++ toString number

/-- The levels with names, the lowest first. -/
def all : List Level := [.trace, .debug, .info, .success, .warning, .error, .critical]

def ofName? (name : String) : Option Level :=
  all.find? (·.name == name)

/-- The level with a name, which there must be. -/
def named (name : String) : Except Misuse Level :=
  match ofName? name with
  | some level => .ok level
  | none => .error (.unknownLevel name)

/-- The level that a value asks for, by its name or by its weight. -/
def ofValue : Value → Except Misuse Level
  | .text name => named name
  | other =>
    match other.asInteger? with
    | none => .error (.notLevel other.kind)
    | some number =>
      if number < 0 then .error (.negativeLevel number) else .ok (.numbered number.toNat)

end Level

structure Record where
  level : Level
  message : String
  extra : Fields

/-- Whether a value holds `word`: as an item, as a key, or within its text. -/
def Value.mentions (word : String) : Value → Except Misuse Bool
  | .text content => .ok (Text.occursIn word.toList content.toList)
  | .list items => .ok <| items.any fun item =>
    match item with
    | .text content => content == word
    | _ => false
  | .object entries => .ok (entries.any (·.1 == word))
  | other => .error (.notSearchable other.kind)

/-- Whether extra values mark a record as raw command output. -/
def isCommandOutput (extra : Fields) : Except Misuse Bool :=
  (((extra.get? "tags").getD (.list [])).mentions "command").map fun isCommand =>
    isCommand && (match extra.get? "stream" with
      | some (.text stream) => stream == "output"
      | _ => false)

/-- Whether a record of this weight and with these values is kept. -/
def isKept (weight : Int) (extra : Fields) : Except Misuse Bool :=
  (isCommandOutput extra).map fun isRaw =>
    !isRaw || weight ≤ Level.trace.number || Level.warning.number ≤ weight

end DiskFixture
