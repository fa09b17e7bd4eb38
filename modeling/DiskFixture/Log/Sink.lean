import DiskFixture.Log.Logger
import DiskFixture.Value.Json
import DiskFixture.Value.JsonText
import DiskFixture.Value.Path

/-!
Log sinks: the console, a debug file and a structured file. Only the console leaves raw command
output out. The files exist only if a log directory is given; the structured one holds a JSON object
for each record. Of the logging library it is assumed that a sink gets the records from its level on
that its filter keeps, once each and in order (`Verbosity`), as lines in its format (`Sink`). How it
keeps files is not known here: a keeper opens them, and lines are handed to it.
-/

namespace DiskFixture

structure Verbosity where
  debug : Bool
  trace : Bool
  deriving DecidableEq, Repr

namespace Verbosity

def consoleLevel (verbosity : Verbosity) : Level :=
  if verbosity.trace then .trace else if verbosity.debug then .debug else .info

def debugLevel (verbosity : Verbosity) : Level :=
  if verbosity.trace then .trace else .debug

def fromLevel (level : Level) (records : List Record) : List Record :=
  records.filter fun record => level.number ≤ record.level.number

def console (verbosity : Verbosity) (records : List Record) : List Record :=
  (fromLevel verbosity.consoleLevel records).filter fun record =>
    (isKept record.level.number record.extra).toOption.getD false

def debugFile (verbosity : Verbosity) (records : List Record) : List Record :=
  fromLevel verbosity.debugLevel records

def structuredFile (_ : Verbosity) (records : List Record) : List Record :=
  fromLevel .info records

end Verbosity

namespace Sink

def padded (width : Nat) (text : String) : String :=
  text ++ String.ofList (List.replicate (width - text.length) ' ')

/-- `text` between the terminal's codes for a style and for its end. -/
def styled (codes : List Nat) (text : String) : String :=
  let code (number : Nat) := "\x1b[" ++ toString number ++ "m"
  String.join (codes.map code) ++ text ++ code 0

/-- The codes of a level: its colour, and bold. -/
def levelCodes : Level → List Nat
  | .trace => [36, 1]
  | .debug => [34, 1]
  | .info => [1]
  | .success => [32, 1]
  | .warning => [33, 1]
  | .error => [31, 1]
  | .critical => [41, 1]
  | .numbered _ => []

/-- A column of a line: an extra value of a record filled up to a width. Some values cannot be. -/
def column (width : Nat) (record : Record) (name : String) : Option String :=
  let spec := ' ' :: '<' :: (toString width).toList
  (((record.extra.get? name).getD .null).format spec).toOption.map String.ofList

/-- A record on the console, logged at `time`. -/
def consoleLine (time : String) (record : Record) : Option String := do
  let source ← column 12 record "source"
  let job ← column 15 record "job_id"
  return " | ".intercalate [styled [32] time,
    styled (levelCodes record.level) (padded 8 record.level.name), styled [36] source,
    styled [34] job, record.message] ++ "\n"

/-- A record in the debug file, logged at `time`. -/
def debugLine (time : String) (record : Record) : Option String := do
  let source ← column 12 record "source"
  let job ← column 15 record "job_id"
  let tags := ((record.extra.get? "tags").getD .null).shown
  return " | ".intercalate [time, padded 8 record.level.name, source, job, tags, record.message]
    ++ "\n"

def structuredEntry (record : Record) : Value :=
  .object [("text", .text (record.message ++ "\n")),
    ("record", .object [("level", .object [("name", .text record.level.name)]),
      ("message", .text record.message), ("extra", .object record.extra)])]

def structuredLine (record : Record) : String := (structuredEntry record).json ++ "\n"

/-- A part of an object that lies behind these keys. -/
def within : List String → Value → Option Value
  | [], value => some value
  | key :: rest, .object fields => (Fields.get? fields key).bind (within rest)
  | _ :: _, _ => none

/-- What a line of a structured file tells, if it is one. -/
def readLine (line : List Char) : Option Fields := do
  let entry ← (Json.read (String.ofList line)).toOption
  return [("text", ← within ["text"] entry), ("level", ← within ["record", "level", "name"] entry),
    ("message", ← within ["record", "message"] entry),
    ("extra", ← within ["record", "extra"] entry)]

/-- What the lines of a structured file tell, if it is one. -/
def readStructured (content : String) : Option (List Fields) :=
  ((Text.pieces (· == '\n') content.toList).filter (!·.isEmpty)).mapM readLine

end Sink

/-- How the file of a sink is kept: when another one takes its place, and how long it stays then. -/
structure Keeping where
  rotation : String
  retention : String

def Keeping.debug : Keeping := ⟨"10 MB", "3 days"⟩

def Keeping.structured : Keeping := ⟨"10 MB", "7 days"⟩

/-- What keeps log files. -/
structure Keeper where
  /-- Opens the log file at a path and returns its location. -/
  opens : Keeping → String → Filing Location
  /-- The files once a line is handed in for the log file at a location. -/
  takes : Keeping → Location → String → FileTree → FileTree

/-- The sinks that are installed; the files are known by their locations. -/
structure Sinks where
  verbosity : Verbosity
  debugFile : Option Location
  structuredFile : Option Location

namespace Sinks

variable {σ : Type}

def consoleOnly (verbosity : Verbosity) : Sinks := ⟨verbosity, none, none⟩

/-- The values that every record has once sinks are installed. -/
def standing : Fields :=
  [("job_id", .text "-"), ("tags", .list []), ("source", .text "loopdisk")]

/-- The directory of the log files: the one given, unless it is empty, or else the default one. -/
def directory (given default : Value) : Except Misuse (Option String) :=
  match if given.isTruthy then given else default with
  | .null => .ok none
  | chosen => chosen.asPath.map some

/-- A step on the files, in which an error of the operating system is a result. -/
def attemptFiling {α : Type} (step : Filing α) : Action σ (Except Fault α) := do
  match ← Action.attempt (Action.filing step) with
  | .ok result => return .ok result
  | .error fault => if fault.problem.isSystem then return .error fault else throw fault

/-- Installs the log files in a directory. An error of the operating system leaves the files
installed so far. -/
def openFiles (keeper : Keeper) (sinks : Sinks) (directory : String) :
    Action σ (Sinks × Except Fault Unit) := do
  let directory := Path.normalize directory
  match ← attemptFiling (Filing.ensureDirectory directory.length directory) with
  | .error fault => return (sinks, .error fault)
  | .ok _ =>
    match ← attemptFiling (keeper.opens .debug (Path.join directory "debug.log")) with
    | .error fault => return (sinks, .error fault)
    | .ok place =>
      let sinks := { sinks with debugFile := some place }
      let path := Path.join directory "structured.jsonl"
      match ← attemptFiling (keeper.opens .structured path) with
      | .error fault => return (sinks, .error fault)
      | .ok place => return ({ sinks with structuredFile := some place }, .ok ())

/-- Installs the console and, if there is a log directory, the log files. -/
def install (keeper : Keeper) (verbosity : Verbosity) (given default : Value) :
    Action σ (Sinks × Except Fault Unit) := do
  modify fun world => { world with standing := Sinks.standing }
  let sinks := consoleOnly verbosity
  match ← Action.ofExcept (directory given default) with
  | none => return (sinks, .ok ())
  | some directory => openFiles keeper sinks directory

def signature : Signature :=
  ⟨"setup_logging", 0,
    [⟨"debug", some (.bool false)⟩, ⟨"trace", some (.bool false)⟩, ⟨"log_dir", some .null⟩]⟩

def installNamed (keeper : Keeper) (arguments : Fields) (default : Value) :
    Action σ (Sinks × Except Fault Unit) := do
  let bound ← Action.ofExcept ((signature.bind [] arguments).mapError .arguments)
  let given (name : String) : Value := (bound.get? name).getD .null
  install keeper ⟨(given "debug").isTruthy, (given "trace").isTruthy⟩ (given "log_dir") default

def consoleText (sinks : Sinks) (time : String) (records : List Record) : String :=
  String.join ((sinks.verbosity.console records).filterMap (Sink.consoleLine time))

def debugLines (sinks : Sinks) (time : String) (records : List Record) : List String :=
  (sinks.verbosity.debugFile records).filterMap (Sink.debugLine time)

def structuredLines (sinks : Sinks) (records : List Record) : List String :=
  (sinks.verbosity.structuredFile records).map Sink.structuredLine

/-- The files once lines are handed in for a log file, if there is one. -/
def handed (keeper : Keeper) (keeping : Keeping) (place : Option Location) (lines : List String)
    (files : FileTree) : FileTree :=
  match place with
  | none => files
  | some place => lines.foldl (fun files line => keeper.takes keeping place line files) files

/-- The files with what records add to them, record by record. -/
def written (keeper : Keeper) (sinks : Sinks) (time : String) (records : List Record)
    (files : FileTree) : FileTree :=
  records.foldl
    (fun files record =>
      handed keeper .structured sinks.structuredFile (sinks.structuredLines [record])
        (handed keeper .debug sinks.debugFile (sinks.debugLines time [record]) files))
    files

end Sinks

end DiskFixture
