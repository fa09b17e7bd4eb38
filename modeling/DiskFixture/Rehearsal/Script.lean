import DiskFixture.Rehearsal.LogFile

/-!
Scripts. A script is a host without devices: it answers commands by rules, refuses the file
operations that it is told to refuse, and knows its tools by name. The first rule that fits a
command applies; a rule may change files, fail to start, and be used up. Log files that a command
takes away receive nothing more.
-/

namespace DiskFixture.Rehearsal

inductive FileAction where
  | write (path : String) (content : ByteArray)
  | makeDirectory (path : String)
  | link (path target : String)
  | delete (path : String)

namespace FileAction

def perform : FileAction → Filing Unit
  | .write path content => Filing.write path content
  | .makeDirectory path => Filing.makeDirectories false path.length path
  | .link path target => Filing.link path target
  | .delete path => Filing.delete path

def below (directory : String) : FileAction → FileAction
  | .write path content => .write (directory ++ "/" ++ path) content
  | .makeDirectory path => .makeDirectory (directory ++ "/" ++ path)
  | .link path target => .link (directory ++ "/" ++ path) target
  | .delete path => .delete (directory ++ "/" ++ path)

end FileAction

/-- How the commands that start with `words` end. A rule without `times` is never used up. -/
structure Rule where
  words : List String
  status : Value
  output : String
  fault : Option CallFault
  effects : List FileAction
  times : Option Nat

namespace Rule

def fits (rule : Rule) (argv : List String) : Bool :=
  rule.words.isPrefixOf argv && rule.times != some 0

def used (rule : Rule) : Rule :=
  { rule with times := rule.times.map (· - 1) }

/-- The rule for commands that no other rule fits. -/
def otherwise : Rule := ⟨[], .int 0, "", none, [], none⟩

end Rule

structure Script where
  rules : List Rule
  tools : List String
  refusals : List (Guarded × CallFault)
  /-- The sinks that are installed in the rehearsal. -/
  sinks : Sinks

namespace Script

/-- A script in which every command succeeds. -/
def silent : Script := ⟨[], [], [], .consoleOnly ⟨false, false⟩⟩

/-- The rule for a command, and the rules afterwards. -/
def choose (argv : List String) : List Rule → Rule × List Rule
  | [] => (.otherwise, [])
  | rule :: rest =>
    if rule.fits argv then (rule, rule.used :: rest)
    else
      let (chosen, rest) := choose argv rest
      (chosen, rule :: rest)

/-- The file that a copying command writes, if it names one. -/
def target? (argv : List String) : Option String :=
  if argv.head? = some "dd" then
    argv.findSome? fun word =>
      if "of=".toList.isPrefixOf word.toList then some (String.ofList (word.toList.drop 3))
      else none
  else none

/-- The content of a file that a copying command writes. -/
def block : ByteArray := ⟨Array.replicate 512 0⟩

/-- Writes the file of a copying command, if its path is relative, its directory exists and it is no
directory itself. -/
def copy (argv : List String) : Filing Unit := do
  match target? argv with
  | none => return
  | some target =>
    let path := Path.normalize target
    unless Path.isAbsolute path do
      if ← Filing.hasDirectory (Path.parent path) then
        unless ← Filing.hasDirectory path do Filing.write path block

def steps (rule : Rule) (argv : List String) : List (Filing Unit) :=
  let last : Filing Unit := match rule.fault with
    | some fault => throw fault
    | none => if rule.status.same (.int 0) then copy argv else return
  rule.effects.map FileAction.perform ++ [last]

/-- Takes steps up to the first fault. The sinks lose the files that are gone after a step. -/
def take (sinks : Sinks) : List (Filing Unit) → FileTree → Option CallFault × Sinks × FileTree
  | [], files => (none, sinks, files)
  | step :: rest, files =>
    match step files with
    | .ok _ files => take (sinks.remaining files) rest files
    | .error fault files => (some fault, sinks.remaining files, files)

def run (script : Script) (files : FileTree) (argv : List String) : Reply × Script × FileTree :=
  let (rule, rules) := choose argv script.rules
  let (fault, sinks, files) := take script.sinks (steps rule argv) files
  let reply : Reply := match fault with
    | none => .exited rule.status rule.output
    | some fault => .failed fault
  (reply, { script with rules, sinks }, files)

def refuse (script : Script) (operation : Guarded) (_ : String) : Option CallFault × Script :=
  (script.refusals.lookup operation, script)

/-- The identifier with a number: the number in eight digits and then always the same ones. -/
def identifier (number : Nat) : String :=
  String.ofList (Text.hexDigits 8 number) ++ "abcdef0123456789abcdef01"

/-- The host that follows a script. The clock shows the given readings and then stands at zero.
Temporary directories are made in the working directory, and a name that is taken is an error. -/
def host (clock : List Float) : Host Script where
  run := run
  refuse := refuse
  hasTool script tool := script.tools.contains tool
  identifier := identifier
  temporary := fun number => toString number
  temporaryDirectory := ""
  retries := 0
  exhausted := id
  clock := fun reading => clock.getD reading 0
  memory := 68719476735

/-- The world in which a rehearsal starts. -/
def world (script : Script) (files : FileTree) : World Script where
  memory := script
  files := files
  commands := []
  records := []
  settings := []
  standing := []
  scope := []
  readings := 0
  jobs := 0
  images := 0
  mounts := 0

end Script

end DiskFixture.Rehearsal
