import DiskFixture.Command
import DiskFixture.Value.Items

/-!
What handed-in code raises: a class of errors, called with arguments. Arguments that do not fit the
class make a misuse of it, which is then what is raised. Main statement: every class has the name by
which it is found.
-/

namespace DiskFixture.Rehearsal

/-- The classes of errors that handed-in code may raise. -/
inductive RaisedClass where
  | storage
  | command
  | identity
  | identityMissing
  | identityMalformed
  | build
  | populate
  | teardown
  | mismatch
  | system
  | plain (kind : RaisedKind)
  deriving DecidableEq, Repr

namespace RaisedClass

def name : RaisedClass → String
  | .storage => "StorageError"
  | .command => "ExternalCommandError"
  | .identity => "PartUUIDError"
  | .identityMissing => "PartUUIDNotFoundError"
  | .identityMalformed => "PartUUIDParseError"
  | .build => "BuildError"
  | .populate => "PopulateError"
  | .teardown => "TeardownError"
  | .mismatch => "MismatchError"
  | .system => "OSError"
  | .plain .runtime => "RuntimeError"
  | .plain .value => "ValueError"
  | .plain .key => "KeyError"
  | .plain .type => "TypeError"

def all : List RaisedClass :=
  [.storage, .command, .identity, .identityMissing, .identityMalformed, .build, .populate,
    .teardown, .mismatch, .system, .plain .runtime, .plain .value, .plain .key, .plain .type]

def ofName? (name : String) : Option RaisedClass := all.find? (·.name == name)

theorem ofName?_name (raised : RaisedClass) : ofName? raised.name = some raised := by
  cases raised with
  | plain kind => cases kind <;> decide +kernel
  | _ => decide +kernel

def parameters? : RaisedClass → Option (List Parameter)
  | .command => some [⟨"command", none⟩, ⟨"returncode", none⟩, ⟨"output", some (.text "")⟩]
  | .identityMissing => some [⟨"device", none⟩]
  | .identityMalformed => some [⟨"device", none⟩, ⟨"value", none⟩]
  | .build => some [⟨"message", none⟩, ⟨"path", some .null⟩]
  | .populate =>
    some [⟨"mount_point", none⟩, ⟨"reason", some (.text "")⟩, ⟨"path", some .null⟩]
  | .teardown => some [⟨"message", none⟩, ⟨"device", some .null⟩, ⟨"path", some .null⟩]
  | .mismatch => some [⟨"first", none⟩, ⟨"second", none⟩]
  | _ => none

/-- The problem of a class that takes its arguments as they come. -/
def ofArguments (raised : RaisedClass) (arguments : List Value) : Except Misuse Problem :=
  match raised with
  | .identity => .ok (.identity arguments)
  | .system => (SystemError.ofArguments arguments).map .system
  | .plain kind => .ok (.raised kind arguments)
  | _ => .ok (.storage arguments)

/-- The problem of a class with parameters, `given` being their values. -/
def ofGiven (raised : RaisedClass) (given : String → Value) : Except Misuse Problem :=
  match raised with
  | .command =>
    match (given "command").items? with
    | none => .error (.notIterable (given "command").kind)
    | some words =>
      (Command.words words).map fun argv => .command argv (given "returncode") (given "output")
  | .identityMissing => .ok (.identityMissing (given "device"))
  | .identityMalformed => .ok (.identityMalformed (given "device") (given "value"))
  | .build => .ok (.build (given "message") (given "path"))
  | .populate => .ok (.populate (given "mount_point") (given "reason") (given "path"))
  | .teardown => .ok (.teardown (given "message") (given "device") (given "path"))
  | .mismatch => .ok (.mismatch (given "first") (given "second"))
  | other => other.ofArguments []

/-- The problem that a class makes of its arguments, those in order and those by name. -/
def make (raised : RaisedClass) (positional : List Value) (named : Fields) :
    Except Misuse Problem :=
  match raised.parameters? with
  | none =>
    if named.isEmpty then raised.ofArguments positional
    else .error (.arguments (.nameless raised.name))
  | some parameters =>
    match (Signature.mk (raised.name ++ ".__init__") 1 parameters).bind positional named with
    | .error fault => .error (.arguments fault)
    | .ok bound => raised.ofGiven fun name => (bound.get? name).getD .null

/-- What is raised when a class is called with arguments in order. -/
def raise (raised : RaisedClass) (positional : List Value) : Fault :=
  match raised.make positional [] with
  | .ok problem => .ofProblem problem
  | .error misuse => .ofMisuse misuse

end RaisedClass

end DiskFixture.Rehearsal
