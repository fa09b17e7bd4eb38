import DiskFixture.Files.Refusal

/-!
Faults: what went wrong, and the chain of what led to it. Storage problems are those of the library
itself; they carry their data, with null where there is none, and belong to nested groups. The rest
are errors of the operating system, misuses, and errors raised by code that was handed to the
library.
-/

namespace DiskFixture

/-- The classes of errors that handed-in code may raise besides storage and system errors. -/
inductive RaisedKind where
  | runtime
  | value
  | key
  | type
  deriving DecidableEq, Repr

inductive Problem where
  | storage (arguments : List Value)
  | identity (arguments : List Value)
  | command (argv : List String) (status output : Value)
  | identityMissing (device : Value)
  | identityMalformed (device value : Value)
  | build (message path : Value)
  | populate (mountPoint reason path : Value)
  | teardown (message device path : Value)
  | mismatch (first second : Value)
  | system (error : SystemError)
  | misuse (wrong : Misuse)
  | raised (kind : RaisedKind) (arguments : List Value)

/-- A problem and the problems that led to it, the nearest first. -/
structure Fault where
  problem : Problem
  causes : List Problem

namespace Problem

def message : Problem → String
  | .storage arguments | .identity arguments => shownArguments arguments
  | .command argv status output =>
    let outcome := match status with
      | .null => "could not be started"
      | status => "exit status " ++ status.shown
    "Command failed (" ++ " ".intercalate argv ++ "): " ++ outcome ++ " (" ++ output.shown ++ ")"
  | .identityMissing device => "Partition UUID not found: " ++ device.shown
  | .identityMalformed device value =>
    "Invalid partition UUID for " ++ device.shown ++ ": " ++ value.written
  | .build message _ => message.shown
  | .populate mountPoint reason _ =>
    "Failed to populate " ++ mountPoint.shown
      ++ (if reason.isTruthy then ": " ++ reason.shown else "")
  | .teardown message _ _ => message.shown
  | .mismatch first second => "Data mismatch: " ++ first.shown ++ " != " ++ second.shown
  | .system error => error.message
  | .misuse wrong => wrong.message
  | .raised .key [argument] => argument.written
  | .raised _ arguments => shownArguments arguments

/-- The names of the problem's own class and of the classes around it, innermost first. -/
def lineage : Problem → List String
  | .storage _ => ["StorageError"]
  | .identity _ => ["PartUUIDError", "StorageError"]
  | .command _ _ _ => ["ExternalCommandError", "StorageError"]
  | .identityMissing _ => ["PartUUIDNotFoundError", "PartUUIDError", "StorageError"]
  | .identityMalformed _ _ => ["PartUUIDParseError", "PartUUIDError", "StorageError"]
  | .build _ _ => ["BuildError", "StorageError"]
  | .populate _ _ _ => ["PopulateError", "BuildError", "StorageError"]
  | .teardown _ _ _ => ["TeardownError", "StorageError"]
  | .mismatch _ _ => ["MismatchError", "StorageError"]
  | .system error => [error.kind]
  | .misuse wrong => [wrong.kind]
  | .raised .runtime _ => ["RuntimeError"]
  | .raised .value _ => ["ValueError"]
  | .raised .key _ => ["KeyError"]
  | .raised .type _ => ["TypeError"]

def kind (problem : Problem) : String :=
  problem.lineage.headD ""

def isStorage : Problem → Bool
  | .system _ | .misuse _ | .raised _ _ => false
  | _ => true

/-- Whether the problem is that something could not be built, populated included. -/
def isBuild : Problem → Bool
  | .build _ _ | .populate _ _ _ => true
  | _ => false

def isPopulate : Problem → Bool
  | .populate _ _ _ => true
  | _ => false

def isSystem : Problem → Bool
  | .system _ => true
  | _ => false

/-- Whether the problem is one that can befall a tool or the file system, and not one of the values
that the library was given. -/
def isOperational (problem : Problem) : Bool := problem.isStorage || problem.isSystem

def isCommand : Problem → Bool
  | .command _ _ _ => true
  | _ => false

def isTeardown : Problem → Bool
  | .teardown _ _ _ => true
  | _ => false

/-- The data that a storage problem carries, by name. -/
def attributes : Problem → Fields
  | .command argv status output =>
    [("command", .ofTexts argv), ("returncode", status), ("output", output)]
  | .identityMissing device => [("device", device)]
  | .identityMalformed device value => [("device", device), ("value", value)]
  | .build _ path => [("path", path)]
  | .populate mountPoint reason path =>
    [("mount_point", mountPoint), ("reason", reason), ("path", path)]
  | .teardown _ device path => [("device", device), ("path", path)]
  | .mismatch first second => [("first", first), ("second", second)]
  | _ => []

end Problem

namespace Fault

/-- A problem that nothing else led to. -/
def ofProblem (problem : Problem) : Fault := ⟨problem, []⟩

/-- A problem that `fault` led to. -/
def dueTo (problem : Problem) (fault : Fault) : Fault :=
  ⟨problem, fault.problem :: fault.causes⟩

def ofSystem (error : SystemError) : Fault := .ofProblem (.system error)

def ofMisuse (misuse : Misuse) : Fault := .ofProblem (.misuse misuse)

def ofCall : CallFault → Fault
  | .system error => .ofSystem error
  | .misuse wrong => .ofMisuse wrong

def message (fault : Fault) : String := fault.problem.message

def kind (fault : Fault) : String := fault.problem.kind

end Fault

end DiskFixture
