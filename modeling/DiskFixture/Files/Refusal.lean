import DiskFixture.Misuse
import DiskFixture.Value.Same

/-!
Errors of the operating system. A refusal is the reason for which the file system does not do what
it is asked; an error names the refusal by number and text and, if they are concerned, one or two
paths. An error may also be known by its arguments only. A path that holds a null character never
reaches the operating system.
-/

namespace DiskFixture

/-- Why the file system refuses. -/
inductive Refusal where
  | missing
  | present
  | notDirectory
  | directory
  | invalid
  | notEmpty
  | nameTooLong
  | tooManyLinks
  deriving DecidableEq, Repr

def Refusal.number : Refusal → Int
  | .missing => 2
  | .present => 17
  | .notDirectory => 20
  | .directory => 21
  | .invalid => 22
  | .nameTooLong => 36
  | .notEmpty => 39
  | .tooManyLinks => 40

def Refusal.text : Refusal → String
  | .missing => "No such file or directory"
  | .present => "File exists"
  | .notDirectory => "Not a directory"
  | .directory => "Is a directory"
  | .invalid => "Invalid argument"
  | .nameTooLong => "File name too long"
  | .notEmpty => "Directory not empty"
  | .tooManyLinks => "Too many levels of symbolic links"

/-- An error that the operating system reports. Its number and text may be anything when it was
raised by other code. A refusal to lead from one path to another shows both. -/
inductive SystemError where
  | coded (number text : Value) (path other : Option Value)
  | worded (arguments : List Value)

namespace SystemError

def refused (refusal : Refusal) (path : String) : SystemError :=
  .coded (.int refusal.number) (.text refusal.text) (some (.text path)) none

def refusedBetween (refusal : Refusal) (path other : String) : SystemError :=
  .coded (.int refusal.number) (.text refusal.text) (some (.text path)) (some (.text other))

def message : SystemError → String
  | .coded number text path other =>
    let about := path.elim "" fun path => ": " ++ path.written
    let also := other.elim "" fun other => " -> " ++ other.written
    "[Errno " ++ number.shown ++ "] " ++ text.shown ++ about ++ also
  | .worded arguments => shownArguments arguments

/-- The numbers of errors that have a class of their own. -/
def kinds : List (Int × String) := [
  (1, "PermissionError"), (2, "FileNotFoundError"), (3, "ProcessLookupError"),
  (4, "InterruptedError"), (10, "ChildProcessError"), (11, "BlockingIOError"),
  (13, "PermissionError"), (17, "FileExistsError"), (20, "NotADirectoryError"),
  (21, "IsADirectoryError"), (32, "BrokenPipeError"), (103, "ConnectionAbortedError"),
  (104, "ConnectionResetError"), (108, "BrokenPipeError"), (110, "TimeoutError"),
  (111, "ConnectionRefusedError"), (114, "BlockingIOError"), (115, "BlockingIOError")]

/-- The class of the errors with a number. Only integers and truth values are numbers here. -/
def kindOf (number : Value) : String :=
  ((number.asInteger?.bind fun number => kinds.lookup number)).getD "OSError"

/-- A path among the arguments of an error; null is none. -/
def pathOf? : Value → Option Value
  | .null => none
  | path => some path

/-- Behind the number of a call that would block, a number is an amount and no path. -/
def checkAmount : Value → Except Misuse (Option Value)
  | .float _ => .error (.notInteger "float")
  | value =>
    match value.asInteger? with
    | none => .ok (pathOf? value)
    | some amount => if isWord amount then .ok none else .error .amountTooLarge
where
  isWord (amount : Int) : Bool := -9223372036854775808 ≤ amount && amount ≤ 9223372036854775807

/-- The error with these arguments: a number and a text, then perhaps a path, and behind a number of
another system a second path. -/
def ofArguments : List Value → Except Misuse SystemError
  | [number, text] => .ok (.coded number text none none)
  | [number, text, path] | [number, text, path, _] => withPaths number text path .null
  | [number, text, path, _, other] => withPaths number text path other
  | arguments => .ok (.worded arguments)
where
  withPaths (number text path other : Value) : Except Misuse SystemError := do
    let path ← if kindOf number = "BlockingIOError" then checkAmount path else .ok (pathOf? path)
    return .coded number text path (path.bind fun _ => pathOf? other)

def isOf (refusal : Refusal) : SystemError → Bool
  | .coded number _ _ _ => number.asInteger? == some refusal.number
  | .worded _ => false

def isMissing (error : SystemError) : Bool := error.isOf .missing

def kind : SystemError → String
  | .coded number _ _ _ => kindOf number
  | .worded _ => "OSError"

end SystemError

/-- Why a call fails: the operating system reports an error, or the call cannot be made. -/
inductive CallFault where
  | system (error : SystemError)
  | misuse (wrong : Misuse)

namespace CallFault

def refused (refusal : Refusal) (path : String) : CallFault := .system (.refused refusal path)

/-- A path that holds a null character names nothing. -/
def nullInPath : CallFault := .misuse .nullInPath

def isOf (refusal : Refusal) : CallFault → Bool
  | .system error => error.isOf refusal
  | .misuse _ => false

def isMisuse : CallFault → Bool
  | .system _ => false
  | .misuse _ => true

/-- What a system error with these arguments is: itself, or why it cannot be made. -/
def ofArguments (arguments : List Value) : CallFault :=
  match SystemError.ofArguments arguments with
  | .ok error => .system error
  | .error wrong => .misuse wrong

end CallFault

end DiskFixture
