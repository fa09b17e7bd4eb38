import DiskFixture.Log.Logger
import DiskFixture.Text.Blank

/-!
Checked commands. A command that cannot be started or that exits with another status than zero is a
fault, which carries the whole output of the command.
-/

namespace DiskFixture.Command

variable {σ : Type}

/-- The words of a command, the first of which stands at `position`. All of them must be texts. -/
def wordsFrom (position : Nat) : List Value → Except Misuse (List String)
  | [] => .ok []
  | .text content :: rest => (wordsFrom (position + 1) rest).map (content :: ·)
  | other :: _ => .error (.notText position other.kind)

def words (values : List Value) : Except Misuse (List String) := wordsFrom 0 values

theorem wordsFrom_map_text (position : Nat) (texts : List String) :
    wordsFrom position (texts.map .text) = .ok texts := by
  induction texts generalizing position with
  | nil => rfl
  | cons text rest ih => simp [wordsFrom, ih, Except.map]

/-- What a command that has ended gives: its output, if its status is zero. -/
def conclude (argv : List String) : Reply → Action σ String
  | .failed (.system error) => do
    Logger.command.log .error
      ("Command could not be started: " ++ " ".intercalate argv ++ ": " ++ error.message)
    throw (.dueTo (.command argv .null (.text error.message)) (.ofSystem error))
  | .failed (.misuse wrong) => Action.reject wrong
  | .exited status output => do
    let log := Logger.command.bind [("stream", .text "output")]
    if status.same (.int 0) then
      unless output.isEmpty do log.log .trace ("output: " ++ Text.strip output)
      return output
    else
      log.log .warning
        ("Command failed with code " ++ status.shown ++ ": " ++ Text.strip output)
      throw (.ofProblem (.command argv status (.text output)))

def announce (argv : List String) : Action σ Unit :=
  Logger.command.log .debug ("Running command: " ++ " ".intercalate argv)

def run (host : Host σ) (argv : List String) : Action σ String := do
  announce argv
  conclude argv (← Action.execute host argv)

/-- Runs a command that is given by values and returns its output. -/
def runValues (host : Host σ) (values : List Value) : Action σ String := do
  run host (← Action.ofExcept (words values))

/-- Waits until the device nodes exist, if there is a tool for it. That it fails is only logged. -/
def settle (host : Host σ) : Action σ Unit := do
  if host.hasTool (← get).memory "udevadm" then
    match ← Action.attempt (run host ["udevadm", "settle"]) with
    | .ok _ => return
    | .error fault =>
      unless fault.problem.isCommand do throw fault
      Logger.command.log .warning ("udevadm settle failed: " ++ fault.message)

end DiskFixture.Command
