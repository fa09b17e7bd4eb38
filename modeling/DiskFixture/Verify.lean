import DiskFixture.Digest.Request
import DiskFixture.Settings

/-!
Comparing images by digest. As many bytes are compared as the first image has; of a shorter second
image only those that there are.
-/

namespace DiskFixture.Verify

variable {σ : Type}

def openFile (path : String) : Action σ Stream := do
  match (← get).files.read path with
  | .ok content => return .ofContent content
  | .error fault => throw (.ofCall fault)

def hash (length : Int) (stream : Stream) : Action σ Reading := do
  let buffer ← Action.ofExcept (Settings.bufferSize (← get).settings)
  return Reading.ofStream buffer length stream

/-- Fails if a read of so many bytes cannot be met. It is taken for granted that a file can be read
at once as far as it goes, so that nothing is checked that some file could meet. -/
def checkRead (host : Host σ) (bytes : Nat) : Action σ Unit := do
  unless (← get).files.holds bytes do Action.ofExcept (Request.checkFile host.memory bytes)

/-- The digest of a file, of the whole of it if no length is given. A length may be more than the
file has. -/
def digest (host : Host σ) (path : String) (length : Option Int) : Action σ String := do
  let stream ← openFile path
  match length with
  | none => return (← hash stream.measure.1 stream.measure.2).digest.hex
  | some length =>
    let buffer ← Action.ofExcept (Settings.bufferSize (← get).settings)
    checkRead host (Request.first buffer length)
    return (← hash length stream).digest.hex

/-- Compares two files; a difference is a fault. -/
def compare (first second : String) : Action σ Unit := do
  let left ← openFile first
  let right ← openFile second
  let (size, left) := left.measure
  Logger.verify.log .debug
    ("Comparing " ++ toString size ++ " bytes: " ++ first ++ " <-> " ++ second)
  let expected ← hash size left
  let found ← hash size right
  if expected.digest = found.digest then
    Logger.verify.log .debug ("Verify complete: " ++ first ++ " matches " ++ second)
  else
    Logger.verify.log .error ("Verify mismatch for " ++ first ++ " -> " ++ second)
    throw (.ofProblem (.mismatch (.text first) (.text second)))

end DiskFixture.Verify
