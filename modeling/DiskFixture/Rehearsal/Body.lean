import DiskFixture.Command
import DiskFixture.Rehearsal.Script

/-!
Bodies: what handed-in code does in a rehearsal. It changes files, below the mount point if there is
one, runs commands, and may raise a fault at the end.
-/

namespace DiskFixture.Rehearsal

inductive BodyStep where
  | change (action : FileAction)
  | run (words : List Value)

structure Body where
  steps : List BodyStep
  fault : Option Fault

namespace Body

variable {σ : Type}

def perform (host : Host σ) (point : Option String) : BodyStep → Action σ Unit
  | .change action =>
    Action.filing (match point with
      | none => action.perform
      | some point => (action.below point).perform)
  | .run words => do
    let _ ← Command.runValues host words

def act (host : Host σ) (body : Body) (point : Option String) : Action σ Unit := do
  body.steps.forM (perform host point)
  match body.fault with
  | none => return
  | some fault => throw fault

end Body

end DiskFixture.Rehearsal
