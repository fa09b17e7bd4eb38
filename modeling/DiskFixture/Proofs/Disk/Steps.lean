import DiskFixture.Disk.Build
import DiskFixture.Proofs.Disk.Rollback

/-!
Steps of a build, property by property. What passes from the parts of an action to the whole, and
holds of a checked command and of a record that is no error, holds of every step of a build.
-/

namespace DiskFixture

variable {σ : Type}

/-- A property of actions that passes from the parts of an action to the whole. -/
structure Compositional (host : Host σ) (P : ∀ {α : Type}, Action σ α → Prop) : Prop where
  pure : ∀ {α : Type} (result : α), P (pure result : Action σ α)
  throw : ∀ {α : Type} (fault : Fault), P (throw fault : Action σ α)
  get : P (get : Action σ (World σ))
  bind : ∀ {α β : Type} {action : Action σ α} {next : α → Action σ β},
    P action → (∀ result, P (next result)) → P (action >>= next)
  attempt : ∀ {α : Type} {action : Action σ α}, P action → P action.attempt
  log : ∀ (logger : Logger) (level : Level) (message : String),
    level ≠ .error → P (logger.log (σ := σ) level message)
  run : ∀ argv, P (Command.run host argv)

namespace Compositional

variable {host : Host σ} {P : ∀ {α : Type}, Action σ α → Prop} (parts : Compositional host P)
include parts

theorem ofExcept {α : Type} (check : Except Misuse α) :
    P (Action.ofExcept check : Action σ α) := by
  cases check with
  | ok result => exact parts.pure result
  | error misuse => exact parts.throw _

theorem settle : P (Command.settle host) := by
  refine parts.bind parts.get fun world => ?_
  split
  · refine parts.bind (parts.attempt (parts.run _)) fun outcome => ?_
    cases outcome with
    | ok output => exact parts.pure ()
    | error fault =>
      dsimp only
      split
      · exact parts.log _ _ _ nofun
      · exact parts.bind (parts.throw fault) fun _ => parts.log _ _ _ nofun
  · exact parts.pure ()

theorem attach (path : String) : P (attach host path) := by
  refine parts.bind (parts.run _) fun output => parts.bind parts.get fun world => ?_
  split
  · exact parts.bind parts.settle fun _ => parts.pure _
  · exact parts.pure _

theorem detach (device : Value) : P (detach host device) :=
  parts.bind (parts.bind (parts.ofExcept _) fun _ => parts.run _) fun _ => parts.log _ _ _ nofun

theorem makePartitions (path : String) (extents : List Extent) :
    P (makePartitions host path extents) := by
  induction extents with
  | nil => exact parts.pure ()
  | cons extent rest ih => exact parts.bind (parts.run _) fun _ => ih

theorem resolve (node : String) : P (Identifier.resolve host node) := by
  refine parts.bind (parts.run _) fun output => ?_
  split
  · exact parts.throw _
  · exact parts.bind (parts.log _ _ _ nofun) fun _ => parts.pure _

theorem make (target filesystem label : Value) :
    P (Filesystem.make host target filesystem label) :=
  parts.bind (parts.log _ _ _ nofun) fun _ => parts.bind (parts.ofExcept _) fun _ => parts.run _

theorem formatPartitions (device : String) (index : Nat) (specs : List PartitionSpec) :
    P (formatPartitions host device index specs) := by
  induction specs generalizing index with
  | nil => exact parts.pure []
  | cons spec rest ih =>
    refine parts.bind (parts.resolve _) fun identifier => parts.bind (parts.make _ _ _) fun _ => ?_
    exact parts.bind (ih (index + 1)) fun _ => parts.pure _

theorem allocate (path : String) (size : Value) : P (allocate host path size) :=
  parts.bind (parts.run _) fun _ => parts.pure ()

theorem untilAttached (path : String) (specs : List PartitionSpec) :
    P (LoopDisk.untilAttached host path specs) := by
  have front : P (LoopDisk.untilPartitioned host path specs) :=
    parts.bind (parts.allocate path _) fun _ => parts.bind (parts.run _) fun _ =>
      parts.makePartitions path _
  exact parts.bind front fun _ => parts.attach path

theorem onceAttached (path : String) (specs : List PartitionSpec) (device : String) :
    P (LoopDisk.onceAttached host path specs device) := by
  refine parts.bind (parts.log _ _ _ nofun) fun _ => ?_
  exact parts.bind (parts.formatPartitions device 1 specs) fun _ => parts.pure _

end Compositional

end DiskFixture
