import DiskFixture.Proofs.Disk.Removal
import DiskFixture.Proofs.Disk.Steps
import DiskFixture.Proofs.Value.Fields

/-!
Records that steps do not write. Of a kind of errors to which those of commands do not belong,
neither the steps of a build nor a closing write any, whatever the kind. Main statements: this, and
that the errors recorded under a source are such a kind.
-/

namespace DiskFixture

variable {σ : Type} {α β : Type} {host : Host σ}

/-- A kind of errors to which those of commands do not belong. -/
structure Record.IsForeign (kind : Record → Bool) : Prop where
  level : ∀ record, kind record = true → record.level = .error
  command : ∀ (standing scope : Fields) (argv reason : String),
    kind ⟨.error, "Command could not be started: " ++ argv ++ ": " ++ reason,
      Fields.overlay (Fields.overlay standing scope) Logger.command.bound⟩ = false

theorem Record.IsForeign.eq_false {kind : Record → Bool} (foreign : IsForeign kind) {level : Level}
    (different : level ≠ .error) (message : String) (extra : Fields) :
    kind ⟨level, message, extra⟩ = false := by
  cases marked : kind ⟨level, message, extra⟩ with
  | false => rfl
  | true => exact absurd (foreign.level _ marked) different

/-- An action that writes no record of a kind. -/
def Spares (kind : Record → Bool) (action : Action σ α) : Prop :=
  ∀ world, (after action world).records.filter kind = world.records.filter kind

namespace Spares

variable {kind : Record → Bool} {action : Action σ α} {next : α → Action σ β}

theorem of_records (same : ∀ world, (after action world).records = world.records) :
    Spares kind action :=
  fun world => by rw [same]

theorem bind (first : Spares kind action) (second : ∀ result, Spares kind (next result)) :
    Spares kind (action >>= next) :=
  Leads.bind
    (R := fun world left : World σ => left.records.filter kind = world.records.filter kind)
    (fun keeps stays => stays.trans keeps) first second

theorem log {logger : Logger} {level : Level} {message : String}
    (other : ∀ world : World σ, kind ⟨level, message, logger.extra world⟩ = false) :
    Spares kind (logger.log (σ := σ) level message) := by
  intro world
  simp [Logger.noted, List.filter_append, other world]

theorem attempt (spares : Spares kind action) : Spares kind action.attempt :=
  fun world => by rw [Action.after_attempt, spares]

theorem guarded (operation : Guarded) (path : String) (step : Filing Unit) :
    Spares kind (Action.guarded host operation path step) := by
  apply of_records
  intro world
  rw [after_guarded]
  rcases host.refuse world.memory operation path with ⟨_ | fault, memory⟩ <;> rfl

section Foreign

variable (foreign : Record.IsForeign kind)
include foreign

theorem log_of_ne (logger : Logger) {level : Level} (message : String)
    (different : level ≠ .error) : Spares kind (logger.log (σ := σ) level message) :=
  log fun _ => foreign.eq_false different _ _

theorem conclude (argv : List String) (reply : Reply) :
    Spares kind (Command.conclude (σ := σ) argv reply) := by
  have stop (fault : Fault) : Spares kind (throw fault : Action σ String) :=
    of_records fun _ => rfl
  have give (output : String) : Spares kind (pure output : Action σ String) :=
    of_records fun _ => rfl
  cases reply with
  | failed fault =>
    cases fault with
    | misuse wrong => exact stop _
    | system error =>
      exact bind (log fun world => foreign.command world.standing world.scope _ _) fun _ => stop _
  | exited status output =>
    simp only [Command.conclude]
    split
    · split
      · exact give output
      · exact bind (log_of_ne foreign _ _ (by decide)) fun _ => give output
    · exact bind (log_of_ne foreign _ _ (by decide)) fun _ => stop _

theorem run (argv : List String) : Spares kind (Command.run host argv) := by
  refine bind (log_of_ne foreign _ _ (by decide)) fun _ => ?_
  exact bind (of_records fun _ => rfl) fun reply => conclude foreign argv reply

/-- No step of a build writes a record of the kind. -/
theorem compositional :
    Compositional host (fun {_} (action : Action σ _) => Spares kind action) where
  pure _ := of_records fun _ => rfl
  throw _ := of_records fun _ => rfl
  get := of_records fun _ => rfl
  bind := bind
  attempt := attempt
  log logger _ message different := log_of_ne foreign logger message different
  run := run foreign

theorem removePath (path : String) : Spares kind (removePath host path) := by
  have parts : Compositional host fun {_} (action : Action σ _) => Spares kind action :=
    compositional foreign
  refine bind parts.get fun world => ?_
  dsimp only
  split
  · exact guarded _ _ _
  · refine bind (attempt (guarded _ _ _)) fun outcome => ?_
    cases outcome with
    | ok done => exact parts.log _ _ _ (by decide)
    | error fault =>
      dsimp only
      split
      · exact parts.pure ()
      · exact parts.throw fault

theorem close (disk : LoopDisk) : Spares kind (disk.close host) := by
  have parts : Compositional host fun {_} (action : Action σ _) => Spares kind action :=
    compositional foreign
  have removes (disk : LoopDisk) : Spares kind (disk.removeImage host) := by
    refine bind (attempt (removePath foreign _)) fun outcome => ?_
    cases outcome with
    | ok done => exact parts.pure _
    | error fault =>
      dsimp only
      split <;> exact parts.pure _
  unfold LoopDisk.close
  split
  · exact removes disk
  · refine bind (attempt (parts.detach _)) fun outcome => ?_
    cases outcome with
    | ok done => exact removes _
    | error fault =>
      dsimp only
      split <;> exact parts.pure _

end Foreign

end Spares

section Source

def Record.isErrorOf (source : String) (record : Record) : Bool :=
  record.level == .error && match record.extra.get? "source" with
    | some (.text found) => found == source
    | _ => false

/-- The texts of the errors that were recorded under a source. -/
def World.errorsOf (world : World σ) (source : String) : List String :=
  (world.records.filter (·.isErrorOf source)).map (·.message)

theorem Spares.errorsOf {source : String} {action : Action σ α}
    (spares : Spares (·.isErrorOf source) action) (world : World σ) :
    (after action world).errorsOf source = world.errorsOf source :=
  congrArg (·.map (·.message)) (spares world)

/-- What a logger binds first and only once is on all of its records. -/
theorem Logger.get?_extra {logger : Logger} {key : String} {value : Value} {rest : Fields}
    (bound : logger.bound = (key, value) :: rest) (once : ∀ entry ∈ rest, entry.1 ≠ key)
    (world : World σ) : (logger.extra world).get? key = some value := by
  rw [extra, bound, Fields.overlay_cons, Fields.get?_overlay_of_not_mem once,
    Fields.get?_put_self]

theorem Logger.errorsOf_noted {logger : Logger} {own : String} {rest : Fields}
    (bound : logger.bound = ("source", .text own) :: rest)
    (once : ∀ entry ∈ rest, entry.1 ≠ "source") (level : Level) (message : String)
    (world : World σ) (source : String) :
    (logger.noted level message world).errorsOf source = world.errorsOf source ++
      if level == .error && own == source then [message] else [] := by
  have marked := get?_extra bound once world
  unfold World.errorsOf Logger.noted
  by_cases error : (level == .error && own == source) = true <;>
    simp [List.filter_append, Record.isErrorOf, marked, error]

theorem isForeign_isErrorOf {source : String} (other : source ≠ "command") :
    Record.IsForeign (·.isErrorOf source) where
  level record marked := by
    simp only [Record.isErrorOf, Bool.and_eq_true, beq_iff_eq] at marked
    exact marked.1
  command standing scope argv reason := by
    have bound : Logger.command.bound = ("source", .text "command") ::
        [("tags", .ofTexts ["command"])] := rfl
    have source : (Fields.overlay (Fields.overlay standing scope) Logger.command.bound).get?
        "source" = some (.text "command") := by
      rw [bound, Fields.overlay_cons, Fields.get?_overlay_of_not_mem (by simp),
        Fields.get?_put_self]
    simp [Record.isErrorOf, source, other.symm]

end Source

end DiskFixture
