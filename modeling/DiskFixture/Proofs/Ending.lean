import DiskFixture.Log.Logger

/-!
Two views of a step: how it ends and what it leaves. A step that consists of others is known by the
views of its parts, so that no proof has to open the steps themselves.
-/

namespace DiskFixture

section Views

variable {ε τ α β : Type}

def ending (step : EStateM ε τ α) (state : τ) : Except ε α :=
  match step state with
  | .ok result _ => .ok result
  | .error failure _ => .error failure

def after (step : EStateM ε τ α) (state : τ) : τ :=
  match step state with
  | .ok _ left => left
  | .error _ left => left

@[simp] theorem ending_pure (result : α) (state : τ) :
    ending (pure result : EStateM ε τ α) state = .ok result := rfl

@[simp] theorem after_pure (result : α) (state : τ) :
    after (pure result : EStateM ε τ α) state = state := rfl

@[simp] theorem ending_throw (failure : ε) (state : τ) :
    ending (throw failure : EStateM ε τ α) state = .error failure := rfl

@[simp] theorem after_throw (failure : ε) (state : τ) :
    after (throw failure : EStateM ε τ α) state = state := rfl

@[simp] theorem ending_get (state : τ) :
    ending (get : EStateM ε τ τ) state = .ok state := rfl

@[simp] theorem after_get (state : τ) : after (get : EStateM ε τ τ) state = state := rfl

@[simp] theorem ending_modify (change : τ → τ) (state : τ) :
    ending (modify change : EStateM ε τ PUnit) state = .ok () := rfl

@[simp] theorem after_modify (change : τ → τ) (state : τ) :
    after (modify change : EStateM ε τ PUnit) state = change state := rfl

theorem ending_bind (step : EStateM ε τ α) (next : α → EStateM ε τ β) (state : τ) :
    ending (step >>= next) state =
      match ending step state with
      | .ok result => ending (next result) (after step state)
      | .error failure => .error failure := by
  simp only [ending, after, bind, EStateM.bind]
  cases step state <;> rfl

theorem after_bind (step : EStateM ε τ α) (next : α → EStateM ε τ β) (state : τ) :
    after (step >>= next) state =
      match ending step state with
      | .ok result => after (next result) (after step state)
      | .error _ => after step state := by
  simp only [ending, after, bind, EStateM.bind]
  cases step state <;> rfl

theorem ending_bind_eq_ok_iff {step : EStateM ε τ α} {next : α → EStateM ε τ β} {state : τ}
    {result : β} :
    ending (step >>= next) state = .ok result ↔
      ∃ middle, ending step state = .ok middle ∧
        ending (next middle) (after step state) = .ok result := by
  rw [ending_bind]
  cases ending step state <;> simp

theorem after_bind_of_ok {step : EStateM ε τ α} {next : α → EStateM ε τ β} {state : τ}
    {middle : α} (ends : ending step state = .ok middle) :
    after (step >>= next) state = after (next middle) (after step state) := by
  rw [after_bind, ends]

theorem after_tryCatch (step : EStateM ε τ α) (handler : ε → EStateM ε τ α) (state : τ) :
    after (tryCatch step handler) state =
      match ending step state with
      | .ok _ => after step state
      | .error failure => after (handler failure) (after step state) := by
  have caught {result : EStateM.Result ε τ α} (runs : step state = result) :
      tryCatch step handler state = EStateM.tryCatch (fun _ => result) handler state := by
    subst runs
    rfl
  unfold after ending
  cases runs : step state with
  | ok result left =>
    rw [caught runs]
    rfl
  | error failure left =>
    rw [caught runs]
    rfl

@[simp] theorem ending_map (f : α → β) (step : EStateM ε τ α) (state : τ) :
    ending (f <$> step) state = (ending step state).map f := by
  simp only [ending, Functor.map, EStateM.map]
  cases step state <;> rfl

@[simp] theorem after_map (f : α → β) (step : EStateM ε τ α) (state : τ) :
    after (f <$> step) state = after step state := by
  simp only [after, Functor.map, EStateM.map]
  cases step state <;> rfl

@[simp] theorem mapError_ok {ι : Type} (f : ε → ι) (result : α) :
    (Except.ok result : Except ε α).mapError f = .ok result := rfl

@[simp] theorem mapError_error {ι : Type} (f : ε → ι) (failure : ε) :
    (Except.error failure : Except ε α).mapError f = .error (f failure) := rfl

theorem eq_error_of_map {f : α → β} {result : Except ε α} {failure : ε}
    (fails : result.map f = .error failure) : result = .error failure := by
  cases result with
  | ok done => cases fails
  | error other => exact congrArg Except.error (Except.error.inj fails)

theorem exists_ok_of_isOk {result : Except ε α} (good : result.isOk = true) :
    ∃ done, result = .ok done := by
  cases result with
  | ok done => exact ⟨done, rfl⟩
  | error failure => cases good

theorem exists_error_of_isOk {result : Except ε α} (bad : result.isOk = false) :
    ∃ failure, result = .error failure := by
  cases result with
  | ok done => cases bad
  | error failure => exact ⟨failure, rfl⟩

section Leads

variable {R : τ → τ → Prop} {step : EStateM ε τ α} {next : α → EStateM ε τ β}

/-- A step that leads from each state to one that stands in a relation to it. -/
def Leads (R : τ → τ → Prop) (step : EStateM ε τ α) : Prop :=
  ∀ state, R state (after step state)

namespace Leads

theorem of_quiet (refl : ∀ state, R state state) (quiet : ∀ state, after step state = state) :
    Leads R step := by
  intro state
  rw [quiet]
  exact refl state

theorem bind (trans : ∀ {first second third}, R first second → R second third → R first third)
    (first : Leads R step) (second : ∀ result, Leads R (next result)) :
    Leads R (step >>= next) := by
  intro state
  rw [after_bind]
  cases ending step state with
  | ok result => exact trans (first state) (second result _)
  | error failure => exact first state

theorem tryCatch {handler : ε → EStateM ε τ α}
    (trans : ∀ {first second third}, R first second → R second third → R first third)
    (first : Leads R step) (second : ∀ failure, Leads R (handler failure)) :
    Leads R (tryCatch step handler) := by
  intro state
  rw [after_tryCatch]
  cases ending step state with
  | ok result => exact first state
  | error failure => exact trans (first state) (second failure _)

end Leads

end Leads

end Views

namespace Action

variable {σ α : Type} (world : World σ)

@[simp] theorem ending_attempt (action : Action σ α) :
    ending action.attempt world = .ok (ending action world) := by
  simp only [ending, attempt]
  cases action world <;> rfl

@[simp] theorem after_attempt (action : Action σ α) :
    after action.attempt world = after action world := by
  simp only [after, attempt]
  cases action world <;> rfl

@[simp] theorem ending_filing (step : Filing α) :
    ending (filing step) world = (ending step world.files).mapError .ofCall := by
  simp only [ending, filing]
  cases step world.files <;> rfl

@[simp] theorem after_filing (step : Filing α) :
    after (filing step : Action σ α) world = { world with files := after step world.files } := by
  simp only [after, filing]
  cases step world.files <;> rfl

@[simp] theorem ending_reject (misuse : Misuse) :
    ending (reject misuse : Action σ α) world = .error (.ofMisuse misuse) := rfl

@[simp] theorem after_reject (misuse : Misuse) :
    after (reject misuse : Action σ α) world = world := rfl

@[simp] theorem ending_ofExcept (check : Except Misuse α) :
    ending (ofExcept check : Action σ α) world = check.mapError .ofMisuse := by
  cases check <;> rfl

@[simp] theorem after_ofExcept (check : Except Misuse α) :
    after (ofExcept check : Action σ α) world = world := by
  cases check <;> rfl

end Action

namespace Logger

variable {σ : Type} (logger : Logger) (level : Level) (message : String) (world : World σ)

def noted : World σ :=
  { world with records := world.records ++ [⟨level, message, logger.extra world⟩] }

@[simp] theorem ending_log : ending (logger.log level message) world = .ok () := rfl

@[simp] theorem after_log :
    after (logger.log level message) world = logger.noted level message world := rfl

@[simp] theorem noted_commands :
    (logger.noted level message world).commands = world.commands := rfl

@[simp] theorem noted_settings :
    (logger.noted level message world).settings = world.settings := rfl

end Logger

section Tolerate

variable {σ α : Type} (logger : Logger) (describe : Fault → String) (action : Action σ α)
  (world : World σ)

/-- An action of which it is only logged if a tool or the file system fails. -/
def tolerate : Action σ Unit := do
  match ← Action.attempt action with
  | .ok _ => return
  | .error fault =>
    unless fault.problem.isOperational do throw fault
    logger.log .error (describe fault)

theorem ending_tolerate :
    ending (tolerate logger describe action) world =
      match ending action world with
      | .ok _ => .ok ()
      | .error fault => if fault.problem.isOperational then .ok () else .error fault := by
  cases ends : ending action world with
  | ok result => simp [tolerate, ending_bind, ends]
  | error fault =>
    cases operational : fault.problem.isOperational <;>
      simp [tolerate, ending_bind, ends, operational]

theorem after_tolerate :
    after (tolerate logger describe action) world =
      match ending action world with
      | .ok _ => after action world
      | .error fault =>
        if fault.problem.isOperational then
          logger.noted .error (describe fault) (after action world)
        else after action world := by
  cases ends : ending action world with
  | ok result => simp [tolerate, after_bind, ends]
  | error fault =>
    cases operational : fault.problem.isOperational <;>
      simp [tolerate, after_bind, ends, operational]

end Tolerate

end DiskFixture
