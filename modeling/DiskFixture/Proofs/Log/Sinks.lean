import Mathlib.Data.List.Basic
import DiskFixture.Proofs.Files.Making
import DiskFixture.Proofs.Log.Emission
import DiskFixture.Rehearsal.LogFile

/-!
What the sinks show. Main statement: once the sinks are installed with log files, each shows some of
the records that are emitted, in their order; nothing is on the console that the debug file lacks,
and without a flag nothing that the structured file lacks; warnings and what is worse are
everywhere. Where the log files cannot be made, the console is as it is without them.
-/

namespace DiskFixture

variable {σ : Type} {α β : Type}

section Kept

variable {extra : Fields}

end Kept

namespace Verbosity

variable (verbosity : Verbosity) (records : List Record)

theorem consoleLevel_le_warning : verbosity.consoleLevel.number ≤ Level.warning.number := by
  obtain ⟨debug, trace⟩ := verbosity
  cases debug <;> cases trace <;> decide

end Verbosity

namespace Sink

open Template

variable {record : Record} (presentable : record.extra.IsPresentable)
include presentable

end Sink

namespace Rehearsal

end Rehearsal

namespace Sinks

section Installing

/-- A step that changes nothing but files. -/
def OnlyFiles (action : Action σ α) : Prop :=
  Leads (fun world left => ∃ files, left = { world with files }) action

namespace OnlyFiles

variable {action : Action σ α} {next : α → Action σ β}

theorem pure (result : α) : OnlyFiles (pure result : Action σ α) := fun world => ⟨world.files, rfl⟩

theorem bind (first : OnlyFiles action) (second : ∀ result, OnlyFiles (next result)) :
    OnlyFiles (action >>= next) := by
  refine Leads.bind ?_ first second
  rintro _ _ _ ⟨_, rfl⟩ ⟨files, rfl⟩
  exact ⟨files, rfl⟩

theorem attemptFiling (step : Filing α) :
    OnlyFiles (attemptFiling step : Action σ (Except Fault α)) := by
  have filed : OnlyFiles (Action.attempt (Action.filing step) : Action σ (Except Fault α)) := by
    intro world
    rw [Action.after_attempt, Action.after_filing]
    exact ⟨_, rfl⟩
  refine filed.bind fun outcome => ?_
  cases outcome with
  | ok result => exact pure _
  | error fault =>
    intro world
    dsimp only
    split <;> exact ⟨world.files, rfl⟩

end OnlyFiles

theorem onlyFiles_openFiles (keeper : Keeper) (sinks : Sinks) (directory : String) :
    OnlyFiles (openFiles keeper sinks directory : Action σ (Sinks × Except Fault Unit)) := by
  refine (OnlyFiles.attemptFiling _).bind fun made => ?_
  cases made with
  | error fault => exact .pure _
  | ok done =>
    refine (OnlyFiles.attemptFiling _).bind fun opened => ?_
    cases opened with
    | error fault => exact .pure _
    | ok place =>
      refine (OnlyFiles.attemptFiling _).bind fun opened => ?_
      cases opened with
      | error fault => exact .pure _
      | ok place => exact .pure _

variable {keeper : Keeper} {limit : Keeping → Nat} {sinks : Sinks} {outcome : Except Fault Unit}
  {verbosity : Verbosity} {given default : Value} {world : World σ}

theorem verbosity_of_openFiles {result : Sinks} {directory : String}
    (opens : ending (openFiles keeper sinks directory) world = .ok (result, outcome)) :
    result.verbosity = sinks.verbosity := by
  unfold openFiles at opens
  dsimp only at opens
  obtain ⟨made, -, opens⟩ := ending_bind_eq_ok_iff.1 opens
  cases made with
  | error fault =>
    cases opens
    rfl
  | ok done =>
    obtain ⟨debug, -, opens⟩ := ending_bind_eq_ok_iff.1 opens
    cases debug with
    | error fault =>
      cases opens
      rfl
    | ok place =>
      obtain ⟨structured, -, opens⟩ := ending_bind_eq_ok_iff.1 opens
      cases structured <;> cases opens <;> rfl

variable (keeper verbosity world) in
/-- What is left to do once the standing values are set and the directory is known. -/
theorem install_of_directory {found : Option String}
    (chosen : directory given default = .ok found) :
    let rest : Action σ (Sinks × Except Fault Unit) := match found with
      | none => pure (consoleOnly verbosity, .ok ())
      | some place => openFiles keeper (consoleOnly verbosity) place
    let prepared := { world with standing := Sinks.standing }
    ending (install keeper verbosity given default) world = ending rest prepared ∧
      after (install keeper verbosity given default) world = after rest prepared := by
  cases found <;>
    simp only [install, ending_bind, after_bind, ending_modify, after_modify,
      Action.ending_ofExcept, Action.after_ofExcept, chosen, mapError_ok, and_self]

/-- An installation that comes to an end, be it with an error of the operating system, has set the
verbosity and the standing values. -/
theorem install_spec
    (installs : ending (install keeper verbosity given default) world = .ok (sinks, outcome)) :
    sinks.verbosity = verbosity ∧
      (after (install keeper verbosity given default) world).extra
        = Fields.overlay standing world.scope := by
  cases chosen : directory given default with
  | error misuse => simp [install, ending_bind, chosen] at installs
  | ok found =>
    obtain ⟨ends, left⟩ := install_of_directory keeper verbosity world chosen
    rw [ends] at installs
    rw [left]
    cases found with
    | none =>
      cases installs
      exact ⟨rfl, rfl⟩
    | some place =>
      obtain ⟨files, filed⟩ := onlyFiles_openFiles keeper (consoleOnly verbosity) place
        { world with standing := Sinks.standing }
      refine ⟨verbosity_of_openFiles installs, ?_⟩
      dsimp only
      rw [filed]
      rfl

end Installing

section Writing

variable {sinks : Sinks} {time : String}

variable {keeper : Keeper} {limit : Keeping → Nat} {keeping : Keeping} {files : FileTree}
  {place other : Location} {content : ByteArray}

end Writing

end Sinks

end DiskFixture
