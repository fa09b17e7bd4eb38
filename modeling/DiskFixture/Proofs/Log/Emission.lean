import DiskFixture.Log.Sink
import DiskFixture.Proofs.Log.Remark

/-!
Emissions: what the loggers that are handed out and the checked commands log. Main statements: the
records of emissions are their remarks among the extra values that they find, and where these have
their tags, their source and their job, so have the records.
-/

namespace DiskFixture

variable {σ : Type}

namespace Fields

/-- A named value that the sinks can show: tags are listed, and the source and the job are texts. -/
structure IsShowable (entry : String × Value) : Prop where
  tags : entry.1 = "tags" → ∃ items, entry.2 = .list items
  source : entry.1 = "source" → ∃ content, entry.2 = .text content
  job : entry.1 = "job_id" → ∃ content, entry.2 = .text content

/-- Extra values with tags, a source and a job that the sinks can show. -/
structure IsPresentable (extra : Fields) : Prop where
  tags : ∃ value, extra.get? "tags" = some value ∧ ∃ items, value = .list items
  source : ∃ value, extra.get? "source" = some value ∧ ∃ content, value = .text content
  job : ∃ value, extra.get? "job_id" = some value ∧ ∃ content, value = .text content

theorem exists_get?_overlay {base upper : Fields} {key : String} {P : Value → Prop}
    (below : ∃ value, base.get? key = some value ∧ P value)
    (above : ∀ value, (key, value) ∈ upper → P value) :
    ∃ value, (overlay base upper).get? key = some value ∧ P value := by
  rw [get?_overlay]
  cases last : last? upper key with
  | none => exact below
  | some value => exact ⟨value, rfl, above value (mem_of_last? last)⟩

theorem IsPresentable.overlay {base upper : Fields} (presentable : base.IsPresentable)
    (showable : ∀ entry ∈ upper, IsShowable entry) :
    (Fields.overlay base upper).IsPresentable := by
  obtain ⟨tags, source, job⟩ := presentable
  refine ⟨?_, ?_, ?_⟩
  · exact exists_get?_overlay tags fun value member => (showable _ member).tags rfl
  · exact exists_get?_overlay source fun value member => (showable _ member).source rfl
  · exact exists_get?_overlay job fun value member => (showable _ member).job rfl

end Fields

namespace Sinks

/-- Who speaks: a logger bound to what is named of a context, or one of the library's own. -/
inductive Speaker where
  | context (job : Option String) (tags : Option (List Value)) (source : Option String)
  | disk (job : String)
  | partition (job : String)
  | verify
  | command

/-- What is logged: a message, perhaps as belonging to a stream, or a command and how it ended. -/
inductive Emission where
  | message (speaker : Speaker) (stream : Option Value) (level : Level) (content : String)
  | command (argv : List String) (reply : Reply)

def Speaker.logger : Speaker → Logger
  | .context job tags source => .ofContext (job.map .text) tags (source.map .text)
  | .disk job => .disk (.text job)
  | .partition job => .partition (.text job)
  | .verify => .verify
  | .command => .command

def Emission.act : Emission → Action σ Unit
  | .message speaker stream level content =>
    (speaker.logger.bind (stream.toList.map fun value => ("stream", value))).log level content
  | .command argv reply => do
    Command.announce argv
    let _ ← Action.attempt (Command.conclude argv reply)

section Emission

open Fields

/-- What an emission tells. -/
def Emission.remarks : Emission → List Remark
  | .message speaker stream level content =>
    [⟨speaker.logger.bind (stream.toList.map fun value => ("stream", value)), level, content, []⟩]
  | .command argv reply => Command.remarks argv reply

theorem Emission.tells (emission : Emission) (world : World σ) :
    Tells emission.act world emission.remarks := by
  cases emission with
  | message speaker stream level content => exact .log _ level content world
  | command argv reply =>
    have announces : Tells (Command.announce argv) world [Command.announcement argv] :=
      .log _ _ _ world
    have concludes : Tells (Action.attempt (Command.conclude argv reply) >>= fun _ => pure ())
        (after (Command.announce argv) world) (Command.report argv reply) := by
      rw [← List.append_nil (Command.report argv reply)]
      exact (Command.tells_conclude argv reply _).attempt.bind_of_ok (Action.ending_attempt _ _)
        (.pure () _)
    exact announces.bind_of_ok rfl concludes

/-- The world after some emissions. -/
def emit (world : World σ) (emissions : List Emission) : World σ :=
  emissions.foldl (fun world emission => after emission.act world) world

end Emission

end Sinks

end DiskFixture
