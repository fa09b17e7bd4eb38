import DiskFixture.Proofs.Log.Operation
import DiskFixture.Proofs.Value.Fields

/-!
Remarks: what an action logs, told by who logs it and with which keywords, while it is left open
among which extra values it becomes a record. Main statements: the remarks of an action are those of
its parts, one after the other, and those of a checked command are its announcement and at most one
about how it ended.
-/

namespace DiskFixture

variable {σ : Type} {α β : Type}

/-- The extra values of the records of a world, but for those of their loggers. -/
def World.extra (world : World σ) : Fields := Fields.overlay world.standing world.scope

structure Remark where
  logger : Logger
  level : Level
  message : String
  keywords : Fields

namespace Remark

/-- The record that a remark becomes where records have the extra values `base`. -/
def record (base : Fields) (remark : Remark) : Record :=
  ⟨remark.level, remark.message,
    Fields.overlay (Fields.overlay base remark.logger.bound) remark.keywords⟩

/-- The remark that a template makes, if it can be filled in. -/
def ofTemplate (logger : Logger) (level : Level) (template : String) (keywords : Fields) :
    List Remark :=
  match Logger.wording template keywords with
  | .ok message => [⟨logger, level, message, keywords⟩]
  | .error _ => []

theorem get?_record (base : Fields) (remark : Remark) (key : String) :
    (remark.record base).extra.get? key =
      (Fields.last? remark.keywords key).or
        ((Fields.last? remark.logger.bound key).or (base.get? key)) := by
  rw [record, Fields.get?_overlay, Fields.get?_overlay]

end Remark

/-- Whether an action logs these remarks and no others, and leaves the extra values of records as
they are. -/
structure Tells (action : Action σ α) (world : World σ) (remarks : List Remark) : Prop where
  records : (after action world).records
    = world.records ++ remarks.map (Remark.record world.extra)
  extra : (after action world).extra = world.extra

namespace Tells

variable {action : Action σ α} {next : α → Action σ β} {world : World σ}
  {front rest : List Remark} {result : α} {fault : Fault}

theorem of_quiet (silent : (after action world).records = world.records)
    (extra : (after action world).extra = world.extra) : Tells action world [] :=
  ⟨silent.trans (List.append_nil _).symm, extra⟩

theorem pure (result : α) (world : World σ) : Tells (pure result : Action σ α) world [] :=
  of_quiet rfl rfl

theorem throw (fault : Fault) (world : World σ) : Tells (throw fault : Action σ α) world [] :=
  of_quiet rfl rfl

theorem bind_of_ok (first : Tells action world front) (ends : ending action world = .ok result)
    (second : Tells (next result) (after action world) rest) :
    Tells (action >>= next) world (front ++ rest) := by
  refine ⟨?_, ?_⟩
  · rw [after_bind_of_ok ends, second.records, first.records, first.extra, List.map_append,
      List.append_assoc]
  · rw [after_bind_of_ok ends, second.extra, first.extra]

theorem bind_of_error (first : Tells action world front)
    (ends : ending action world = .error fault) : Tells (action >>= next) world front := by
  have left : after (action >>= next) world = after action world := by rw [after_bind, ends]
  exact ⟨left ▸ first.records, left ▸ first.extra⟩

theorem attempt (tells : Tells action world front) : Tells action.attempt world front := by
  obtain ⟨records, extra⟩ := tells
  rw [← Action.after_attempt] at records extra
  exact ⟨records, extra⟩

theorem fill (logger : Logger) (level : Level) (template : String) (keywords : Fields)
    (world : World σ) :
    Tells (logger.fill level template keywords) world
      (Remark.ofTemplate logger level template keywords) := by
  unfold Remark.ofTemplate
  cases worded : Logger.wording template keywords with
  | ok message =>
    obtain ⟨-, left⟩ := Logger.fill_of_wording logger level world worded
    constructor <;> rw [left] <;> rfl
  | error fault =>
    obtain ⟨-, left⟩ := Logger.fill_of_error logger level world worded
    exact of_quiet (congrArg World.records left) (congrArg World.extra left)

theorem log (logger : Logger) (level : Level) (message : String) (world : World σ) :
    Tells (logger.log level message) world [⟨logger, level, message, []⟩] :=
  fill logger level message [] world

end Tells

namespace Command

/-- The logger of what commands print. -/
def printer : Logger := Logger.command.bind [("stream", .text "output")]

def announcement (argv : List String) : Remark :=
  ⟨Logger.command, .debug, "Running command: " ++ " ".intercalate argv, []⟩

/-- What is told about the answer to a command. -/
def report (argv : List String) : Reply → List Remark
  | .failed (.system error) =>
    [⟨Logger.command, .error,
      "Command could not be started: " ++ " ".intercalate argv ++ ": " ++ error.message, []⟩]
  | .failed (.misuse _) => []
  | .exited status output =>
    if status.same (.int 0) then
      if output.isEmpty then []
      else [⟨printer, .trace, "output: " ++ Text.strip output, []⟩]
    else
      [⟨printer, .warning,
        "Command failed with code " ++ status.shown ++ ": " ++ Text.strip output, []⟩]

def remarks (argv : List String) (reply : Reply) : List Remark :=
  announcement argv :: report argv reply

section Voice

variable {argv : List String} {reply : Reply} {remark : Remark}

/-- What is told about an answer is an error of its own, or it is what the command printed. -/
theorem voice_of_mem_report (member : remark ∈ report argv reply) :
    remark.keywords = [] ∧
      (remark.logger = Logger.command ∧ remark.level = .error ∨
        remark.logger = printer ∧ (remark.level = .trace ∨ remark.level = .warning)) := by
  unfold report at member
  split at member
  · obtain rfl := List.mem_singleton.1 member
    exact ⟨rfl, .inl ⟨rfl, rfl⟩⟩
  · cases member
  · split at member
    · split at member
      · cases member
      · obtain rfl := List.mem_singleton.1 member
        exact ⟨rfl, .inr ⟨rfl, .inl rfl⟩⟩
    · obtain rfl := List.mem_singleton.1 member
      exact ⟨rfl, .inr ⟨rfl, .inr rfl⟩⟩

end Voice

/-- What a command tells that is given by values: nothing, unless they are words. -/
def remarksOf (host : Host σ) (scene : Scene σ) (values : List Value) : List Remark :=
  match words values with
  | .ok argv => remarks argv (scene.reply host argv)
  | .error _ => []

/-- What a command gives that is given by values. -/
def readingOf (host : Host σ) (scene : Scene σ) (values : List Value) : Except Fault String :=
  match words values with
  | .ok argv => reading argv (scene.reply host argv)
  | .error misuse => .error (.ofMisuse misuse)

/-- The scene that a command leaves that is given by values. -/
def sceneAfter (host : Host σ) (scene : Scene σ) (values : List Value) : Scene σ :=
  match words values with
  | .ok argv => scene.next host argv
  | .error _ => scene

theorem tells_conclude (argv : List String) (reply : Reply) (world : World σ) :
    Tells (conclude argv reply) world (report argv reply) := by
  cases reply with
  | failed fault =>
    cases fault with
    | system error => exact (Tells.log _ _ _ world).bind_of_ok rfl (.throw _ _)
    | misuse wrong => exact .throw _ world
  | exited status output =>
    unfold conclude report
    dsimp only
    split
    · split
      · exact .pure output world
      · exact (Tells.log _ _ _ world).bind_of_ok rfl (.pure _ _)
    · exact (Tells.log _ _ _ world).bind_of_ok rfl (.throw _ _)

section Run

variable (host : Host σ) (world : World σ)

theorem tells_run (argv : List String) :
    Tells (run host argv) world (remarks argv (world.scene.reply host argv)) := by
  have announces : Tells (announce argv) world [announcement argv] := .log _ _ _ world
  have executes : Tells (Action.execute host argv) (after (announce argv) world) [] :=
    .of_quiet rfl rfl
  have concludes := executes.bind_of_ok (ending_execute host argv _) (tells_conclude argv _ _)
  exact announces.bind_of_ok rfl concludes

theorem tells_runValues (values : List Value) :
    Tells (runValues host values) world (remarksOf host world.scene values) := by
  unfold runValues remarksOf
  cases words values with
  | ok argv => exact tells_run host world argv
  | error misuse => exact .throw _ world

theorem ending_runValues (values : List Value) :
    ending (runValues host values) world = readingOf host world.scene values := by
  unfold runValues readingOf
  cases words values with
  | ok argv => exact ending_run host argv world
  | error misuse => rfl

theorem scene_after_runValues (values : List Value) :
    (after (runValues host values) world).scene = sceneAfter host world.scene values := by
  unfold runValues sceneAfter
  cases words values with
  | ok argv => exact scene_after_run host argv world
  | error misuse => rfl

end Run

end Command

end DiskFixture
