import DiskFixture.Command
import DiskFixture.Proofs.Ending

/-!
Scenes: what a host acts on. A command is answered from the scene and leaves another one; a checked
command reads the answer. Main statements: what a checked command returns, and that a command that
failed is told apart from a call that could not be made.
-/

namespace DiskFixture

variable {σ : Type}

/-- The memory of the host and the files. -/
structure Scene (σ : Type) where
  memory : σ
  files : FileTree

def World.scene (world : World σ) : Scene σ := ⟨world.memory, world.files⟩

@[simp] theorem World.scene_files (world : World σ) : world.scene.files = world.files := rfl

namespace Reply

def succeeds : Reply → Bool
  | .exited status _ => status.same (.int 0)
  | .failed _ => false

def output : Reply → String
  | .exited _ output => output
  | .failed _ => ""

/-- Whether the call was wrong, so that there is neither an exit nor an error of the system to tell
of: a word held a null character, or the output was no text. -/
def isMisuse : Reply → Bool
  | .exited _ _ => false
  | .failed fault => fault.isMisuse

/-- What a command can answer whose words can be passed: it exits with a number, it cannot be
started, or what it printed is no text. -/
inductive IsAnswer : Reply → Prop
  | exited (status : Int) (output : String) : IsAnswer (.exited (.int status) output)
  | unstarted (error : SystemError) : IsAnswer (.failed (.system error))
  | garbled (fault : Text.Utf8.Fault) : IsAnswer (.failed (.misuse (.undecodable fault)))

/-- The answer of a command that printed a single byte, which starts no character. -/
def garbled : Reply := .failed (.misuse (.undecodable ⟨0, 1, 0xFF, .start⟩))

example : (match Text.Utf8.decode ⟨#[0xFF]⟩ with
    | .ok output => .exited (.int 0) output
    | .error fault => .failed (.misuse (.undecodable fault))) = garbled := by
  rfl

end Reply

/-- A call that went wrong, and no command and no file operation: over a null character, or over
output that is no text. -/
def Fault.IsOfCall (fault : Fault) : Prop :=
  fault = .ofMisuse .nullInPath ∨ ∃ wrong, fault = .ofMisuse (.undecodable wrong)

/-- What a host does that runs commands as processes and reads what they print as text. Words with a
null character cannot be passed, so nothing is run. What is refused is an error of the operating
system. -/
structure Host.Faithful (host : Host σ) : Prop where
  unpassed : ∀ memory files argv, argv.all FileTree.isNameable = false →
    host.run memory files argv = (.failed .nullInPath, memory, files)
  answers : ∀ memory files argv, argv.all FileTree.isNameable = true →
    (host.run memory files argv).1.IsAnswer
  refuse : ∀ memory operation path fault,
    (host.refuse memory operation path).1 = some fault → fault.isMisuse = false

def World.untouched : World Unit := ⟨(), .empty, [], [], [], [], [], 0, 0, 0, 0⟩

/-- An untouched world with files in the working directory. -/
def World.holding (files : List (String × ByteArray)) : World Unit :=
  { untouched with
    files := files.foldl (fun tree file => tree.put ["work", file.1] (.file file.2)) .empty }

/-- A host that keeps nothing in mind and refuses nothing: what a command answers, and what it does
to the files, is fixed. -/
def Host.fixed (answer : List String → Reply) (effect : List String → FileTree → FileTree) :
    Host Unit where
  run _ files argv :=
    if argv.all FileTree.isNameable then (answer argv, (), effect argv files)
    else (.failed .nullInPath, (), files)
  refuse _ _ _ := (none, ())
  hasTool _ _ := true
  identifier := toString
  temporary := toString
  temporaryDirectory := ""
  retries := 0
  exhausted := id
  clock _ := 0
  memory := 68719476735

theorem Host.faithful_fixed {answer : List String → Reply}
    {effect : List String → FileTree → FileTree} (proper : ∀ argv, (answer argv).IsAnswer) :
    (Host.fixed answer effect).Faithful where
  unpassed _ _ _ nameless := if_neg (Bool.eq_false_iff.1 nameless)
  answers _ files argv nameable := by
    have runs : (fixed answer effect).run () files argv = (answer argv, (), effect argv files) :=
      if_pos nameable
    exact runs ▸ proper argv
  refuse memory operation path fault refused := nomatch refused

/-- The answer of a command that does well: a device is printed for an attachment, and an identifier
for a device node. -/
def Reply.usual (argv : List String) : Reply :=
  .exited (.int 0) <| match argv with
    | "losetup" :: _ => "/dev/loop0\n"
    | "blkid" :: _ => "PARTUUID=\"0f5c2a9e-8f0b-4b8e-9d4a-1c2b3d4e5f60\"\n"
    | _ => ""

theorem Reply.isAnswer_usual (argv : List String) : (usual argv).IsAnswer := .exited 0 _

def Host.obliging : Host Unit := .fixed .usual fun _ files => files

theorem Host.faithful_obliging : obliging.Faithful := faithful_fixed Reply.isAnswer_usual

/-- What commands do that write an empty image in the working directory and nothing else. -/
def Host.imaging : List String → FileTree → FileTree
  | "dd" :: _ :: target :: _, files =>
    files.put ["work", String.ofList (target.toList.drop "of=".length)] (.file .empty)
  | _, files => files

def Host.writing : Host Unit := .fixed .usual imaging

/-- A host that writes an image, but then neither formats it nor releases a device. -/
def Host.stuck : Host Unit :=
  .fixed
    (fun argv => match argv with
      | "mkfs.ext4" :: _ | "losetup" :: "-d" :: _ => .exited (.int 1) "busy"
      | _ => .usual argv)
    imaging

/-- A host that does well, except that what is printed by commands with these first words is no
text. -/
def Host.garbling (front : List String) : Host Unit :=
  .fixed (fun argv => if front.isPrefixOf argv then .garbled else .usual argv) imaging

theorem Host.faithful_garbling (front : List String) : (garbling front).Faithful := by
  refine faithful_fixed fun argv => ?_
  split
  · exact .garbled _
  · exact Reply.isAnswer_usual argv

namespace Scene

def reply (host : Host σ) (scene : Scene σ) (argv : List String) : Reply :=
  (host.run scene.memory scene.files argv).1

def next (host : Host σ) (scene : Scene σ) (argv : List String) : Scene σ :=
  ⟨(host.run scene.memory scene.files argv).2.1, (host.run scene.memory scene.files argv).2.2⟩

/-- The scene that commands leave, issued one after the other. -/
def through (host : Host σ) (scene : Scene σ) (commands : List (List String)) : Scene σ :=
  commands.foldl (next host) scene

@[simp] theorem through_nil (host : Host σ) (scene : Scene σ) :
    scene.through host [] = scene := rfl

@[simp] theorem through_cons (host : Host σ) (scene : Scene σ) (argv : List String)
    (rest : List (List String)) :
    scene.through host (argv :: rest) = (scene.next host argv).through host rest := rfl

theorem through_append (host : Host σ) (scene : Scene σ) (front rest : List (List String)) :
    scene.through host (front ++ rest) = (scene.through host front).through host rest :=
  List.foldl_append

end Scene

@[simp] theorem Logger.scene_noted (logger : Logger) (level : Level) (message : String)
    (world : World σ) : (logger.noted level message world).scene = world.scene := rfl

/-- What is tolerated leaves what it leaves otherwise, but for records. -/
theorem alike_after_tolerate {α : Type} (logger : Logger) (describe : Fault → String)
    (action : Action σ α) (world : World σ) :
    let left := after (tolerate logger describe action) world
    left.scene = (after action world).scene ∧ left.commands = (after action world).commands ∧
      left.settings = (after action world).settings := by
  dsimp only
  rw [after_tolerate]
  cases ending action world with
  | ok result => exact ⟨rfl, rfl, rfl⟩
  | error fault =>
    dsimp only
    split <;> exact ⟨rfl, rfl, rfl⟩

namespace Command

/-- What an answer means: the output of the command, or why it failed. -/
def reading (argv : List String) : Reply → Except Fault String
  | .failed (.system error) =>
    .error (.dueTo (.command argv .null (.text error.message)) (.ofSystem error))
  | .failed (.misuse wrong) => .error (.ofMisuse wrong)
  | .exited status output =>
    if status.same (.int 0) then .ok output
    else .error (.ofProblem (.command argv status (.text output)))

theorem reading_eq_ok_iff {argv : List String} {reply : Reply} {output : String} :
    reading argv reply = .ok output ↔ reply.succeeds = true ∧ reply.output = output := by
  cases reply with
  | exited status printed =>
    by_cases zero : status.same (.int 0) = true <;>
      simp [reading, Reply.succeeds, Reply.output, zero]
  | failed fault => cases fault <;> simp [reading, Reply.succeeds]

theorem reading_of_succeeds (argv : List String) {reply : Reply} (success : reply.succeeds = true) :
    reading argv reply = .ok reply.output :=
  reading_eq_ok_iff.2 ⟨success, rfl⟩

theorem not_succeeds_of_reading {argv : List String} {reply : Reply} {fault : Fault}
    (reads : reading argv reply = .error fault) : reply.succeeds = false := by
  cases success : reply.succeeds with
  | false => rfl
  | true => simp [reading_of_succeeds argv success] at reads

theorem reading_of_not_succeeds (argv : List String) {reply : Reply}
    (failure : reply.succeeds = false) : ∃ fault, reading argv reply = .error fault := by
  cases reads : reading argv reply with
  | error fault => exact ⟨fault, rfl⟩
  | ok output => simp [(reading_eq_ok_iff.1 reads).1] at failure

/-- A command that was started in vain, or not at all, is a fault about this very command; a call
that was wrong is a fault of its own. -/
theorem reading_cases {argv : List String} {reply : Reply} {fault : Fault}
    (fails : reading argv reply = .error fault) :
    (reply.isMisuse = false ∧ fault.problem.isCommand = true) ∨
      ∃ wrong, reply = .failed (.misuse wrong) ∧ fault = .ofMisuse wrong := by
  unfold reading at fails
  split at fails
  · cases fails
    exact .inl ⟨rfl, rfl⟩
  · rename_i wrong
    cases fails
    exact .inr ⟨wrong, rfl, rfl⟩
  · split at fails <;> cases fails
    exact .inl ⟨rfl, rfl⟩

theorem isMisuse_of_reading {argv : List String} {reply : Reply} {fault : Fault}
    (fails : reading argv reply = .error fault) :
    reply.isMisuse = !fault.problem.isCommand := by
  rcases reading_cases fails with ⟨proper, command⟩ | ⟨wrong, rfl, rfl⟩
  · rw [proper, command]
    rfl
  · rfl

section Run

variable (host : Host σ) (argv : List String) (world : World σ)

theorem ending_conclude (reply : Reply) :
    ending (conclude argv reply) world = reading argv reply := by
  cases reply with
  | exited status output =>
    by_cases zero : status.same (.int 0) = true <;> by_cases empty : output.isEmpty = true <;>
      simp [conclude, reading, ending_bind, Except.map, zero, empty]
  | failed fault => cases fault <;> simp [conclude, reading, ending_bind]

theorem after_conclude (reply : Reply) :
    (after (conclude argv reply) world).scene = world.scene ∧
      (after (conclude argv reply) world).commands = world.commands ∧
      (after (conclude argv reply) world).settings = world.settings := by
  cases reply with
  | exited status output =>
    by_cases zero : status.same (.int 0) = true <;> by_cases empty : output.isEmpty = true <;>
      simp [conclude, after_bind, zero, empty]
  | failed fault => cases fault <;> simp [conclude, after_bind]

@[simp] theorem ending_execute :
    ending (Action.execute host argv) world = .ok (world.scene.reply host argv) := rfl

@[simp] theorem scene_after_execute :
    (after (Action.execute host argv) world).scene = world.scene.next host argv := rfl

@[simp] theorem commands_after_execute :
    (after (Action.execute host argv) world).commands = world.commands ++ [argv] := rfl

@[simp] theorem settings_after_execute :
    (after (Action.execute host argv) world).settings = world.settings := rfl

@[simp] theorem ending_run :
    ending (run host argv) world = reading argv (world.scene.reply host argv) := by
  simp [run, announce, ending_bind, ending_conclude]

@[simp] theorem scene_after_run :
    (after (run host argv) world).scene = world.scene.next host argv := by
  simp [run, announce, after_bind, after_conclude]

@[simp] theorem commands_after_run :
    (after (run host argv) world).commands = world.commands ++ [argv] := by
  simp [run, announce, after_bind, after_conclude]

@[simp] theorem settings_after_run :
    (after (run host argv) world).settings = world.settings := by
  simp [run, announce, after_bind, after_conclude]

end Run

end Command

namespace Host.Faithful

variable {host : Host σ} (faithful : host.Faithful) {scene : Scene σ} {argv : List String}
  {fault : Fault}
include faithful

theorem fault_of_run {memory : σ} {files : FileTree} {wrong : Misuse}
    (answers : (host.run memory files argv).1 = .failed (.misuse wrong)) :
    (argv.all FileTree.isNameable = false ∧ wrong = .nullInPath) ∨
      ∃ fault, wrong = .undecodable fault := by
  cases nameable : argv.all FileTree.isNameable with
  | false =>
    rw [faithful.unpassed _ _ _ nameable] at answers
    cases answers
    exact .inl ⟨rfl, rfl⟩
  | true =>
    have proper := faithful.answers memory files argv nameable
    rw [answers] at proper
    cases proper with
    | garbled fault => exact .inr ⟨fault, rfl⟩

/-- A command fails as a command, or its call goes wrong: over a word that cannot be passed, or over
output that is no text. -/
theorem fault_of_reading (fails : Command.reading argv (scene.reply host argv) = .error fault) :
    fault.problem.isCommand = true ∨
      (argv.all FileTree.isNameable = false ∧ fault = .ofMisuse .nullInPath) ∨
      ∃ wrong, fault = .ofMisuse (.undecodable wrong) := by
  rcases Command.reading_cases fails with ⟨-, command⟩ | ⟨wrong, answers, rfl⟩
  · exact .inl command
  · rcases faithful.fault_of_run answers with ⟨nameless, rfl⟩ | ⟨other, rfl⟩
    · exact .inr (.inl ⟨nameless, rfl⟩)
    · exact .inr (.inr ⟨other, rfl⟩)

theorem isOfCall_of_reply {wrong : Misuse}
    (answers : scene.reply host argv = .failed (.misuse wrong)) :
    (Fault.ofMisuse wrong).IsOfCall := by
  rcases faithful.fault_of_run answers with ⟨-, rfl⟩ | ⟨fault, rfl⟩
  · exact .inl rfl
  · exact .inr ⟨fault, rfl⟩

end Host.Faithful

end DiskFixture
