import DiskFixture.Proofs.PartitionFile.Filling

/-!
The course of making a partition file. Main statements: which commands are issued, and when the path
of the file or of its archive is returned; and that an archive directly follows the release of the
mount, whatever the commands of the release answer.
-/

namespace DiskFixture

variable {σ : Type} {host : Host σ}

theorem Plan.fulfils_must (scene : Scene σ) {commands : List (List String)}
    (willing : ∀ scene : Scene σ, ∀ argv ∈ commands, (scene.reply host argv).succeeds = true) :
    fulfils host scene (commands.map must) = true := by
  induction commands generalizing scene with
  | nil => rfl
  | cons argv rest ih =>
    have first : (scene.reply host argv).succeeds = true := willing scene argv List.mem_cons_self
    have later := ih (scene.next host argv) fun scene argv inside =>
      willing scene argv (List.mem_cons_of_mem _ inside)
    rw [List.map_cons, fulfils, Bool.and_eq_true]
    exact ⟨first, later⟩

namespace PartitionFile

section Archive

variable (host) (path : String) (world : World σ) {words : List String}
  (typed : Settings.lookup world.settings "archive_command" Settings.archiveDefault
    = .ofTexts words)

include typed

omit host in
theorem archiveCommand_of_texts :
    archiveCommand world.settings (.text path) = .ok (words ++ [path]) := by
  have argv : words.map Value.text ++ [.text path] = (words ++ [path]).map .text := by simp
  unfold archiveCommand
  rw [typed]
  simp only [Value.ofTexts, Value.items?]
  rw [argv]
  exact Command.wordsFrom_map_text 0 _

theorem archive_spec :
    let argv := words ++ [path]
    ending (archive host (.text path)) world
        = (Command.reading argv (world.scene.reply host argv)).map
            (fun _ => Path.normalize (path ++ ".gz")) ∧
      (after (archive host (.text path)) world).commands = world.commands ++ [argv] := by
  have command := archiveCommand_of_texts path world typed
  constructor
  · simp only [archive, ending_bind, ending_get, after_get, command, Action.ending_ofExcept,
      mapError_ok, Action.after_ofExcept, Command.ending_run]
    cases Command.reading (words ++ [path]) (world.scene.reply host (words ++ [path])) <;> rfl
  · simp only [archive, after_bind, ending_get, after_get, command, Action.ending_ofExcept,
      mapError_ok, Action.after_ofExcept, Command.ending_run]
    cases Command.reading (words ++ [path]) (world.scene.reply host (words ++ [path])) <;> simp

def deliver (host : Host σ) (path : String) (wantsArchive : Bool) : Action σ (Option String) :=
  if wantsArchive then do
    let archived ← archive host (.text path)
    Logger.ownPartition.log .info ("Created " ++ archived)
    return some archived
  else return none

theorem deliver_spec :
    let argv := words ++ [path]
    ending (deliver host path true) world
        = (Command.reading argv (world.scene.reply host argv)).map
            (fun _ => some (Path.normalize (path ++ ".gz"))) ∧
      (after (deliver host path true) world).commands = world.commands ++ [argv] := by
  obtain ⟨ends, commands⟩ := archive_spec host path world typed
  dsimp only at ends commands ⊢
  cases reads : Command.reading (words ++ [path])
    (world.scene.reply host (words ++ [path])) <;>
    simp [deliver, ending_bind, after_bind, ends, reads, commands, Except.map]

end Archive

/-- An archive has the path of the file with an ending. -/
theorem eq_of_deliver {path : String} {world : World σ} {archived : Option String}
    (ends : ending (deliver host path true) world = .ok archived) :
    archived = some (Path.normalize (path ++ ".gz")) := by
  obtain ⟨text, archives, returns⟩ := ending_bind_eq_ok_iff.1 ends
  obtain ⟨before, -, commands⟩ := ending_bind_eq_ok_iff.1 archives
  obtain ⟨argv, -, runs⟩ := ending_bind_eq_ok_iff.1 commands
  obtain ⟨output, -, same⟩ := ending_bind_eq_ok_iff.1 runs
  cases same
  cases returns
  rfl

section Create

variable (host) (path filesystem : String) (size : Value)
  (creator : Option (String → Action σ Unit)) (wantsArchive : Bool) (world : World σ)

/-- All steps but the archive. -/
def complete : Action σ Unit := do
  make host path filesystem size
  fill host path creator

theorem assemble_eq :
    assemble host path filesystem size creator wantsArchive =
      complete host path filesystem size creator >>= fun _ => deliver host path wantsArchive := by
  cases creator <;> simp only [assemble, complete, make, fill, deliver, bind_assoc] <;> rfl

theorem complete_of_not_fulfils
    (unmet : Plan.fulfils host world.scene (Plan.ofFile path filesystem size) = false) :
    (∃ fault, ending (complete host path filesystem size creator) world = .error fault) ∧
      (after (complete host path filesystem size creator) world).commands
        = world.commands ++ Plan.issued host world.scene (Plan.ofFile path filesystem size) := by
  have performs := performs_make host path filesystem size world
  rw [complete, ending_bind, after_bind]
  cases ends : ending (make host path filesystem size) world with
  | ok done =>
    have met := Plan.verdict_eq_ok_iff.1 (performs.verdict_of_ok ends)
    rw [unmet] at met
    cases met
  | error fault => exact ⟨⟨fault, rfl⟩, performs.commands⟩

/-- Where a file is made, all steps but the archive go well if and only if it is filled. -/
theorem complete_of_fulfils
    (met : Plan.fulfils host world.scene (Plan.ofFile path filesystem size) = true) :
    let plan := Plan.ofFile path filesystem size
    let made := after (make host path filesystem size) world
    made.commands = world.commands ++ plan.map (·.argv) ∧
      made.scene = world.scene.through host (plan.map (·.argv)) ∧
      made.settings = world.settings ∧
      Fills host path made creator (after (complete host path filesystem size creator) world)
        (ending (complete host path filesystem size creator) world).isOk := by
  have performs := performs_make host path filesystem size world
  have good := Plan.verdict_eq_ok_iff.2 met
  refine ⟨?_, ?_, performs.settings, ?_⟩
  · rw [performs.commands, Plan.issued_of_ok good]
  · rw [performs.scene, Plan.issued_of_ok good]
  · rw [complete, ending_bind, after_bind]
    cases ends : ending (make host path filesystem size) world with
    | ok done => exact fills_fill path host creator _
    | error fault =>
      rw [performs.verdict_of_error ends] at good
      cases good

def announced : World σ :=
  Logger.ownPartition.noted .debug ("Creating " ++ filesystem ++ " partition file " ++ path
    ++ " (" ++ size.shown ++ " MiB)") world

/-- What becomes of a fault of a tool or of the file system. -/
def buildFault (path : String) (cause : Fault) : Fault :=
  .dueTo (.build (.text ("Failed to create partition file " ++ path ++ ": " ++ cause.message))
    (.text path)) cause

/-- What cannot be named or written is refused, and then nothing is run or logged. -/
theorem request_of_refused :
    (∀ value wrong, value.asPath = .error wrong →
      ending (request host value filesystem size creator wantsArchive) world
          = .error (.ofMisuse wrong) ∧
        after (request host value filesystem size creator wantsArchive) world = world) ∧
    (size.isWritable = false →
      ending (request host (.text path) filesystem size creator wantsArchive) world
          = .error (.ofMisuse .unwritableInteger) ∧
        after (request host (.text path) filesystem size creator wantsArchive) world = world) := by
  constructor
  · intro value wrong pathless
    simp [request, ending_bind, after_bind, pathless]
  · intro unwritable
    simp [request, checkSize, Value.asPath, ending_bind, after_bind, unwritable]

section Writable

variable (writable : size.isWritable = true)
include writable

/-- Where a step fails, nothing is returned, and nothing is run after it. -/
theorem request_of_error {fault : Fault}
    (fails : ending (assemble host path filesystem size creator wantsArchive)
      (announced path filesystem size world) = .error fault) :
    ending (request host (.text path) filesystem size creator wantsArchive) world
        = .error (if fault.problem.isBuild then fault
            else if fault.problem.isOperational then buildFault path fault else fault) ∧
      (after (request host (.text path) filesystem size creator wantsArchive) world).commands
        = (after (assemble host path filesystem size creator wantsArchive)
            (announced path filesystem size world)).commands := by
  rw [announced] at fails ⊢
  cases build : fault.problem.isBuild <;> cases operational : fault.problem.isOperational <;>
    simp [request, checkSize, Value.asPath, buildFault, ending_bind, after_bind, writable, fails,
      build, operational]

theorem request_of_ok {archived : Option String}
    (ends : ending (assemble host path filesystem size creator wantsArchive)
      (announced path filesystem size world) = .ok archived) :
    ending (request host (.text path) filesystem size creator wantsArchive) world
        = .ok (archived.getD (Path.normalize path)) ∧
      (after (request host (.text path) filesystem size creator wantsArchive) world).commands
        = (after (assemble host path filesystem size creator wantsArchive)
            (announced path filesystem size world)).commands := by
  rw [announced] at ends ⊢
  cases archived <;>
    simp [request, checkSize, Value.asPath, ending_bind, after_bind, writable, ends, Except.map]

theorem request_of_incomplete {fault : Fault}
    (fails : ending (complete host path filesystem size creator)
      (announced path filesystem size world) = .error fault) :
    (∃ other, ending (request host (.text path) filesystem size creator wantsArchive) world
        = .error other) ∧
      (after (request host (.text path) filesystem size creator wantsArchive) world).commands
        = (after (complete host path filesystem size creator)
            (announced path filesystem size world)).commands := by
  have ends : ending (assemble host path filesystem size creator wantsArchive)
      (announced path filesystem size world) = .error fault := by
    rw [assemble_eq, ending_bind, fails]
  obtain ⟨errs, commands⟩ :=
    request_of_error host path filesystem size creator wantsArchive world writable ends
  rw [assemble_eq, after_bind, fails] at commands
  exact ⟨⟨_, errs⟩, commands⟩

theorem request_unarchived
    (completes : ending (complete host path filesystem size creator)
      (announced path filesystem size world) = .ok ()) :
    ending (request host (.text path) filesystem size creator false) world
        = .ok (Path.normalize path) ∧
      (after (request host (.text path) filesystem size creator false) world).commands
        = (after (complete host path filesystem size creator)
            (announced path filesystem size world)).commands := by
  have ends : ending (assemble host path filesystem size creator false)
      (announced path filesystem size world) = .ok none := by
    rw [assemble_eq, ending_bind, completes]
    rfl
  obtain ⟨returns, commands⟩ :=
    request_of_ok host path filesystem size creator false world writable ends
  rw [assemble_eq, after_bind, completes] at commands
  exact ⟨returns, commands⟩

/-- An archive is the last command, and then its answer alone decides. -/
theorem request_archived {words : List String}
    (completes : ending (complete host path filesystem size creator)
      (announced path filesystem size world) = .ok ())
    (typed : Settings.lookup (after (complete host path filesystem size creator)
      (announced path filesystem size world)).settings "archive_command" Settings.archiveDefault
        = .ofTexts words) :
    let full := after (complete host path filesystem size creator)
      (announced path filesystem size world)
    let ends := ending (request host (.text path) filesystem size creator true) world
    let success := (full.scene.reply host (words ++ [path])).succeeds
    (after (request host (.text path) filesystem size creator true) world).commands
        = full.commands ++ [words ++ [path]] ∧
      (success = true → ends = .ok (Path.normalize (path ++ ".gz"))) ∧
      (success = false → ∃ fault, ends = .error fault) := by
  obtain ⟨delivers, issued⟩ := deliver_spec host path _ typed
  dsimp only
  generalize full : after (complete host path filesystem size creator)
    (announced path filesystem size world) = filled at *
  have both : ending (assemble host path filesystem size creator true)
        (announced path filesystem size world) = ending (deliver host path true) filled ∧
      (after (assemble host path filesystem size creator true)
        (announced path filesystem size world)) = after (deliver host path true) filled := by
    rw [assemble_eq, ending_bind, after_bind, completes, full]
    exact ⟨rfl, rfl⟩
  rw [delivers] at both
  cases reads : Command.reading (words ++ [path])
    (filled.scene.reply host (words ++ [path])) with
  | ok output =>
    rw [reads] at both
    obtain ⟨returns, commands⟩ :=
      request_of_ok host path filesystem size creator true world writable both.1
    refine ⟨commands.trans (by rw [both.2, issued]), fun _ => returns, fun failure => ?_⟩
    rw [(Command.reading_eq_ok_iff.1 reads).1] at failure
    cases failure
  | error fault =>
    rw [reads] at both
    obtain ⟨errs, commands⟩ :=
      request_of_error host path filesystem size creator true world writable both.1
    refine ⟨commands.trans (by rw [both.2, issued]), fun success => ?_, fun _ => ⟨_, errs⟩⟩
    rw [Command.not_succeeds_of_reading reads] at success
    cases success

end Writable

/-- Whatever it takes, the path that is returned is that of the file or of its archive. -/
theorem eq_of_request {returned : String}
    (ends : ending (request host (.text path) filesystem size creator wantsArchive) world
      = .ok returned) :
    returned = Path.normalize (if wantsArchive then path ++ ".gz" else path) := by
  cases writable : size.isWritable with
  | false =>
    obtain ⟨-, refused⟩ := request_of_refused host path filesystem size creator wantsArchive world
    cases (refused writable).1.symm.trans ends
  | true =>
    cases assembles : ending (assemble host path filesystem size creator wantsArchive)
      (announced path filesystem size world) with
    | error fault =>
      cases (request_of_error host path filesystem size creator wantsArchive world writable
        assembles).1.symm.trans ends
    | ok archived =>
      cases (request_of_ok host path filesystem size creator wantsArchive world writable
        assembles).1.symm.trans ends
      rw [assemble_eq] at assembles
      obtain ⟨done, -, delivers⟩ := ending_bind_eq_ok_iff.1 assembles
      cases wantsArchive with
      | false =>
        cases delivers
        rfl
      | true =>
        obtain rfl := eq_of_deliver delivers
        rfl

end Create

/-- The course of making a partition file. What cannot be named or written is refused. Otherwise the
file is made, filled if there is a creator, and archived if that is wanted, each step only where all
before it went well, and a path is returned if and only if all of them did. Of the release of a
mount, nothing is demanded but that its calls go right. -/
theorem request_trace (host : Host σ) (path filesystem : String) (size : Value)
    (creator : Option (String → Action σ Unit)) (wantsArchive : Bool) (world : World σ) :
    let ends := ending (request host (.text path) filesystem size creator wantsArchive) world
    let commands :=
      (after (request host (.text path) filesystem size creator wantsArchive) world).commands
    let plan := Plan.ofFile path filesystem size
    let made := after (make host path filesystem size) (announced path filesystem size world)
    let full := after (complete host path filesystem size creator)
      (announced path filesystem size world)
    (size.isWritable = false →
      ends = .error (.ofMisuse .unwritableInteger) ∧ commands = world.commands) ∧
    (size.isWritable = true → Plan.fulfils host world.scene plan = false →
      (∃ fault, ends = .error fault) ∧
        commands = world.commands ++ Plan.issued host world.scene plan) ∧
    (size.isWritable = true → Plan.fulfils host world.scene plan = true →
      made.commands = world.commands ++ plan.map (·.argv) ∧
      made.scene = world.scene.through host (plan.map (·.argv)) ∧
      made.settings = world.settings ∧
      ∃ filled, Fills host path made creator full filled ∧
        (filled = false → (∃ fault, ends = .error fault) ∧ commands = full.commands) ∧
        (filled = true → wantsArchive = false →
          ends = .ok (Path.normalize path) ∧ commands = full.commands) ∧
        (filled = true → wantsArchive = true → ∀ words,
          Settings.lookup full.settings "archive_command" Settings.archiveDefault
            = .ofTexts words →
          let success := (full.scene.reply host (words ++ [path])).succeeds
          commands = full.commands ++ [words ++ [path]] ∧
            (success = true → ends = .ok (Path.normalize (path ++ ".gz"))) ∧
            (success = false → ∃ fault, ends = .error fault))) := by
  refine ⟨fun unwritable => ?_, fun writable unmet => ?_, fun writable met => ?_⟩
  · obtain ⟨-, refused⟩ := request_of_refused host path filesystem size creator wantsArchive world
    obtain ⟨ends, left⟩ := refused unwritable
    exact ⟨ends, congrArg World.commands left⟩
  · obtain ⟨⟨fault, fails⟩, commands⟩ := complete_of_not_fulfils host path filesystem size creator
      (announced path filesystem size world) unmet
    obtain ⟨errs, issued⟩ := request_of_incomplete host path filesystem size creator wantsArchive
      world writable fails
    exact ⟨errs, issued.trans commands⟩
  · obtain ⟨commands, scene, settings, fills⟩ := complete_of_fulfils host path filesystem size
      creator (announced path filesystem size world) met
    refine ⟨commands, scene, settings, _, fills, fun failure => ?_, fun success bare => ?_,
      fun success wanted words typed => ?_⟩
    · obtain ⟨fault, incomplete⟩ := exists_error_of_isOk failure
      exact request_of_incomplete host path filesystem size creator wantsArchive world writable
        incomplete
    · obtain ⟨done, completes⟩ := exists_ok_of_isOk success
      subst bare
      exact request_unarchived host path filesystem size creator world writable completes
    · obtain ⟨done, completes⟩ := exists_ok_of_isOk success
      subst wanted
      exact request_archived host path filesystem size creator world writable completes typed

/-- A file that is not filled is archived, and the path of the archive is returned. -/
theorem request_trace_obliging :
    ending (request .obliging (.text "part.img") "ext4" (.int 8) none true) .untouched
        = .ok "part.img.gz" ∧
      (after (request .obliging (.text "part.img") "ext4" (.int 8) none true)
        .untouched).commands
        = [["dd", "if=/dev/zero", "of=part.img", "bs=1M", "count=8"],
          ["mkfs.ext4", "part.img"],
          ["gzip", "-k", "-f", "part.img"]] := by
  obtain ⟨-, -, trace⟩ := request_trace .obliging "part.img" "ext4" (.int 8) none true .untouched
  obtain ⟨made, -, settings, filled, fills, -, -, archived⟩ :=
    trace (by decide +kernel) (by decide +kernel)
  obtain ⟨same, rfl⟩ := fills.of_none
  have typed : Settings.lookup World.untouched.settings "archive_command" Settings.archiveDefault
      = .ofTexts ["gzip", "-k", "-f"] := rfl
  rw [same, settings, made] at archived
  obtain ⟨commands, returns, -⟩ := archived rfl rfl _ typed
  exact ⟨(returns rfl).trans (congrArg Except.ok (by decide +kernel)),
    commands.trans (by decide +kernel)⟩

/-- Output of a flush that is no text leaves the image mounted: it is not unmounted, and the file is
not returned. -/
theorem request_garbled :
    (match ending (request (.garbling ["sync"]) (.text "part.img") "ext4" (.int 8)
        (some fun _ => pure ()) false) .untouched with
      | .ok _ => ""
      | .error fault => fault.kind) = "UnicodeDecodeError" ∧
    (after (request (.garbling ["sync"]) (.text "part.img") "ext4" (.int 8)
        (some fun _ => pure ()) false) .untouched).commands
      = [["dd", "if=/dev/zero", "of=part.img", "bs=1M", "count=8"],
        ["mkfs.ext4", "part.img"],
        ["mount", "part.img", "um_mount1"],
        ["sync"]] := by
  constructor <;> decide +kernel

/-- An archive of a file that is filled is the last command, and the two in front of it are those
that flush and unmount behind the creator; or the size was refused, or a step in front of the
archive failed, and then there is none. Neither of the two need go well for the archive, but both do
on a host where they always do. -/
theorem archive_follows_release (host : Host σ) (path filesystem : String)
    (size : Value) (creator : String → Action σ Unit) (world : World σ) :
    let commands := (after (request host (.text path) filesystem size (some creator) true)
      world).commands
    let start := announced path filesystem size world
    let action := complete host path filesystem size (some creator)
    (size.isWritable = false ∧ commands = world.commands) ∨
    ((∃ fault, ending action start = .error fault) ∧ commands = (after action start).commands) ∨
    ∃ point before,
      before.commands = world.commands ++ (Plan.ofFile path filesystem size).map (·.argv)
        ++ [Mount.mounting path point] ∧
      before.settings = world.settings ∧
      (ending (creator point) before).isOk = true ∧
      let left := after (creator point) before
      ∀ words, Settings.lookup left.settings "archive_command" Settings.archiveDefault
          = .ofTexts words →
        commands = left.commands ++ Mount.unmounting point ++ [words ++ [path]] ∧
        ((∀ scene : Scene σ, ∀ argv ∈ Mount.unmounting point,
            (scene.reply host argv).succeeds = true) →
          Plan.fulfils host left.scene ((Mount.unmounting point).map Plan.must) = true) := by
  dsimp only
  cases writable : size.isWritable with
  | false =>
    obtain ⟨-, refused⟩ :=
      request_of_refused host path filesystem size (some creator) true world
    exact .inl ⟨rfl, congrArg World.commands (refused writable).2⟩
  | true =>
    right
    cases completes : ending (complete host path filesystem size (some creator))
      (announced path filesystem size world) with
    | error fault =>
      left
      exact ⟨⟨fault, rfl⟩, (request_of_incomplete host path filesystem size _ true world writable
        completes).2⟩
    | ok done =>
      right
      have met : Plan.fulfils host world.scene (Plan.ofFile path filesystem size) = true := by
        cases unmet : Plan.fulfils host world.scene (Plan.ofFile path filesystem size) with
        | true => rfl
        | false =>
          obtain ⟨⟨fault, fails⟩, -⟩ := complete_of_not_fulfils host path filesystem size
            (some creator) (announced path filesystem size world) unmet
          cases completes.symm.trans fails
      obtain ⟨made, -, kept, fills⟩ := complete_of_fulfils host path filesystem size
        (some creator) (announced path filesystem size world) met
      obtain ⟨point, before, issued, unset, success, released, settings⟩ :=
        fills.of_some (by rw [completes]; rfl)
      refine ⟨point, before, issued.trans (by rw [made]; rfl), unset.trans kept, success,
        fun words typed => ?_⟩
      -- the archive reads the settings that the creator left
      rw [← settings] at typed
      obtain ⟨commands, -⟩ := request_archived host path filesystem size (some creator) world
        writable completes typed
      exact ⟨commands.trans (by rw [released]), Plan.fulfils_must _⟩

/-- An image that was unmounted is archived. -/
theorem archive_follows_release_obliging :
    ∃ point,
      (after (request .obliging (.text "part.img") "ext4" (.int 8) (some fun _ => pure ()) true)
        .untouched).commands
        = [["dd", "if=/dev/zero", "of=part.img", "bs=1M", "count=8"],
          ["mkfs.ext4", "part.img"],
          ["mount", "part.img", point],
          ["sync"],
          ["umount", point],
          ["gzip", "-k", "-f", "part.img"]] := by
  have completes : (ending (complete .obliging "part.img" "ext4" (.int 8)
      (some fun _ => pure ())) (announced "part.img" "ext4" (.int 8) .untouched)).isOk = true := by
    decide +kernel
  rcases archive_follows_release .obliging "part.img" "ext4" (.int 8)
    (fun _ => pure ()) .untouched with ⟨unwritable, -⟩ | ⟨⟨fault, fails⟩, -⟩ |
      ⟨point, before, issued, unset, -, archived⟩
  · have writable : (Value.int 8).isWritable = true := by decide +kernel
    rw [unwritable] at writable
    cases writable
  · rw [fails] at completes
    cases completes
  · have typed : Settings.lookup before.settings "archive_command" Settings.archiveDefault
        = .ofTexts ["gzip", "-k", "-f"] := by
      rw [unset]
      rfl
    obtain ⟨commands, -⟩ := archived ["gzip", "-k", "-f"] typed
    have made : (Plan.ofFile "part.img" "ext4" (.int 8)).map (·.argv)
        = [["dd", "if=/dev/zero", "of=part.img", "bs=1M", "count=8"],
          ["mkfs.ext4", "part.img"]] := by
      decide +kernel
    refine ⟨point, commands.trans ?_⟩
    rw [after_pure, issued, made]
    rfl

/-- A host that does not unmount. -/
def clinging : Host Unit :=
  .fixed
    (fun argv => match argv with
      | "umount" :: _ => .exited (.int 32) "target is busy"
      | _ => .usual argv)
    fun _ files => files

/-- An image that is still mounted is archived. -/
theorem archive_follows_release_clinging :
    (∀ memory files point, (clinging.run memory files ["umount", point]).1.succeeds = false) ∧
      (after (request clinging (.text "part.img") "ext4" (.int 8) (some fun _ => pure ()) true)
        .untouched).commands
        = [["dd", "if=/dev/zero", "of=part.img", "bs=1M", "count=8"],
          ["mkfs.ext4", "part.img"],
          ["mount", "part.img", "um_mount1"],
          ["sync"],
          ["umount", "um_mount1"],
          ["gzip", "-k", "-f", "part.img"]] := by
  constructor
  · intro memory files point
    simp only [clinging, Host.fixed]
    split <;> rfl
  · decide +kernel

end PartitionFile

end DiskFixture
