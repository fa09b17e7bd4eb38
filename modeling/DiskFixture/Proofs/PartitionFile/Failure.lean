import DiskFixture.Proofs.Mount.Release
import DiskFixture.Proofs.PartitionFile.Trace

/-!
Partition files that are not made. The first step that fails decides: if it is the creator, the
fault is a populate fault, and otherwise it is a build fault which that step led to. Main statement:
which of the two it is, what it says, and that it never comes from a release that failed; but the
fault of a call that goes wrong, in the release also, is neither.
-/

namespace DiskFixture

variable {σ : Type} {host : Host σ}

namespace Problem

variable {problem : Problem}

theorem isOperational_of_tool (tool : problem.isCommand = true ∨ problem.isSystem = true) :
    problem.isOperational = true := by
  cases problem <;> simp_all [isCommand, isSystem, isOperational, isStorage]

theorem isBuild_of_tool (tool : problem.isCommand = true ∨ problem.isSystem = true) :
    problem.isBuild = false := by
  cases problem <;> simp_all [isCommand, isSystem, isBuild]

theorem isBuild_of_isPopulate (populate : problem.isPopulate = true) : problem.isBuild = true := by
  cases problem <;> simp_all [isPopulate, isBuild]

end Problem

namespace PartitionFile

/-- What becomes of a fault that the creator raised. -/
def populateFault (path point : String) (raised : Fault) : Fault :=
  if raised.problem.isPopulate then raised
  else .dueTo (.populate (.text point) (.text raised.message) (.text path)) raised

theorem isPopulate_populateFault (path point : String) (raised : Fault) :
    (populateFault path point raised).problem.isPopulate = true := by
  unfold populateFault
  split
  · assumption
  · rfl

theorem ending_filler (path : String) (body : String → Action σ Unit) (point : String)
    (before : World σ) :
    ending (filler path body point) before
      = (ending (body point) before).mapError (populateFault path point) := by
  cases ends : ending (body point) before with
  | ok done => simp [filler, ending_bind, ends]
  | error fault =>
    cases populate : fault.problem.isPopulate <;>
      simp [filler, ending_bind, ends, populate, populateFault]

section Course

variable (host) (path filesystem : String) (size : Value)
  (creator : Option (String → Action σ Unit)) (wantsArchive : Bool) (start : World σ)

/-- The world behind the two commands that make a file. -/
def made : World σ := after (make host path filesystem size) start

/-- The creator is called with this mount point, and raises this, and no call of the release behind
it goes wrong. -/
structure Raises (point : String) (raised : Fault) : Prop where
  formatted : Plan.fulfils host start.scene (Plan.ofFile path filesystem size) = true
  placed : ending (Mount.makePoint host) (made host path filesystem size start) = .ok point
  mounts : ((after (Mount.makePoint host) (made host path filesystem size start)).scene.reply host
    (Mount.mounting path point)).succeeds = true
  raises : ∃ body, creator = some body ∧
    let before := Mount.mounted host path point (made host path filesystem size start)
    ending (body point) before = .error raised ∧
      Plan.fulfils host (after (body point) before).scene (Mount.releasePlan point true) = true

/-- What a file is not made over if the creator is not to blame: the fault of the first step that
fails, or of a call that goes wrong in the release. -/
inductive Breaks : Fault → Prop where
  | making {done later : List Plan.Step} {argv : List String} {cause : Fault}
      (plan : Plan.ofFile path filesystem size = done ++ Plan.must argv :: later)
      (went : Plan.fulfils host start.scene done = true)
      (fails : Command.reading argv
        ((start.scene.through host (done.map (·.argv))).reply host argv) = .error cause) :
      Breaks cause
  | placing {body : String → Action σ Unit} {cause : Fault} (asked : creator = some body)
      (formatted : Plan.fulfils host start.scene (Plan.ofFile path filesystem size) = true)
      (fails : ending (Mount.makePoint host) (made host path filesystem size start)
        = .error cause) :
      Breaks cause
  | mounting {body : String → Action σ Unit} {point : String} {cause : Fault}
      (asked : creator = some body)
      (formatted : Plan.fulfils host start.scene (Plan.ofFile path filesystem size) = true)
      (placed : ending (Mount.makePoint host) (made host path filesystem size start) = .ok point)
      (fails : Command.reading (Mount.mounting path point)
        ((after (Mount.makePoint host) (made host path filesystem size start)).scene.reply host
          (Mount.mounting path point)) = .error cause) :
      Breaks cause
  | releasing {body : String → Action σ Unit} {point : String} {cause : Fault}
      (asked : creator = some body)
      (formatted : Plan.fulfils host start.scene (Plan.ofFile path filesystem size) = true)
      (placed : ending (Mount.makePoint host) (made host path filesystem size start) = .ok point)
      (mounts : ((after (Mount.makePoint host) (made host path filesystem size start)).scene.reply
        host (Mount.mounting path point)).succeeds = true)
      (fails : Plan.verdict host (after (body point) (Mount.mounted host path point
        (made host path filesystem size start))).scene (Mount.releasePlan point true)
          = .error cause) :
      Breaks cause
  | archiving {words : List String} {cause : Fault} (wanted : wantsArchive = true)
      (completes : ending (complete host path filesystem size creator) start = .ok ())
      (typed : Settings.lookup (after (complete host path filesystem size creator) start).settings
        "archive_command" Settings.archiveDefault = .ofTexts words)
      (fails : Command.reading (words ++ [path])
        ((after (complete host path filesystem size creator) start).scene.reply host
          (words ++ [path])) = .error cause) :
      Breaks cause

variable {host path filesystem size creator wantsArchive start}

theorem ending_make :
    ending (make host path filesystem size) start
      = Plan.verdict host start.scene (Plan.ofFile path filesystem size) := by
  have judged := (performs_make host path filesystem size start).verdict
  rw [← judged]
  cases ending (make host path filesystem size) start <;> rfl

/-- A file is filled by a directory, a mount, and the creator, one after the other; of the release
behind them only a call that goes wrong is seen. -/
theorem ending_populate (faithful : host.Faithful) {body : String → Action σ Unit}
    {world : World σ} :
    ending (populate host path body) world =
      match ending (Mount.makePoint host) world with
      | .error cause => .error cause
      | .ok point =>
        match Command.reading (Mount.mounting path point)
          ((after (Mount.makePoint host) world).scene.reply host (Mount.mounting path point)) with
        | .error cause => .error cause
        | .ok _ =>
          let before := Mount.mounted host path point world
          match Plan.verdict host (after (body point) before).scene
            (Mount.releasePlan point true) with
          | .error cause => .error cause
          | .ok _ => (ending (body point) before).mapError (populateFault path point) := by
  rw [populate_eq]
  cases placed : ending (Mount.makePoint host) world with
  | error cause => exact (Mount.within_of_unplaced path (filler path body) world placed).1
  | ok point =>
    obtain ⟨nameable, -⟩ := (Mount.places_makePoint host world).point point placed
    dsimp only
    cases mounts : Command.reading (Mount.mounting path point)
      ((after (Mount.makePoint host) world).scene.reply host (Mount.mounting path point)) with
    | error cause =>
      rw [(Mount.within_of_unmounted path (filler path body) world placed mounts).1,
        Mount.releasing_eq_ok faithful nameable rfl]
      rfl
    | ok output =>
      rw [(Mount.within_of_mounted path (filler path body) world placed mounts).1, after_filler,
        ending_filler]
      dsimp only
      cases released : Plan.verdict host (after (body point)
        (Mount.mounted host path point world)).scene (Mount.releasePlan point true) with
      | error cause =>
        rw [Mount.releasing_of_verdict released]
        rfl
      | ok done =>
        rw [Mount.releasing_eq_ok faithful nameable (Plan.verdict_eq_ok_iff.1 released)]
        rfl

/-- A file that is not made breaks off at one of its two commands. -/
theorem breaks_of_make {fault : Fault}
    (fails : ending (make host path filesystem size) start = .error fault) :
    Breaks host path filesystem size creator wantsArchive start fault := by
  rw [ending_make] at fails
  obtain ⟨done, failed, later, plan, went, breaks, -⟩ := Plan.exists_of_error fails
  have demands : ∀ step ∈ Plan.ofFile path filesystem size, step = Plan.must step.argv := by
    simp [Plan.ofFile, Plan.must]
  have demanded := demands failed (by simp [plan])
  rw [demanded] at plan breaks
  exact .making plan (Plan.verdict_eq_ok_iff.1 went) (eq_error_of_map breaks)

theorem ending_complete_of_fulfils {body : String → Action σ Unit}
    (formatted : Plan.fulfils host start.scene (Plan.ofFile path filesystem size) = true) :
    ending (complete host path filesystem size (some body)) start
      = ending (populate host path body) (made host path filesystem size start) := by
  have makes := ending_make.trans (Plan.verdict_eq_ok_iff.2 formatted)
  rw [complete, ending_bind, makes]
  rfl

theorem ending_complete_of_raises (faithful : host.Faithful) {point : String} {raised : Fault}
    (raises : Raises host path filesystem size creator start point raised) :
    ending (complete host path filesystem size creator) start
      = .error (populateFault path point raised) := by
  obtain ⟨body, rfl, throws, answered⟩ := raises.raises
  rw [ending_complete_of_fulfils raises.formatted, ending_populate faithful, raises.placed]
  dsimp only
  rw [Command.reading_of_succeeds _ raises.mounts]
  dsimp only
  rw [Plan.verdict_eq_ok_iff.2 answered, throws]
  rfl

theorem ending_assemble_of_incomplete {fault : Fault}
    (fails : ending (complete host path filesystem size creator) start = .error fault) :
    ending (assemble host path filesystem size creator wantsArchive) start = .error fault := by
  rw [assemble_eq, ending_bind, fails]

theorem ending_assemble_of_breaks (faithful : host.Faithful) {cause : Fault}
    (breaks : Breaks host path filesystem size creator wantsArchive start cause) :
    ending (assemble host path filesystem size creator wantsArchive) start = .error cause := by
  cases breaks with
  | @making done later argv cause plan went fails =>
    apply ending_assemble_of_incomplete
    have verdict : Plan.verdict host start.scene (Plan.ofFile path filesystem size)
        = .error cause := by
      rw [plan, Plan.verdict_append_of_ok (Plan.verdict_eq_ok_iff.2 went), Plan.verdict]
      simp only [Plan.Step.verdict, Plan.must, fails, Except.map]
    rw [complete, ending_bind, ending_make, verdict]
  | placing asked formatted fails =>
    subst asked
    apply ending_assemble_of_incomplete
    rw [ending_complete_of_fulfils formatted, ending_populate faithful, fails]
  | mounting asked formatted placed fails =>
    subst asked
    apply ending_assemble_of_incomplete
    rw [ending_complete_of_fulfils formatted, ending_populate faithful, placed]
    simp only [fails]
  | releasing asked formatted placed mounts fails =>
    subst asked
    apply ending_assemble_of_incomplete
    rw [ending_complete_of_fulfils formatted, ending_populate faithful, placed]
    simp only [Command.reading_of_succeeds _ mounts, fails]
  | archiving wanted completes typed fails =>
    subst wanted
    rw [assemble_eq, ending_bind, completes]
    dsimp only
    rw [(deliver_spec host path _ typed).1, fails]
    rfl

theorem breaks_or_raises_of_populate (faithful : host.Faithful) {body : String → Action σ Unit}
    (formatted : Plan.fulfils host start.scene (Plan.ofFile path filesystem size) = true)
    {fault : Fault} (fails : ending (populate host path body)
      (made host path filesystem size start) = .error fault) :
    Breaks host path filesystem size (some body) wantsArchive start fault ∨
      ∃ point raised, Raises host path filesystem size (some body) start point raised := by
  rw [ending_populate faithful] at fails
  split at fails
  · next placed =>
    cases fails
    exact .inl (.placing rfl formatted placed)
  · next point placed =>
    split at fails
    · next mounts =>
      cases fails
      exact .inl (.mounting rfl formatted placed mounts)
    · next mounts =>
      have success := (Command.reading_eq_ok_iff.1 mounts).1
      dsimp only at fails
      split at fails
      · next released =>
        cases fails
        exact .inl (.releasing rfl formatted placed success released)
      · next released =>
        have answered := Plan.verdict_eq_ok_iff.1 released
        cases raises : ending (body point) (Mount.mounted host path point
          (made host path filesystem size start)) with
        | ok done =>
          rw [raises] at fails
          cases fails
        | error raised =>
          exact .inr ⟨point, raised, formatted, placed, success, body, rfl, raises, answered⟩

theorem breaks_or_raises_of_complete (faithful : host.Faithful) {fault : Fault}
    (fails : ending (complete host path filesystem size creator) start = .error fault) :
    Breaks host path filesystem size creator wantsArchive start fault ∨
      ∃ point raised, Raises host path filesystem size creator start point raised := by
  cases makes : ending (make host path filesystem size) start with
  | error cause =>
    rw [complete, ending_bind, makes] at fails
    cases fails
    exact .inl (breaks_of_make makes)
  | ok done =>
    have formatted : Plan.fulfils host start.scene (Plan.ofFile path filesystem size) = true := by
      rw [← Plan.verdict_eq_ok_iff, ← ending_make, makes]
    cases creator with
    | none =>
      rw [complete, ending_bind, makes] at fails
      cases fails
    | some body =>
      rw [ending_complete_of_fulfils formatted] at fails
      exact breaks_or_raises_of_populate faithful formatted fails

/-- A step that fails is the creator, or a step that nothing else broke off before. -/
theorem breaks_or_raises (faithful : host.Faithful)
    (typed : wantsArchive = true → ∃ words,
      Settings.lookup (after (complete host path filesystem size creator) start).settings
        "archive_command" Settings.archiveDefault = .ofTexts words) {fault : Fault}
    (fails : ending (assemble host path filesystem size creator wantsArchive) start
      = .error fault) :
    Breaks host path filesystem size creator wantsArchive start fault ∨
      ∃ point raised, Raises host path filesystem size creator start point raised := by
  cases completes : ending (complete host path filesystem size creator) start with
  | ok done =>
    cases wanted : wantsArchive with
    | false =>
      rw [assemble_eq, ending_bind, completes, wanted] at fails
      cases fails
    | true =>
      obtain ⟨words, typed⟩ := typed wanted
      rw [assemble_eq, ending_bind, completes, wanted] at fails
      dsimp only at fails
      rw [(deliver_spec host path _ typed).1] at fails
      exact .inl (.archiving rfl completes typed (eq_error_of_map fails))
  | error other =>
    rw [ending_assemble_of_incomplete completes] at fails
    cases fails
    exact breaks_or_raises_of_complete faithful completes

/-- A step breaks off over a tool or the file system, or a call goes wrong. -/
theorem Breaks.cause (faithful : host.Faithful) {cause : Fault}
    (breaks : Breaks host path filesystem size creator wantsArchive start cause) :
    (cause.problem.isCommand = true ∨ cause.problem.isSystem = true) ∨ cause.IsOfCall := by
  have command {argv : List String} {scene : Scene σ}
      (fails : Command.reading argv (scene.reply host argv) = .error cause) :
      (cause.problem.isCommand = true ∨ cause.problem.isSystem = true) ∨ cause.IsOfCall :=
    (faithful.fault_of_reading fails).imp .inl (Or.imp_left And.right)
  cases breaks with
  | making plan went fails => exact command fails
  | placing asked formatted fails =>
    rcases (Mount.places_makePoint host _).fault faithful _ fails with ⟨error, rfl⟩ | ⟨-, rfl⟩
    · exact .inl (.inr rfl)
    · exact .inr (.inl rfl)
  | mounting asked formatted placed fails => exact command fails
  | releasing asked formatted placed mounts fails =>
    obtain ⟨nameable, -⟩ := (Mount.places_makePoint host _).point _ placed
    obtain ⟨wrong, miscalled⟩ :=
      Mount.releasing_eq_error faithful nameable (Plan.fulfils_of_error fails)
    cases (Mount.releasing_of_verdict fails).symm.trans miscalled
    exact .inr (.inr ⟨wrong, rfl⟩)
  | archiving wanted completes typed fails => exact command fails

theorem request_of_raises (faithful : host.Faithful) (writable : size.isWritable = true)
    {point : String} {raised : Fault}
    (raises : Raises host path filesystem size creator (announced path filesystem size start)
      point raised) :
    ending (request host (.text path) filesystem size creator wantsArchive) start
      = .error (populateFault path point raised) := by
  have incomplete := ending_complete_of_raises faithful raises
  rw [(request_of_error host path filesystem size creator wantsArchive start writable
      (ending_assemble_of_incomplete incomplete)).1,
    if_pos (Problem.isBuild_of_isPopulate (isPopulate_populateFault path point raised))]

theorem request_of_breaks (faithful : host.Faithful) (writable : size.isWritable = true)
    {cause : Fault} (breaks : Breaks host path filesystem size creator wantsArchive
      (announced path filesystem size start) cause) :
    (cause.problem.isCommand = true ∨ cause.problem.isSystem = true) ∧
        ending (request host (.text path) filesystem size creator wantsArchive) start
          = .error (buildFault path cause) ∨
      cause.IsOfCall ∧
        ending (request host (.text path) filesystem size creator wantsArchive) start
          = .error cause := by
  have ends := (request_of_error host path filesystem size creator wantsArchive start writable
    (ending_assemble_of_breaks faithful breaks)).1
  rcases breaks.cause faithful with expected | miscalled
  · have build : cause.problem.isBuild = false := Problem.isBuild_of_tool expected
    have operational : cause.problem.isOperational = true := Problem.isOperational_of_tool expected
    rw [build, operational] at ends
    exact .inl ⟨expected, ends⟩
  · refine .inr ⟨miscalled, ?_⟩
    rcases miscalled with rfl | ⟨wrong, rfl⟩
    · exact ends
    · exact ends

theorem breaks_or_raises_of_request (faithful : host.Faithful) (writable : size.isWritable = true)
    (typed : wantsArchive = true → ∃ words,
      Settings.lookup (after (complete host path filesystem size creator)
        (announced path filesystem size start)).settings "archive_command" Settings.archiveDefault
          = .ofTexts words) {fault : Fault}
    (fails : ending (request host (.text path) filesystem size creator wantsArchive) start
      = .error fault) :
    (∃ cause, Breaks host path filesystem size creator wantsArchive
      (announced path filesystem size start) cause) ∨
      ∃ point raised, Raises host path filesystem size creator
        (announced path filesystem size start) point raised := by
  cases assembles : ending (assemble host path filesystem size creator wantsArchive)
    (announced path filesystem size start) with
  | ok archived =>
    cases (request_of_ok host path filesystem size creator wantsArchive start writable
      assembles).1.symm.trans fails
  | error cause => exact (breaks_or_raises faithful typed assembles).imp_left fun breaks => ⟨_, breaks⟩

/-- Populate faults are those of creators; every other fault is due to a step that broke off. -/
theorem isPopulate_iff_of_request (faithful : host.Faithful) (writable : size.isWritable = true)
    (typed : wantsArchive = true → ∃ words,
      Settings.lookup (after (complete host path filesystem size creator)
        (announced path filesystem size start)).settings "archive_command" Settings.archiveDefault
          = .ofTexts words) {fault : Fault}
    (fails : ending (request host (.text path) filesystem size creator wantsArchive) start
      = .error fault) :
    (fault.problem.isPopulate = true ↔ ∃ point raised, Raises host path filesystem size creator
        (announced path filesystem size start) point raised) ∧
      (fault.problem.isPopulate = false → ∃ cause, Breaks host path filesystem size creator
        wantsArchive (announced path filesystem size start) cause) := by
  have populates {point : String} {raised : Fault} (raises : Raises host path filesystem size
      creator (announced path filesystem size start) point raised) :
      fault.problem.isPopulate = true := by
    cases (request_of_raises faithful writable raises).symm.trans fails
    exact isPopulate_populateFault path point raised
  -- a step that breaks off never has a populate fault, so the two cases exclude each other
  rcases breaks_or_raises_of_request faithful writable typed fails with
    ⟨cause, breaks⟩ | ⟨point, raised, raises⟩
  · have unpopulated : fault.problem.isPopulate = false := by
      rcases request_of_breaks faithful writable breaks with ⟨-, ends⟩ | ⟨miscalled, ends⟩
      · cases ends.symm.trans fails
        rfl
      · cases ends.symm.trans fails
        rcases miscalled with rfl | ⟨wrong, rfl⟩ <;> rfl
    refine ⟨⟨fun populate => ?_, fun ⟨_, _, raises⟩ => populates raises⟩,
      fun _ => ⟨cause, breaks⟩⟩
    rw [unpopulated] at populate
    cases populate
  · have populate := populates raises
    refine ⟨⟨fun _ => ⟨point, raised, raises⟩, fun _ => populate⟩, fun unpopulated => ?_⟩
    rw [populate] at unpopulated
    cases unpopulated

variable (host path filesystem size creator wantsArchive) in
/-- What is raised where a partition file is not made. A path that is none and a size that cannot be
written are refused beforehand. Then it is a populate fault if and only if the creator was called
and raised something, and no call of the release went wrong; it carries what was raised unless that
was a populate fault itself. Otherwise it is a build fault, due to the first step that failed, or
the fault of a call that went wrong. -/
theorem fault_of_request (faithful : host.Faithful) (world : World σ)
    (typed : wantsArchive = true → ∃ words,
      Settings.lookup (after (complete host path filesystem size creator)
        (announced path filesystem size world)).settings "archive_command" Settings.archiveDefault
          = .ofTexts words) :
    let start := announced path filesystem size world
    let result := ending (request host (.text path) filesystem size creator wantsArchive) world
    (∀ value misuse, value.asPath = .error misuse →
      ending (request host value filesystem size creator wantsArchive) world
        = .error (.ofMisuse misuse)) ∧
    (size.isWritable = false → result = .error (.ofMisuse .unwritableInteger)) ∧
    (size.isWritable = true →
      (∀ point raised, Raises host path filesystem size creator start point raised →
        result = .error (populateFault path point raised)) ∧
      (∀ cause, Breaks host path filesystem size creator wantsArchive start cause →
        (cause.problem.isCommand = true ∨ cause.problem.isSystem = true) ∧
          result = .error (buildFault path cause) ∨
        cause.IsOfCall ∧ result = .error cause) ∧
      ∀ fault, result = .error fault →
        (fault.problem.isPopulate = true ↔
          ∃ point raised, Raises host path filesystem size creator start point raised) ∧
        (fault.problem.isPopulate = false → ∃ cause,
          Breaks host path filesystem size creator wantsArchive start cause)) := by
  dsimp only
  obtain ⟨pathless, unwritable⟩ :=
    request_of_refused host path filesystem size creator wantsArchive world
  refine ⟨fun value misuse wrong => (pathless value misuse wrong).1,
    fun refused => (unwritable refused).1, fun writable =>
      ⟨fun point raised raises => ?_, fun cause breaks => ?_, fun fault fails => ?_⟩⟩
  · exact request_of_raises faithful writable raises
  · exact request_of_breaks faithful writable breaks
  · exact isPopulate_iff_of_request faithful writable typed fails

end Course

/-- What a creator raises is carried by the populate fault, with the mount point and the path. -/
theorem fault_of_request_raising :
    ending (request .obliging (.text "part.img") "ext4" (.int 8)
        (some fun _ => throw (.ofProblem (.raised .runtime [.text "boom"]))) true) .untouched
      = .error ⟨.populate (.text "um_mount1") (.text "boom") (.text "part.img"),
          [.raised .runtime [.text "boom"]]⟩ := by
  obtain ⟨-, -, classes⟩ := fault_of_request .obliging "part.img" "ext4" (.int 8)
    (some fun _ => throw (.ofProblem (.raised .runtime [.text "boom"]))) true
    Host.faithful_obliging .untouched fun _ => ⟨["gzip", "-k", "-f"], rfl⟩
  obtain ⟨populates, -⟩ := classes (by decide +kernel)
  exact populates "um_mount1" _
    ⟨by decide +kernel, rfl, by decide +kernel, _, rfl, rfl, by decide +kernel⟩

/-- Output of a formatter that is no text is no build fault. -/
theorem fault_of_request_garbled :
    (match ending (request (.garbling ["mkfs.ext4"]) (.text "part.img") "ext4" (.int 8) none false)
        .untouched with
      | .ok _ => ""
      | .error fault => fault.kind) = "UnicodeDecodeError" := by
  decide +kernel

end PartitionFile

end DiskFixture
