import DiskFixture.Proofs.Disk.Records
import DiskFixture.Proofs.Files.Reach
import DiskFixture.Proofs.Mount

/-!
The release of a temporary mount. Main statement: whatever the body and the files do, the image is
flushed and unmounted once behind the body, the removal of the mount point comes last, each of these
that fails is only logged, once, and of the files nothing goes but a mount point in which nothing
stands; but output that is no text ends the release early and hides what the body ended with.
-/

namespace DiskFixture

variable {σ α β : Type} {host : Host σ}

section Errors

def Record.isMountError (record : Record) : Bool :=
  record.level == .error && match record.extra.get? "source" with
    | some (.text source) => source == "partition"
    | _ => false

/-- The texts of the errors that the logger of mounts has recorded. -/
def World.mountErrors (world : World σ) : List String :=
  (world.records.filter (·.isMountError)).map (·.message)

theorem mountErrors_eq (world : World σ) : world.mountErrors = world.errorsOf "partition" := rfl

theorem mountErrors_of_records {world left : World σ} (same : left.records = world.records) :
    left.mountErrors = world.mountErrors := by
  rw [World.mountErrors, World.mountErrors, same]

theorem mountErrors_note (level : Level) (message : String) (world : World σ) :
    (Logger.ownPartition.noted level message world).mountErrors = world.mountErrors ++
      if level == .error then [message] else [] := by
  have bound : Logger.ownPartition.bound = ("source", .text "partition") ::
      [("tags", .ofTexts ["partition", "mount"]),
        ("job_id", .text (Logger.jobName "part" Logger.standingDigits))] := rfl
  simp [mountErrors_eq, Logger.errorsOf_noted bound]

/-- What a command logs is not logged by mounts. -/
theorem mountErrors_run (argv : List String) (world : World σ) :
    (after (Command.run host argv) world).mountErrors = world.mountErrors :=
  (Spares.run (isForeign_isErrorOf (by decide)) argv).errorsOf world

end Errors

section Failure

/-- What is logged of an action that ended like this. -/
def failure (heading : String) : Except Fault β → List String
  | .ok _ => []
  | .error fault => if fault.problem.isOperational then [heading ++ ": " ++ fault.message] else []

namespace Mount

theorem mountErrors_orLog (heading : String) (action : Action σ β) (world : World σ) :
    (after (orLog heading action) world).mountErrors
      = (after action world).mountErrors ++ failure heading (ending action world) := by
  rw [orLog_eq, after_tolerate]
  unfold failure
  cases ending action world with
  | ok done => exact (List.append_nil _).symm
  | error fault =>
    dsimp only
    split
    · exact mountErrors_note .error _ _
    · exact (List.append_nil _).symm

end Mount

end Failure

theorem Scene.files_withdrawn_cases (host : Host σ) (scene : Scene σ) (point : String) :
    (scene.withdrawn host point).files = scene.files ∨
    ∃ place, scene.files.resolve .entry point = .ok place ∧
      scene.files.at? place = some .directory ∧
      (∀ other, FileTree.isUnder place other = true → scene.files.at? other = none) ∧
      (scene.withdrawn host point).files = scene.files.erase place := by
  unfold withdrawn
  rcases host.refuse scene.memory .removeDirectory point with ⟨_ | fault, memory⟩
  · exact Filing.after_removeDirectory_cases point scene.files
  · exact .inl rfl

namespace Mount

section Release

variable (host : Host σ) (point : String) (world : World σ)

/-- What is logged of a flush and an unmount that start from a scene. -/
def unmountFailures (scene : Scene σ) : List String :=
  let sync := scene.reply host ["sync"]
  failure "Sync error" (Command.reading ["sync"] sync) ++
    if sync.isMisuse then [] else
      failure "Umount error" (Command.reading ["umount", point]
        ((scene.next host ["sync"]).reply host ["umount", point]))

/-- What is logged of the removal of a mount point in a scene. -/
def clearFailures (scene : Scene σ) : List String :=
  failure "Remove error" ((scene.withdrawal host point).mapError .ofCall)

theorem verdict_sync (scene : Scene σ) :
    Plan.Step.verdict ⟨["sync"], .answer⟩ (scene.reply host ["sync"]) = .ok () ↔
      (scene.reply host ["sync"]).isMisuse = false := by
  rw [Plan.Step.verdict_eq_ok_iff]
  simp [Plan.Demand.isMet]

/-- A release that goes wrong at once issues nothing but the flush. -/
theorem issued_releasePlan (scene : Scene σ) :
    Plan.issued host scene (releasePlan point true)
      = if (scene.reply host ["sync"]).isMisuse then [["sync"]] else unmounting point := by
  have flushed := verdict_sync host scene
  simp only [releasePlan, unmounting, if_true, List.map_cons, List.map_nil, Plan.issued]
  cases judged : Plan.Step.verdict ⟨["sync"], .answer⟩ (scene.reply host ["sync"]) with
  | ok done =>
    rw [flushed.1 judged]
    dsimp only
    split <;> rfl
  | error fault =>
    have wrong : (scene.reply host ["sync"]).isMisuse = true := by simpa [judged] using flushed
    rw [wrong]
    rfl

theorem mountErrors_unmount (mounted : Bool) :
    (after (unmount host point mounted) world).mountErrors = world.mountErrors
      ++ if mounted then unmountFailures host point world.scene else [] := by
  cases mounted with
  | false => exact (List.append_nil _).symm
  | true =>
    obtain ⟨scene, -, -⟩ := alike_after_tolerate Logger.ownPartition
      (fun fault => "Sync error" ++ ": " ++ fault.message) (Command.run host ["sync"]) world
    rw [← orLog_eq, Command.scene_after_run] at scene
    have judged := verdict_sync host world.scene
    rw [← Performs.ending_tolerate_run Logger.ownPartition
      (fun fault => "Sync error" ++ ": " ++ fault.message), ← orLog_eq] at judged
    simp only [unmount, if_true, after_bind, unmountFailures]
    cases ends : ending (orLog "Sync error" (Command.run host ["sync"])) world with
    | ok done =>
      rw [judged.1 ends]
      simp only [mountErrors_orLog, mountErrors_run, Command.ending_run, scene, List.append_assoc,
        Bool.false_eq_true, if_false]
    | error fault =>
      have wrong : (world.scene.reply host ["sync"]).isMisuse = true := by
        simpa [ends] using judged
      rw [wrong]
      simp only [mountErrors_orLog, mountErrors_run, Command.ending_run, if_true, List.append_nil]

theorem mountErrors_clearPoint :
    (after (clearPoint host point) world).mountErrors
      = world.mountErrors ++ clearFailures host point world.scene := by
  obtain ⟨removes, -, -, -, quiet⟩ := guarded_withdrawal host world point
  rw [clearPoint, mountErrors_orLog, removes, mountErrors_of_records quiet, clearFailures]

theorem mountErrors_release (mounted : Bool) :
    (after (release host point mounted) world).mountErrors
      = world.mountErrors ++ (if mounted then unmountFailures host point world.scene else [])
        ++ if Plan.fulfils host world.scene (releasePlan point mounted) then
            clearFailures host point
              (world.scene.through host ((releasePlan point mounted).map (·.argv)))
          else [] := by
  have unmounts := performs_unmount host world point mounted
  rw [release_eq, after_bind, ← mountErrors_unmount]
  cases ends : ending (unmount host point mounted) world with
  | ok done =>
    rw [Plan.verdict_eq_ok_iff.1 (unmounts.verdict_of_ok ends)]
    dsimp only
    rw [mountErrors_clearPoint, unmounts.scene_of_ok ends]
    rfl
  | error fault =>
    rw [Plan.fulfils_of_error (unmounts.verdict_of_error ends)]
    exact (List.append_nil _).symm

end Release

section Within

variable (source : String) (body : String → Action σ α) (world : World σ)

theorem mountErrors_tried (host : Host σ) (point : String) :
    (tried host source point world).mountErrors = world.mountErrors := by
  rw [tried, mountErrors_run, mountErrors_of_records (places_makePoint host world).records]

theorem mountErrors_mounted (host : Host σ) (point : String) :
    (mounted host source point world).mountErrors = world.mountErrors := by
  rw [mounted, mountErrors_note, mountErrors_tried]
  exact List.append_nil _

variable {world} {point : String}

/-- A mount fails as a command, unless the source names nothing or the output is no text. -/
theorem fault_of_mount (faithful : host.Faithful)
    (placed : ending (makePoint host) world = .ok point) {scene : Scene σ} {fault : Fault}
    (fails : Command.reading (mounting source point) (scene.reply host (mounting source point))
      = .error fault) :
    fault.problem.isCommand = true ∨
      (FileTree.isNameable source = false ∧ fault = .ofMisuse .nullInPath) ∨
      ∃ wrong, fault = .ofMisuse (.undecodable wrong) := by
  obtain ⟨nameable, -⟩ := (places_makePoint host world).point point placed
  refine (faithful.fault_of_reading fails).imp_right fun miscalled =>
    miscalled.imp_left fun ⟨nameless, same⟩ => ⟨?_, same⟩
  have plain : FileTree.isNameable "mount" = true := by decide
  simpa [mounting, nameable, plain] using nameless

theorem left_of_unmounted (placed : ending (makePoint host) world = .ok point)
    {fault : Fault} (fails : Command.reading (mounting source point)
      ((after (makePoint host) world).scene.reply host (mounting source point)) = .error fault) :
    let failed := (after (makePoint host) world).scene.next host (mounting source point)
    let left := after (within host (.text source) body) world
    left.commands = world.commands ++ [mounting source point] ∧
      left.scene = failed.withdrawn host point ∧
      left.mountErrors = world.mountErrors ++ clearFailures host point failed := by
  have scene := scene_tried source world host point
  dsimp only
  rw [(within_of_unmounted source body world placed fails).2, ← scene]
  have answered : Plan.fulfils host (tried host source point world).scene
      (releasePlan point false) = true := rfl
  obtain ⟨-, commands, withdrawn, -⟩ := release_of_answered _ answered
  refine ⟨?_, withdrawn, ?_⟩
  · rw [commands, commands_tried]
    exact List.append_nil _
  · rw [mountErrors_release, mountErrors_tried, if_pos answered]
    simp [releasePlan]

/-- Where the calls of the release go right, the body's end is the end. -/
theorem left_of_answered (faithful : host.Faithful)
    (placed : ending (makePoint host) world = .ok point) {output : String}
    (mounts : Command.reading (mounting source point)
      ((after (makePoint host) world).scene.reply host (mounting source point)) = .ok output)
    (answered : Plan.fulfils host (after (body point) (mounted host source point world)).scene
      (releasePlan point true) = true) :
    let behind := after (body point) (mounted host source point world)
    let left := after (within host (.text source) body) world
    let detached := behind.scene.through host (unmounting point)
    ending (within host (.text source) body) world
        = ending (body point) (mounted host source point world) ∧
      left.commands = behind.commands ++ unmounting point ∧
      left.scene = detached.withdrawn host point ∧
      left.mountErrors = behind.mountErrors ++ unmountFailures host point behind.scene
        ++ clearFailures host point detached := by
  obtain ⟨nameable, -⟩ := (places_makePoint host world).point point placed
  obtain ⟨ends, left⟩ := within_of_mounted source body world placed mounts
  obtain ⟨-, commands, scene, -⟩ := release_of_answered _ answered
  dsimp only
  rw [ends, left, releasing_eq_ok faithful nameable answered]
  refine ⟨rfl, commands, scene, ?_⟩
  rw [mountErrors_release, if_pos answered]
  rfl

/-- Where a call of the release goes wrong, the release stops, and that is the end. -/
theorem left_of_unanswered (faithful : host.Faithful)
    (placed : ending (makePoint host) world = .ok point) {output : String}
    (mounts : Command.reading (mounting source point)
      ((after (makePoint host) world).scene.reply host (mounting source point)) = .ok output)
    (unanswered : Plan.fulfils host (after (body point) (mounted host source point world)).scene
      (releasePlan point true) = false) :
    let behind := after (body point) (mounted host source point world)
    let left := after (within host (.text source) body) world
    let issued := if (behind.scene.reply host ["sync"]).isMisuse then [["sync"]]
      else unmounting point
    (∃ wrong, ending (within host (.text source) body) world
        = .error (.ofMisuse (.undecodable wrong))) ∧
      left.commands = behind.commands ++ issued ∧
      left.scene = behind.scene.through host issued ∧
      left.mountErrors = behind.mountErrors ++ unmountFailures host point behind.scene := by
  obtain ⟨nameable, -⟩ := (places_makePoint host world).point point placed
  obtain ⟨ends, left⟩ := within_of_mounted source body world placed mounts
  obtain ⟨-, commands, scene, -⟩ := release_of_unanswered _ unanswered
  obtain ⟨wrong, miscalled⟩ := releasing_eq_error faithful nameable unanswered
  dsimp only
  rw [ends, left, miscalled, ← issued_releasePlan]
  refine ⟨⟨wrong, rfl⟩, commands, scene, ?_⟩
  rw [mountErrors_release, unanswered]
  exact List.append_nil _

/-- What becomes of a body that is run on a mounted image, and of the mount. -/
theorem within_outcome (faithful : host.Faithful) (source : String) (body : String → Action σ α)
    (world : World σ) :
    let placed := after (makePoint host) world
    let result := ending (within host (.text source) body) world
    let left := after (within host (.text source) body) world
    (∀ fault, ending (makePoint host) world = .error fault →
      result = .error fault ∧ left = placed ∧ left.commands = world.commands ∧
      (∀ other : String → Action σ α, ending (within host (.text source) other) world = result ∧
        after (within host (.text source) other) world = left) ∧
      Unplaced host world.settings fault) ∧
    (∀ point, ending (makePoint host) world = .ok point →
      let mount := placed.scene.reply host (mounting source point)
      (∃ number, point = pointPath host world.settings number) ∧
      (mount.succeeds = false →
        let failed := placed.scene.next host (mounting source point)
        (∃ fault, Command.reading (mounting source point) mount = .error fault ∧
          result = .error fault ∧
          (fault.problem.isCommand = true ∨
            (FileTree.isNameable source = false ∧ fault = .ofMisuse .nullInPath) ∨
            ∃ wrong, fault = .ofMisuse (.undecodable wrong))) ∧
        (∀ other : String → Action σ α, ending (within host (.text source) other) world = result ∧
          after (within host (.text source) other) world = left) ∧
        left.commands = world.commands ++ [mounting source point] ∧
        left.scene = failed.withdrawn host point ∧
        left.mountErrors = world.mountErrors ++ clearFailures host point failed) ∧
      (mount.succeeds = true →
        let before := mounted host source point world
        let behind := after (body point) before
        before.commands = world.commands ++ [mounting source point] ∧
        before.mountErrors = world.mountErrors ∧
        (Plan.fulfils host behind.scene (releasePlan point true) = true →
          let detached := behind.scene.through host (unmounting point)
          result = ending (body point) before ∧
          left.commands = behind.commands ++ [["sync"], ["umount", point]] ∧
          left.scene = detached.withdrawn host point ∧
          left.mountErrors = behind.mountErrors ++ unmountFailures host point behind.scene
            ++ clearFailures host point detached) ∧
        (Plan.fulfils host behind.scene (releasePlan point true) = false →
          let issued := if (behind.scene.reply host ["sync"]).isMisuse then [["sync"]]
            else [["sync"], ["umount", point]]
          (∃ wrong, result = .error (.ofMisuse (.undecodable wrong))) ∧
          left.commands = behind.commands ++ issued ∧
          left.scene = behind.scene.through host issued ∧
          left.mountErrors = behind.mountErrors ++ unmountFailures host point behind.scene))) ∧
    ∀ (scene : Scene σ) (point : String), (scene.withdrawn host point).files = scene.files ∨
      ∃ place, scene.files.resolve .entry point = .ok place ∧
        scene.files.at? place = some .directory ∧
        (∀ other, FileTree.isUnder place other = true → scene.files.at? other = none) ∧
        (scene.withdrawn host point).files = scene.files.erase place := by
  dsimp only
  have places := places_makePoint host world
  refine ⟨fun fault fails => ?_, fun point made => ⟨?_, fun failure => ?_, fun success => ?_⟩,
    Scene.files_withdrawn_cases host⟩
  · obtain ⟨ends, left⟩ := within_of_unplaced source body world fails
    refine ⟨ends, left, left ▸ places.commands, fun other => ?_, places.fault faithful fault fails⟩
    obtain ⟨ends', left'⟩ := within_of_unplaced source other world fails
    exact ⟨ends'.trans ends.symm, left'.trans left.symm⟩
  · exact (places.point point made).2
  · obtain ⟨fault, reads⟩ := Command.reading_of_not_succeeds (mounting source point) failure
    obtain ⟨ends, left⟩ := within_of_unmounted source body world made reads
    refine ⟨⟨fault, reads, ?_, fault_of_mount source faithful made reads⟩, fun other => ?_,
      left_of_unmounted source body made reads⟩
    · rw [ends, releasing_eq_ok faithful (places.point point made).1 rfl]
      rfl
    · obtain ⟨ends', left'⟩ := within_of_unmounted source other world made reads
      exact ⟨ends'.trans ends.symm, left'.trans left.symm⟩
  · have reads := Command.reading_of_succeeds (mounting source point) success
    exact ⟨commands_tried source world host point, mountErrors_mounted source world host point,
      left_of_answered source body faithful made reads,
      left_of_unanswered source body faithful made reads⟩

end Within

/-- A host that mounts an image with one file in it and does not unmount it any more. -/
def holding : Host Unit :=
  .fixed
    (fun argv => match argv with
      | "umount" :: _ => .exited (.int 32) "target is busy"
      | _ => .usual argv)
    fun argv files => match argv with
      | ["mount", _, point] => files.put ["work", point, "notes.txt"] (.file .empty)
      | _ => files

theorem faithful_holding : holding.Faithful := by
  refine Host.faithful_fixed fun argv => ?_
  split
  · exact .exited 32 _
  · exact Reply.isAnswer_usual argv

theorem within_outcome_holding :
    let left := after (within holding (.text "part.img") fun _ => pure ()) .untouched
    ending (within holding (.text "part.img") fun _ => pure ()) .untouched = .ok () ∧
      left.commands = [["mount", "part.img", "um_mount1"], ["sync"], ["umount", "um_mount1"]] ∧
      left.mountErrors =
        ["Umount error: Command failed (umount um_mount1): exit status 32 (target is busy)",
          "Remove error: [Errno 39] Directory not empty: 'um_mount1'"] ∧
      left.files.at? ["work", "um_mount1", "notes.txt"] = some (.file .empty) := by
  intro left
  have made : ending (makePoint holding) .untouched = .ok "um_mount1" := by rfl
  obtain ⟨-, places, -⟩ :=
    within_outcome faithful_holding "part.img" (fun _ => pure ()) .untouched
  obtain ⟨-, -, mounts⟩ := places "um_mount1" made
  obtain ⟨-, -, answered, -⟩ := mounts (by decide +kernel)
  obtain ⟨ends, commands, scene, errors⟩ := answered (by decide +kernel)
  have files := congrArg Scene.files scene
  refine ⟨ends, commands.trans (by decide +kernel), errors.trans (by decide +kernel), ?_⟩
  have kept : left.files.at? ["work", "um_mount1", "notes.txt"] = _ :=
    congrArg (·.at? ["work", "um_mount1", "notes.txt"]) files
  exact kept.trans (by decide +kernel)

/-- The output of a flush that is no text takes the place of what the body ended with, and nothing
is unmounted or removed. -/
theorem within_garbled :
    let left := after (within (.garbling ["sync"]) (.text "part.img") fun _ => pure ()) .untouched
    (match ending (within (.garbling ["sync"]) (.text "part.img") fun _ => pure ()) .untouched with
      | .ok _ => ""
      | .error fault => fault.kind) = "UnicodeDecodeError" ∧
    left.commands = [["mount", "part.img", "um_mount1"], ["sync"]] ∧
    left.files.at? ["work", "um_mount1"] = some .directory := by
  refine ⟨?_, ?_, ?_⟩ <;> decide +kernel

end Mount

end DiskFixture
