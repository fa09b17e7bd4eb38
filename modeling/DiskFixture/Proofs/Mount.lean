import DiskFixture.Mount
import DiskFixture.Proofs.Disk.Course
import DiskFixture.Proofs.Disk.Removal

/-!
Temporary mounts. Main statements: the body runs if and only if the mount point was made and the
image mounted on it; behind it the image is flushed and unmounted and the point removed, whatever
came of the body; and of a release only a call that went wrong is seen, which then takes the place
of what the body ended with.
-/

namespace DiskFixture

variable {σ α : Type} {host : Host σ}

namespace Mount

section Point

/-- What a mount point that cannot be made is reported with: an error of the operating system, or
that no directory can have such a name. -/
def Unplaced (host : Host σ) (settings : Fields) (fault : Fault) : Prop :=
  (∃ error, fault = .ofSystem error) ∨
    (∃ number, FileTree.isNameable (pointPath host settings number) = false) ∧
      fault = .ofMisuse .nullInPath

/-- What it does to a world to make a mount point, however often it is tried: nothing is run, set or
logged, and the point has a name that the settings allow. -/
structure Places (host : Host σ) (world : World σ) (result : Except Fault String)
    (left : World σ) : Prop where
  commands : left.commands = world.commands
  settings : left.settings = world.settings
  records : left.records = world.records
  point : ∀ point, result = .ok point →
    FileTree.isNameable point = true ∧ ∃ number, point = pointPath host world.settings number
  fault : host.Faithful → ∀ fault, result = .error fault → Unplaced host world.settings fault

theorem Unplaced.lastFault {settings : Fields} {fault : Fault}
    (unplaced : Unplaced host settings fault) : Unplaced host settings (lastFault host fault) := by
  rcases unplaced with ⟨error, rfl⟩ | ⟨nameless, rfl⟩
  · unfold Mount.lastFault
    dsimp only [Fault.ofSystem, Fault.ofProblem]
    split
    · exact .inl ⟨_, rfl⟩
    · exact .inl ⟨error, rfl⟩
  · exact .inr ⟨nameless, rfl⟩

theorem Places.ok {world left : World σ} {point : String} {number : Nat}
    (commands : left.commands = world.commands) (settings : left.settings = world.settings)
    (records : left.records = world.records) (nameable : FileTree.isNameable point = true)
    (named : point = pointPath host world.settings number) :
    Places host world (.ok point) left := by
  refine ⟨commands, settings, records, fun other made => ?_, fun _ _ fails => (by cases fails)⟩
  cases made
  exact ⟨nameable, number, named⟩

theorem Places.error {world left : World σ} {fault : Fault}
    (commands : left.commands = world.commands) (settings : left.settings = world.settings)
    (records : left.records = world.records)
    (unplaced : host.Faithful → Unplaced host world.settings fault) :
    Places host world (.error fault) left := by
  refine ⟨commands, settings, records, fun _ made => (by cases made), fun faithful other fails => ?_⟩
  cases fails
  exact unplaced faithful

variable (host) (world : World σ)

theorem places_tryPoint :
    Places host world (ending (tryPoint host) world) (after (tryPoint host) world) := by
  rcases answer : host.refuse world.memory .makeDirectory
    (pointPath host world.settings (world.mounts + 1)) with ⟨refusal, memory⟩
  cases refusal with
  | some fault =>
    have refused : tryPoint host world = .error (.ofCall fault) { world with memory } := by
      simp only [tryPoint, answer]
    simp only [ending, after, refused]
    refine .error rfl rfl rfl fun faithful => ?_
    have proper := faithful.refuse world.memory .makeDirectory _ fault (by rw [answer])
    cases fault with
    | system error => exact .inl ⟨error, rfl⟩
    | misuse wrong => cases proper
  | none =>
    -- only a directory that the host does not refuse takes the next number
    let path := pointPath host world.settings (world.mounts + 1)
    let start : World σ := { world with memory, mounts := world.mounts + 1 }
    let make : Action σ String := Action.filing (Filing.makeDirectory path) >>= fun _ => pure path
    have willing : tryPoint host world = make start := by
      simp only [tryPoint, answer]
      rfl
    have ends : ending (tryPoint host) world = ending make start := by
      simp only [ending, willing]
    have left : after (tryPoint host) world = after make start := by
      simp only [after, willing]
    have files : start.files = world.files := rfl
    rw [ends, left]
    simp only [make, ending_bind, after_bind, Action.ending_filing, Action.after_filing,
      Filing.makeDirectory, Filing.ending_change, files]
    cases nameable : FileTree.isNameable path with
    | false => exact .error rfl rfl rfl fun _ => .inr ⟨⟨_, nameable⟩, rfl⟩
    | true =>
      simp only [if_true]
      cases world.files.withNew path .directory with
      | error refusal => exact .error rfl rfl rfl fun _ => .inl ⟨_, rfl⟩
      | ok changed => exact .ok rfl rfl rfl nameable rfl

theorem places_makePointWith (retries : Nat) :
    Places host world (ending (makePointWith host retries) world)
      (after (makePointWith host retries) world) := by
  induction retries generalizing world with
  | zero =>
    have tried := places_tryPoint host world
    unfold makePointWith
    simp only [ending_bind, after_bind, Action.ending_attempt, Action.after_attempt]
    cases ends : ending (tryPoint host) world with
    | ok point =>
      rw [ends] at tried
      exact tried
    | error fault =>
      exact .error tried.commands tried.settings tried.records fun faithful =>
        (tried.fault faithful fault ends).lastFault
  | succ retries ih =>
    have tried := places_tryPoint host world
    unfold makePointWith
    simp only [ending_bind, after_bind, Action.ending_attempt, Action.after_attempt, ending_get,
      after_get]
    cases ends : ending (tryPoint host) world with
    | ok point =>
      rw [ends] at tried
      exact tried
    | error fault =>
      cases taken : fault.problem.isPresent with
      | false =>
        simp only [taken, Bool.false_eq_true, if_false, ending_bind, after_bind, ending_throw,
          after_throw]
        exact .error tried.commands tried.settings tried.records fun faithful =>
          tried.fault faithful fault ends
      | true =>
        -- the next try starts from a world with the same settings
        let next : World σ := { after (tryPoint host) world with mounts := world.mounts + 1 }
        have later := ih next
        have same : next.settings = world.settings := tried.settings
        simp only [taken, if_true, ending_bind, after_bind, ending_modify, after_modify]
        exact ⟨later.commands.trans tried.commands, later.settings.trans same,
          later.records.trans tried.records, same ▸ later.point, same ▸ later.fault⟩

theorem places_makePoint :
    Places host world (ending (makePoint host) world) (after (makePoint host) world) :=
  places_makePointWith host world host.retries

end Point

end Mount

namespace Scene

variable (host : Host σ) (scene : Scene σ) (point : String)

/-- How the removal of a mount point ends. -/
def withdrawal : Except CallFault Unit :=
  match (host.refuse scene.memory .removeDirectory point).1 with
  | some fault => .error fault
  | none => ending (Filing.removeDirectory point) scene.files

/-- What the removal of a mount point leaves. -/
def withdrawn : Scene σ :=
  let (refusal, memory) := host.refuse scene.memory .removeDirectory point
  match refusal with
  | some _ => ⟨memory, scene.files⟩
  | none => ⟨memory, after (Filing.removeDirectory point) scene.files⟩

/-- How a release ends that removes a mount point. Errors of the operating system are logged. -/
def dismissing : Except Fault Unit :=
  match scene.withdrawal host point with
  | .error (.misuse wrong) => .error (.ofMisuse wrong)
  | _ => .ok ()

variable {host scene point}

/-- Nothing but the operating system keeps a directory with a proper name from being removed. -/
theorem dismissing_eq_ok (faithful : host.Faithful) (nameable : FileTree.isNameable point = true) :
    scene.dismissing host point = .ok () := by
  unfold dismissing
  split
  · rename_i wrong fails
    unfold withdrawal at fails
    split at fails
    · next refuses =>
      cases fails
      cases faithful.refuse _ _ _ _ refuses
    · cases Filing.isMisuse_of_change point scene.files nameable fails
  · rfl

end Scene

namespace Mount

section Release

variable (host) (world : World σ) (point : String) (mounted : Bool)

def unmounting (point : String) : List (List String) := [["sync"], ["umount", point]]

/-- What a release runs, any answer being good enough. -/
def releasePlan (point : String) (mounted : Bool) : List Plan.Step :=
  if mounted then (unmounting point).map fun argv => ⟨argv, .answer⟩ else []

/-- How a release ends in a scene. -/
def releasing (scene : Scene σ) : Except Fault Unit := do
  Plan.verdict host scene (releasePlan point mounted)
  (scene.through host ((releasePlan point mounted).map (·.argv))).dismissing host point

def clearPoint (host : Host σ) (point : String) : Action σ Unit :=
  orLog "Remove error" (Action.guarded host .removeDirectory point (Filing.removeDirectory point))

def unmount (host : Host σ) (point : String) (mounted : Bool) : Action σ Unit :=
  if mounted then do
    orLog "Sync error" (Command.run host ["sync"])
    orLog "Umount error" (Command.run host ["umount", point])
  else pure ()

theorem release_eq : release host point mounted =
    unmount host point mounted >>= fun _ => clearPoint host point := by
  cases mounted <;> simp [release, unmount, clearPoint]

theorem orLog_eq (heading : String) (action : Action σ α) :
    orLog heading action = tolerate Logger.ownPartition
      (fun fault => heading ++ ": " ++ fault.message) action := by
  unfold orLog tolerate
  congr 1

theorem performs_unmount :
    Performs host world (releasePlan point mounted) (unmount host point mounted) := by
  cases mounted with
  | false => exact .pure ()
  | true =>
    simp only [unmount, if_true, orLog_eq]
    exact (Performs.tolerate _ _ _).bind fun _ _ => Performs.tolerate _ _ _

theorem guarded_withdrawal :
    let removal := Action.guarded host .removeDirectory point (Filing.removeDirectory point)
    ending removal world = (world.scene.withdrawal host point).mapError .ofCall ∧
      (after removal world).scene = world.scene.withdrawn host point ∧
      (after removal world).commands = world.commands ∧
      (after removal world).settings = world.settings ∧
      (after removal world).records = world.records := by
  dsimp only
  rw [ending_guarded, after_guarded]
  unfold Scene.withdrawal Scene.withdrawn World.scene
  rcases host.refuse world.memory .removeDirectory point with ⟨_ | fault, memory⟩
  · exact ⟨rfl, rfl, rfl, rfl, rfl⟩
  · exact ⟨rfl, rfl, rfl, rfl, rfl⟩

/-- The removal of a mount point goes well or is logged, and nothing is run for it. -/
theorem clearPoint_spec :
    ending (clearPoint host point) world = world.scene.dismissing host point ∧
      (after (clearPoint host point) world).scene = world.scene.withdrawn host point ∧
      (after (clearPoint host point) world).commands = world.commands ∧
      (after (clearPoint host point) world).settings = world.settings := by
  let removal := Action.guarded host .removeDirectory point (Filing.removeDirectory point)
  obtain ⟨removes, leaves, unheard, unset, -⟩ := guarded_withdrawal host world point
  obtain ⟨scene, commands, settings⟩ := alike_after_tolerate Logger.ownPartition
    (fun fault => "Remove error" ++ ": " ++ fault.message) removal world
  rw [clearPoint, orLog_eq]
  refine ⟨?_, scene.trans leaves, commands.trans unheard, settings.trans unset⟩
  rw [ending_tolerate, removes, Scene.dismissing]
  rcases world.scene.withdrawal host point with (_ | _) | done <;> rfl

variable {host point mounted} {scene : Scene σ}

theorem releasing_of_answered (answered : Plan.fulfils host scene (releasePlan point mounted) = true) :
    releasing host point mounted scene
      = (scene.through host ((releasePlan point mounted).map (·.argv))).dismissing host point := by
  rw [releasing, Plan.verdict_eq_ok_iff.2 answered]
  rfl

theorem releasing_of_verdict {fault : Fault}
    (bad : Plan.verdict host scene (releasePlan point mounted) = .error fault) :
    releasing host point mounted scene = .error fault := by
  rw [releasing, bad]
  rfl

/-- A release of which the calls go right runs all its commands and removes the point. -/
theorem release_of_answered
    (answered : Plan.fulfils host world.scene (releasePlan point mounted) = true) :
    let commands := (releasePlan point mounted).map (·.argv)
    ending (release host point mounted) world = releasing host point mounted world.scene ∧
      (after (release host point mounted) world).commands = world.commands ++ commands ∧
      (after (release host point mounted) world).scene
        = (world.scene.through host commands).withdrawn host point ∧
      (after (release host point mounted) world).settings = world.settings := by
  have unmounts := performs_unmount host world point mounted
  have good := Plan.verdict_eq_ok_iff.2 answered
  dsimp only
  rw [release_eq, ending_bind, after_bind, releasing_of_answered answered]
  cases ends : ending (unmount host point mounted) world with
  | error fault => cases (unmounts.verdict_of_error ends).symm.trans good
  | ok done =>
    obtain ⟨clears, scene, commands, settings⟩ :=
      clearPoint_spec host (after (unmount host point mounted) world) point
    have detached := unmounts.scene_of_ok ends
    refine ⟨?_, ?_, ?_, settings.trans unmounts.settings⟩
    · rw [clears, detached]
    · rw [commands, unmounts.commands, Plan.issued_of_ok good]
    · rw [scene, detached]

/-- A release stops at a call that goes wrong, and the point stays. -/
theorem release_of_unanswered
    (unanswered : Plan.fulfils host world.scene (releasePlan point mounted) = false) :
    let issued := Plan.issued host world.scene (releasePlan point mounted)
    ending (release host point mounted) world = releasing host point mounted world.scene ∧
      (after (release host point mounted) world).commands = world.commands ++ issued ∧
      (after (release host point mounted) world).scene = world.scene.through host issued ∧
      (after (release host point mounted) world).settings = world.settings := by
  have unmounts := performs_unmount host world point mounted
  obtain ⟨fault, bad⟩ := Plan.exists_verdict_of_not_fulfils unanswered
  dsimp only
  rw [release_eq, ending_bind, after_bind, releasing_of_verdict bad]
  cases ends : ending (unmount host point mounted) world with
  | error other =>
    cases (unmounts.verdict_of_error ends).symm.trans bad
    exact ⟨rfl, unmounts.commands, unmounts.scene, unmounts.settings⟩
  | ok done => cases (unmounts.verdict_of_ok ends).symm.trans bad

/-- Whichever way it goes, a release issues what its plan says and sets nothing. -/
theorem release_spec (host : Host σ) (point : String) (mounted : Bool) :
    ending (release host point mounted) world = releasing host point mounted world.scene ∧
      (after (release host point mounted) world).commands = world.commands
        ++ Plan.issued host world.scene (releasePlan point mounted) ∧
      (after (release host point mounted) world).settings = world.settings := by
  cases answered : Plan.fulfils host world.scene (releasePlan point mounted) with
  | true =>
    obtain ⟨ends, commands, -, settings⟩ := release_of_answered world answered
    rw [Plan.issued_of_ok (Plan.verdict_eq_ok_iff.2 answered)]
    exact ⟨ends, commands, settings⟩
  | false =>
    obtain ⟨ends, commands, -, settings⟩ := release_of_unanswered world answered
    exact ⟨ends, commands, settings⟩

/-- A release that ends well issued all its commands. -/
theorem issued_of_releasing (good : (releasing host point mounted scene).isOk = true) :
    Plan.issued host scene (releasePlan point mounted)
      = (releasePlan point mounted).map (·.argv) := by
  cases judged : Plan.verdict host scene (releasePlan point mounted) with
  | ok done => exact Plan.issued_of_ok judged
  | error fault =>
    rw [releasing_of_verdict judged] at good
    cases good

/-- Where the calls of a release go right, it ends well. -/
theorem releasing_eq_ok (faithful : host.Faithful) (nameable : FileTree.isNameable point = true)
    (answered : Plan.fulfils host scene (releasePlan point mounted) = true) :
    releasing host point mounted scene = .ok () :=
  (releasing_of_answered answered).trans (Scene.dismissing_eq_ok faithful nameable)

/-- The calls of a release go wrong only over output that is no text. -/
theorem releasing_eq_error (faithful : host.Faithful) (nameable : FileTree.isNameable point = true)
    (unanswered : Plan.fulfils host scene (releasePlan point mounted) = false) :
    ∃ wrong, releasing host point mounted scene = .error (.ofMisuse (.undecodable wrong)) := by
  obtain ⟨fault, bad⟩ := Plan.exists_verdict_of_not_fulfils unanswered
  obtain ⟨done, failed, later, plan, -, breaks, -⟩ := Plan.exists_of_error bad
  have planned : failed ∈ releasePlan point mounted := by simp [plan]
  have proper : failed.argv.all FileTree.isNameable = true ∧ failed = ⟨failed.argv, .answer⟩ := by
    have plain : (["sync", "umount"] : List String).all FileTree.isNameable = true := by decide
    cases mounted <;>
      simp only [releasePlan, unmounting, if_true, Bool.false_eq_true, if_false, List.map_cons,
        List.map_nil, List.mem_cons, List.not_mem_nil, or_false] at planned
    rcases planned with rfl | rfl <;> simp_all
  rw [proper.2, Plan.Step.verdict_answer] at breaks
  split at breaks
  · cases breaks
  · rename_i other fails
    split at breaks
    · cases breaks
    · rename_i uncommanded
      cases breaks
      rcases faithful.fault_of_reading fails with command | ⟨nameless, -⟩ | ⟨wrong, rfl⟩
      · exact absurd command uncommanded
      · simp [proper.1] at nameless
      · exact ⟨wrong, releasing_of_verdict bad⟩

end Release

section Within

variable (path : String) (body : String → Action σ α) (world : World σ)

def mounting (path point : String) : List String := ["mount", path, point]

/-- The world in which the mount of an image on a point is known to have failed or gone well. -/
def tried (host : Host σ) (path point : String) (world : World σ) : World σ :=
  after (Command.run host (mounting path point)) (after (makePoint host) world)

/-- The world in which a body runs, behind the mount of an image on a point. -/
def mounted (host : Host σ) (path point : String) (world : World σ) : World σ :=
  Logger.ownPartition.noted .debug ("Mounted " ++ path ++ " at " ++ point)
    (tried host path point world)

theorem commands_tried (host : Host σ) (point : String) :
    (tried host path point world).commands = world.commands ++ [mounting path point] := by
  rw [tried, Command.commands_after_run, (places_makePoint host world).commands]

theorem scene_tried (host : Host σ) (point : String) :
    (tried host path point world).scene
      = (after (makePoint host) world).scene.next host (mounting path point) :=
  Command.scene_after_run host (mounting path point) _

theorem settings_tried (host : Host σ) (point : String) :
    (tried host path point world).settings = world.settings := by
  rw [tried, Command.settings_after_run, (places_makePoint host world).settings]

theorem runValues_mount (host : Host σ) (point : String) :
    Command.runValues host [.text "mount", .text path, .text point]
      = Command.run host (mounting path point) := rfl

theorem within_of_unplaced {fault : Fault}
    (fails : ending (makePoint host) world = .error fault) :
    ending (within host (.text path) body) world = .error fault ∧
      after (within host (.text path) body) world = after (makePoint host) world := by
  rw [within, ending_bind, after_bind, fails]
  exact ⟨rfl, rfl⟩

/-- Where the mount fails, the body does not run and nothing is unmounted. -/
theorem within_of_unmounted {point : String} {fault : Fault}
    (placed : ending (makePoint host) world = .ok point)
    (fails : Command.reading (mounting path point)
      ((after (makePoint host) world).scene.reply host (mounting path point)) = .error fault) :
    let failed := tried host path point world
    ending (within host (.text path) body) world
        = (do releasing host point false failed.scene; .error fault) ∧
      after (within host (.text path) body) world = after (release host point false) failed := by
  have fails : ending (Command.run host (mounting path point)) (after (makePoint host) world)
      = .error fault := by rw [Command.ending_run, fails]
  have ends := (release_spec (tried host path point world) host point false).1
  rw [tried] at ends ⊢
  simp only [within, runValues_mount, ending_bind, after_bind, placed, Action.ending_attempt,
    Action.after_attempt, fails, ends]
  cases releasing host point false _ <;> exact ⟨rfl, rfl⟩

/-- Where the mount goes well, the body runs, and the end is its end, unless a call of the release
goes wrong. -/
theorem within_of_mounted {point output : String}
    (placed : ending (makePoint host) world = .ok point)
    (mounts : Command.reading (mounting path point)
      ((after (makePoint host) world).scene.reply host (mounting path point)) = .ok output) :
    let before := mounted host path point world
    let behind := after (body point) before
    ending (within host (.text path) body) world
        = (do releasing host point true behind.scene; ending (body point) before) ∧
      after (within host (.text path) body) world = after (release host point true) behind := by
  have mounts : ending (Command.run host (mounting path point)) (after (makePoint host) world)
      = .ok output := by rw [Command.ending_run, mounts]
  have ends := (release_spec (after (body point) (mounted host path point world)) host point true).1
  have before : Logger.ownPartition.noted .debug ("Mounted " ++ (Value.text path).shown ++ " at "
      ++ point) (after (Command.run host (mounting path point)) (after (makePoint host) world))
        = mounted host path point world := rfl
  dsimp only
  simp only [within, runValues_mount, ending_bind, after_bind, placed, Action.ending_attempt,
    Action.after_attempt, mounts, Logger.ending_log, Logger.after_log, before, ends]
  cases releasing host point true _ with
  | error fault => exact ⟨rfl, rfl⟩
  | ok done => cases ending (body point) (mounted host path point world) <;> exact ⟨rfl, rfl⟩

end Within

end Mount

end DiskFixture
