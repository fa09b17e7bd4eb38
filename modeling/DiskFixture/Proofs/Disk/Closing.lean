import DiskFixture.Proofs.Disk.Trace

/-!
One closing of a disk. A closing detaches the device, unless there is none, and only then removes
the image. Main statements: what a closing returns, issues and leaves in each of the cases.
-/

namespace DiskFixture

variable {σ : Type}

namespace LoopDisk

section RemoveImage

variable (host : Host σ) (disk : LoopDisk) (world : World σ)

/-- What a closing makes of the fault of a removal. -/
def removalFault (path : String) (fault : Fault) : Fault :=
  if fault.problem.isSystem then
    .dueTo (.teardown (.text ("Failed to remove " ++ path ++ ": " ++ fault.message)) .null
      (.text path)) fault
  else fault

theorem ending_removeImage :
    ending (removeImage host disk) world
      = .ok (disk, (ending (removePath host disk.path) world).mapError
          (removalFault disk.path)) := by
  cases ends : ending (removePath host disk.path) world with
  | ok done => simp [removeImage, ending_bind, ends]
  | error fault =>
    cases system : fault.problem.isSystem <;>
      simp [removeImage, ending_bind, ends, removalFault, system]

theorem after_removeImage :
    after (removeImage host disk) world = after (removePath host disk.path) world := by
  cases ends : ending (removePath host disk.path) world with
  | ok done => simp [removeImage, after_bind, ends]
  | error fault =>
    cases system : fault.problem.isSystem <;> simp [removeImage, after_bind, ends, system]

end RemoveImage

/-- What a closing reports of the removal of a path. A call that went wrong is not caught. -/
structure Reports (host : Host σ) (scene : Scene σ) (path : String)
    (outcome : Except Fault Unit) : Prop where
  ok_iff : outcome = .ok () ↔ scene.clears host path = true
  teardown : ∀ error, scene.removal host path = .error (.system error) →
    scene.clears host path = false →
      ∃ message causes, outcome = .error ⟨.teardown (.text message) .null (.text path), causes⟩
  uncaught : ∀ wrong, scene.removal host path = .error (.misuse wrong) →
    outcome = .error (.ofMisuse wrong)

theorem report_eq_ok_iff (host : Host σ) (world : World σ) (path : String) :
    (ending (removePath host path) world).mapError (removalFault path) = .ok () ↔
      world.scene.clears host path = true := by
  cases clear : world.scene.clears host path with
  | true => simp [ending_removePath_of_clears host path world clear]
  | false =>
    obtain ⟨fault, -, ends⟩ := ending_removePath_of_not_clears host path world clear
    simp [ends]

theorem reports_removePath (host : Host σ) (world : World σ) (path : String) :
    Reports host world.scene path
      ((ending (removePath host path) world).mapError (removalFault path)) := by
  refine ⟨report_eq_ok_iff host world path, fun error removes clear => ?_, fun wrong removes => ?_⟩
  · obtain ⟨fault, fails, ends⟩ := ending_removePath_of_not_clears host path world clear
    cases fails.symm.trans removes
    rw [ends]
    exact ⟨_, _, rfl⟩
  · have clear : world.scene.clears host path = false := by
      unfold Scene.clears
      rw [removes]
      exact Bool.and_false _
    obtain ⟨fault, fails, ends⟩ := ending_removePath_of_not_clears host path world clear
    cases fails.symm.trans removes
    rw [ends]
    rfl

/-- On a faithful host, what a closing reports of a removal is that it went well, a fault of the
teardown, or a call that went wrong. -/
theorem Reports.cases {host : Host σ} {scene : Scene σ} {path : String}
    {outcome : Except Fault Unit} (reports : Reports host scene path outcome)
    (faithful : host.Faithful) :
    outcome = .ok () ∨
      ∃ fault, outcome = .error fault ∧ (fault.problem.isTeardown = true ∨ fault.IsOfCall) := by
  cases clear : scene.clears host path with
  | true => exact .inl (reports.ok_iff.2 clear)
  | false =>
    right
    obtain ⟨fault, removes, -⟩ := Scene.clearing_of_not_clears clear
    cases fault with
    | system error =>
      obtain ⟨message, causes, report⟩ := reports.teardown error removes clear
      exact ⟨_, report, .inl rfl⟩
    | misuse wrong =>
      refine ⟨_, reports.uncaught wrong removes, .inr ?_⟩
      rcases Scene.fault_of_removal faithful removes with proper | ⟨-, same⟩
      · cases proper
      · cases same
        exact .inl rfl

/-- What a closing makes of the fault of a release. -/
def detachFault (path : String) (device : Value) (fault : Fault) : Fault :=
  if fault.problem.isCommand then
    .dueTo (.teardown (.text ("Failed to detach " ++ device.shown ++ ": " ++ fault.message)) device
      (.text path)) fault
  else fault

section Close

variable (host : Host σ) (disk : LoopDisk) (world : World σ)

/-- How a closing ends: the disk as it is afterwards, and the outcome. -/
def closing : LoopDisk × Except Fault Unit :=
  match ending (disk.close host) world with
  | .ok result => result
  | .error fault => (disk, .error fault)

theorem close_of_detached (detached : disk.attached? = none) :
    disk.close host = disk.removeImage host := by
  simp [close, detached]

theorem closing_of_detached (detached : disk.attached? = none) :
    disk.closing host world
      = (disk, (ending (removePath host disk.path) world).mapError (removalFault disk.path)) := by
  rw [closing, close_of_detached host disk detached, ending_removeImage]

theorem after_close_of_detached (detached : disk.attached? = none) :
    (after (disk.close host) world).commands = world.commands ∧
      (after (disk.close host) world).scene = world.scene.removed host disk.path := by
  obtain ⟨-, scene, commands, -⟩ := removePath_spec host disk.path world
  rw [close_of_detached host disk detached, after_removeImage]
  exact ⟨commands, scene⟩

section Attached

variable {disk world} {device : Value} (attached : disk.attached? = some device)
include attached

/-- A closing that detaches the device is the closing of the disk without it, afterwards. -/
theorem close_of_detach (ends : ending (detach host device) world = .ok ()) :
    disk.closing host world
        = closing host { disk with device := .null } (after (detach host device) world) ∧
      after (disk.close host) world
        = after (close host { disk with device := .null })
          (after (detach host device) world) := by
  have detached : attached? { disk with device := .null } = none := rfl
  rw [closing, closing, close_of_detached host _ detached]
  simp [close, attached, ending_bind, after_bind, ends, ending_removeImage]

/-- A closing that cannot detach the device leaves the disk as it is. -/
theorem close_of_failed_detach {fault : Fault}
    (fails : ending (detach host device) world = .error fault) :
    disk.closing host world = (disk, .error (detachFault disk.path device fault)) ∧
      after (disk.close host) world = after (detach host device) world := by
  cases command : fault.problem.isCommand <;>
    simp [closing, close, attached, ending_bind, after_bind, fails, command, detachFault]

end Attached

/-- The release of a device, if that can be a word of a command. -/
def releaseOf : Value → List (List String)
  | .text device => [Plan.release device]
  | _ => []

/-- The commands that a closing of the disk issues. -/
def releases (disk : LoopDisk) : List (List String) :=
  disk.attached?.elim [] releaseOf

/-- The name of the device of a disk, if it has one that is not empty. -/
def held? (disk : LoopDisk) : Option String :=
  match disk.device with
  | .text device => if device = "" then none else some device
  | _ => none

theorem releases_eq (disk : LoopDisk) : disk.releases = disk.held?.toList.map Plan.release := by
  cases named : disk.device with
  | text device =>
    by_cases empty : device = "" <;>
      simp [releases, attached?, held?, named, Value.isTruthy, releaseOf, empty]
  | _ =>
    simp only [releases, attached?, held?, named]
    split <;> rfl

theorem releases_of_text {disk : LoopDisk} {device : String} (named : disk.device = .text device) :
    disk.releases = if device = "" then [] else [Plan.release device] := by
  by_cases empty : device = "" <;> simp [releases_eq, held?, named, empty]

theorem commands_after_detach (device : Value) :
    (after (detach host device) world).commands = world.commands ++ releaseOf device := by
  cases device with
  | text device => exact (after_detach host world device).1
  | _ => exact (List.append_nil _).symm

/-- Whatever comes of it, a closing issues the release of the device if there is one, and nothing
else. -/
theorem commands_after_close :
    (after (disk.close host) world).commands = world.commands ++ disk.releases := by
  cases attached : disk.attached? with
  | none =>
    rw [(after_close_of_detached host disk world attached).1, releases, attached]
    exact (List.append_nil _).symm
  | some device =>
    have issued := commands_after_detach host world device
    rw [releases, attached]
    cases detaches : ending (detach host device) world with
    | ok done =>
      rw [(close_of_detach host attached detaches).2,
        (after_close_of_detached host _ _ rfl).1, issued]
      rfl
    | error fault =>
      rw [(close_of_failed_detach host attached detaches).2, issued]
      rfl

/-- A closing never ends in a fault; what went wrong is part of its result. -/
theorem ending_close : ending (disk.close host) world = .ok (disk.closing host world) := by
  have returns : ∃ result, ending (disk.close host) world = .ok result := by
    cases attached : disk.attached? with
    | none => exact ⟨_, close_of_detached host disk attached ▸ ending_removeImage host disk world⟩
    | some device =>
      cases detaches : ending (detach host device) world with
      | ok done =>
        exact ⟨_, by simp [close, attached, ending_bind, detaches, ending_removeImage]; rfl⟩
      | error fault =>
        cases command : fault.problem.isCommand <;>
          exact ⟨_, by simp [close, attached, ending_bind, detaches, command]; rfl⟩
  obtain ⟨result, ends⟩ := returns
  rw [closing, ends]

/-- A closing leaves a disk as it is, or without its device. -/
theorem closing_cases : (disk.closing host world).1 = disk ∨
    (disk.closing host world).1 = { disk with device := .null } := by
  cases attached : disk.attached? with
  | none => exact .inl (by rw [closing_of_detached host disk world attached])
  | some device =>
    cases detaches : ending (detach host device) world with
    | ok done =>
      right
      rw [(close_of_detach host attached detaches).1, closing_of_detached host _ _ rfl]
    | error fault =>
      exact .inl (by rw [(close_of_failed_detach host attached detaches).1])

theorem attached?_closing_of_ok (closed : (disk.closing host world).2 = .ok ()) :
    (disk.closing host world).1.attached? = none := by
  cases attached : disk.attached? with
  | none => rw [closing_of_detached host disk world attached, attached]
  | some device =>
    cases detaches : ending (detach host device) world with
    | ok done =>
      rw [(close_of_detach host attached detaches).1, closing_of_detached host _ _ rfl]
      rfl
    | error fault =>
      simp [(close_of_failed_detach host attached detaches).1] at closed

theorem path_closing : (disk.closing host world).1.path = disk.path := by
  rcases closing_cases host disk world with same | freed
  · rw [same]
  · rw [freed]

end Close

end LoopDisk

end DiskFixture
