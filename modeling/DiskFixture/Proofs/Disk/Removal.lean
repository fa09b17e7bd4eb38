import DiskFixture.Disk.Release
import DiskFixture.Proofs.Files.Deletion
import DiskFixture.Proofs.Scene

/-!
The removal of what is at a path, as the host and the files see it: the host is asked once, and if
it does not refuse, the path is deleted. Main statement: a removal fails only with what the host or
the files say, and that a single entry is not there is no failure.
-/

namespace DiskFixture

variable {σ : Type}

namespace Scene

variable (host : Host σ) (scene : Scene σ) (path : String)

def removal : Except CallFault Unit :=
  match (host.refuse scene.memory (scene.files.removalOf path) path).1 with
  | some fault => .error fault
  | none => ending (Filing.delete path) scene.files

def removed : Scene σ :=
  let (refusal, memory) := host.refuse scene.memory (scene.files.removalOf path) path
  match refusal with
  | some _ => ⟨memory, scene.files⟩
  | none => ⟨memory, after (Filing.delete path) scene.files⟩

/-- Whether a failed removal was that of a single entry that is not there. -/
def isIdle (fault : CallFault) : Bool :=
  scene.files.removalOf path == .remove && fault.isOf .missing

/-- How the removal of what is at a path ends in a scene. -/
def clearing : Except Fault Unit :=
  match scene.removal host path with
  | .ok _ => .ok ()
  | .error fault => if scene.isIdle path fault then .ok () else .error (.ofCall fault)

/-- Whether a removal goes well, or finds nothing to remove. -/
def clears : Bool :=
  match scene.removal host path with
  | .ok _ => true
  | .error fault => scene.isIdle path fault

/-- Whether a removal finds nothing to remove. -/
def findsNothing : Bool :=
  match scene.removal host path with
  | .ok _ => false
  | .error fault => scene.isIdle path fault

end Scene

theorem Fault.isMissing_ofCall (fault : CallFault) :
    (Fault.ofCall fault).problem.isMissing = fault.isOf .missing := by
  cases fault <;> rfl

theorem Fault.isOperational_ofCall {fault : CallFault} (proper : fault.isMisuse = false) :
    (Fault.ofCall fault).problem.isOperational = true := by
  cases fault with
  | system error => rfl
  | misuse wrong => cases proper

/-- What makes a removal fail is the operating system, or that the path could name nothing. -/
theorem Scene.fault_of_removal {host : Host σ} {scene : Scene σ} {path : String}
    {fault : CallFault} (faithful : host.Faithful)
    (fails : scene.removal host path = .error fault) :
    fault.isMisuse = false ∨ FileTree.isNameable path = false ∧ fault = .nullInPath := by
  unfold removal at fails
  cases refuses : (host.refuse scene.memory (scene.files.removalOf path) path).1 with
  | some refusal =>
    simp only [refuses, Except.error.injEq] at fails
    exact .inl (fails ▸ faithful.refuse _ _ _ _ refuses)
  | none =>
    rw [refuses] at fails
    cases nameable : FileTree.isNameable path with
    | true => exact .inl (Filing.isMisuse_of_delete _ _ nameable fails)
    | false =>
      have ends := (Filing.delete_of_not_nameable path scene.files nameable).1
      exact .inr ⟨rfl, Except.error.inj (fails.symm.trans ends)⟩

namespace Scene

variable {host : Host σ} {scene : Scene σ} {path : String}

theorem clearing_of_clears (clear : scene.clears host path = true) :
    scene.clearing host path = .ok () := by
  unfold clearing
  unfold clears at clear
  cases fails : scene.removal host path with
  | ok done => rfl
  | error fault =>
    rw [fails] at clear
    exact if_pos clear

theorem clearing_of_not_clears (clear : scene.clears host path = false) :
    ∃ fault, scene.removal host path = .error fault ∧
      scene.clearing host path = .error (.ofCall fault) := by
  unfold clearing
  unfold clears at clear
  cases fails : scene.removal host path with
  | ok done => simp [fails] at clear
  | error fault =>
    rw [fails] at clear
    exact ⟨fault, rfl, if_neg (by simp [clear])⟩

/-- On a faithful host, a removal fails as the operating system does, or over a path that could name
nothing. -/
theorem fault_of_clearing {fault : Fault} (faithful : host.Faithful)
    (fails : scene.clearing host path = .error fault) :
    fault.problem.isOperational = true ∨
      FileTree.isNameable path = false ∧ fault = .ofMisuse .nullInPath := by
  cases clear : scene.clears host path with
  | true =>
    rw [clearing_of_clears clear] at fails
    cases fails
  | false =>
    obtain ⟨other, removes, ends⟩ := clearing_of_not_clears clear
    cases ends.symm.trans fails
    rcases fault_of_removal faithful removes with proper | ⟨nameless, rfl⟩
    · exact .inl (Fault.isOperational_ofCall proper)
    · exact .inr ⟨nameless, rfl⟩

end Scene

section Guarded

variable (host : Host σ) (operation : Guarded) (path : String) (step : Filing Unit)
  (world : World σ)

theorem ending_guarded :
    ending (Action.guarded host operation path step) world =
      match (host.refuse world.memory operation path).1 with
      | some fault => .error (.ofCall fault)
      | none => (ending step world.files).mapError .ofCall := by
  rcases answer : host.refuse world.memory operation path with ⟨refusal, memory⟩
  cases refusal with
  | some fault => simp [ending, Action.guarded, answer]
  | none =>
    rw [← Action.ending_filing { world with memory } step]
    simp only [ending, Action.guarded, answer]

theorem after_guarded :
    after (Action.guarded host operation path step) world =
      let (refusal, memory) := host.refuse world.memory operation path
      match refusal with
      | some _ => { world with memory }
      | none => { world with memory, files := after step world.files } := by
  rcases answer : host.refuse world.memory operation path with ⟨refusal, memory⟩
  cases refusal with
  | some fault => simp [after, Action.guarded, answer]
  | none =>
    have filed := Action.after_filing { world with memory } step
    simp only [after, Action.guarded, answer] at filed ⊢
    exact filed

end Guarded

section RemovePath

variable (host : Host σ) (path : String) (world : World σ)

theorem removal_eq {operation : Guarded} {step : Filing Unit}
    (asked : world.files.removalOf path = operation)
    (deletes : Filing.delete path world.files = step world.files) :
    ending (Action.guarded host operation path step) world
        = (world.scene.removal host path).mapError .ofCall ∧
      (after (Action.guarded host operation path step) world).scene
        = world.scene.removed host path ∧
      (after (Action.guarded host operation path step) world).commands = world.commands ∧
      (after (Action.guarded host operation path step) world).settings = world.settings := by
  subst operation
  rw [ending_guarded, after_guarded]
  unfold Scene.removal Scene.removed World.scene ending after
  rw [deletes]
  rcases host.refuse world.memory (world.files.removalOf path) path with ⟨refusal, memory⟩
  cases refusal with
  | some fault => exact ⟨rfl, rfl, rfl, rfl⟩
  | none => exact ⟨rfl, rfl, rfl, rfl⟩

theorem removePath_spec :
    ending (removePath host path) world = world.scene.clearing host path ∧
      (after (removePath host path) world).scene = world.scene.removed host path ∧
      (after (removePath host path) world).commands = world.commands ∧
      (after (removePath host path) world).settings = world.settings := by
  unfold Scene.clearing
  by_cases tree : (world.files.isDirectory path && !world.files.isLink path) = true
  · have asked : world.files.removalOf path = .removeTree := if_pos tree
    have deletes : Filing.delete path world.files = Filing.removeTree path world.files := by
      rw [Filing.delete_eq, if_pos asked]
    obtain ⟨ends, scene, commands, settings⟩ := removal_eq host path world asked deletes
    have idle : ∀ fault, world.scene.isIdle path fault = false := by
      simp [Scene.isIdle, World.scene, asked]
    simp only [removePath, ending_bind, after_bind, ending_get, after_get, tree, if_true, ends,
      scene, commands, settings, idle]
    cases world.scene.removal host path <;> simp
  · have asked : world.files.removalOf path = .remove := if_neg tree
    have deletes : Filing.delete path world.files = Filing.remove path world.files := by
      rw [Filing.delete_eq, asked, if_neg (by decide)]
    obtain ⟨ends, scene, commands, settings⟩ := removal_eq host path world asked deletes
    have idle : ∀ fault, world.scene.isIdle path fault = fault.isOf .missing := by
      simp [Scene.isIdle, World.scene, asked]
    simp only [removePath, ending_bind, after_bind, ending_get, after_get, if_neg tree,
      Action.ending_attempt, Action.after_attempt, ends, idle]
    cases world.scene.removal host path with
    | ok done => simp [scene, commands, settings]
    | error fault =>
      cases missing : fault.isOf .missing <;>
        simp [Fault.isMissing_ofCall, missing, scene, commands, settings]

theorem ending_removePath_of_clears (clear : world.scene.clears host path = true) :
    ending (removePath host path) world = .ok () := by
  rw [(removePath_spec host path world).1]
  exact Scene.clearing_of_clears clear

theorem ending_removePath_of_not_clears (clear : world.scene.clears host path = false) :
    ∃ fault, world.scene.removal host path = .error fault ∧
      ending (removePath host path) world = .error (.ofCall fault) := by
  rw [(removePath_spec host path world).1]
  exact Scene.clearing_of_not_clears clear

end RemovePath

namespace Scene

variable {host : Host σ} {scene : Scene σ} {path : String}

theorem removal_cases (host : Host σ) (scene : Scene σ) (path : String) :
    ((∃ fault, scene.removal host path = .error fault) ∧
      (scene.removed host path).files = scene.files) ∨
    (scene.removal host path = ending (Filing.delete path) scene.files ∧
      (scene.removed host path).files = after (Filing.delete path) scene.files) := by
  unfold removal removed
  rcases host.refuse scene.memory (scene.files.removalOf path) path with ⟨refusal, memory⟩
  cases refusal with
  | some fault => exact .inl ⟨⟨fault, rfl⟩, rfl⟩
  | none => exact .inr ⟨rfl, rfl⟩

theorem findsNothing_eq_true_iff : scene.findsNothing host path = true ↔
    ∃ fault, scene.removal host path = .error fault ∧ scene.isIdle path fault = true := by
  unfold findsNothing
  cases scene.removal host path <;> simp

theorem files_removed_of_findsNothing (nothing : scene.findsNothing host path = true) :
    (scene.removed host path).files = scene.files := by
  obtain ⟨fault, fails, idle⟩ := findsNothing_eq_true_iff.1 nothing
  rcases removal_cases host scene path with ⟨-, same⟩ | ⟨deletes, left⟩
  · exact same
  · have single : ¬ scene.files.removalOf path = .removeTree := by
      simp only [isIdle, Bool.and_eq_true, beq_iff_eq] at idle
      simp [idle.1]
    rw [left, Filing.after_delete, if_neg single]
    rw [deletes, Filing.ending_delete, if_neg single] at fails
    exact Filing.after_change_of_error fails

/-- A removal that goes well leaves the files as they are only where it finds nothing. -/
theorem findsNothing_iff :
    (scene.clears host path = true ∧ (scene.removed host path).files = scene.files) ↔
      scene.findsNothing host path = true := by
  constructor
  · rintro ⟨clear, same⟩
    unfold clears at clear
    cases removes : scene.removal host path with
    | error fault =>
      rw [removes] at clear
      exact findsNothing_eq_true_iff.2 ⟨fault, removes, clear⟩
    | ok done =>
      rcases removal_cases host scene path with ⟨⟨fault, fails⟩, -⟩ | ⟨deletes, left⟩
      · simp [fails] at removes
      · exact absurd (left.symm.trans same) (Filing.ne_after_delete (deletes.symm.trans removes))
  · intro nothing
    obtain ⟨fault, fails, idle⟩ := findsNothing_eq_true_iff.1 nothing
    exact ⟨by simp only [clears, fails, idle], files_removed_of_findsNothing nothing⟩

end Scene

end DiskFixture
