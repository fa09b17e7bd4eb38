import DiskFixture.Proofs.Disk.Leftover

/-!
Builds at a path that leads to a directory. A failed build removes what its path names, be it from
before the build. Main statement: a directory that the commands left alone stays as it was if what
the path itself names is neither the directory nor in it nor above it, as where the path is a link;
and of a directory that the path itself names nothing is left in it.
-/

namespace DiskFixture

variable {σ : Type} {host : Host σ}

/-- Whether a directory and all that is in it stand in one tree as in the other. -/
def FileTree.AgreeIn (top : Location) (files other : FileTree) : Prop :=
  ∀ place, place = top ∨ isUnder top place = true → files.at? place = other.at? place

theorem Scene.files_removed_of_refused {scene : Scene σ} {path : String}
    (refused : (host.refuse scene.memory (scene.files.removalOf path) path).1 ≠ none) :
    (scene.removed host path).files = scene.files := by
  cases refuses : (host.refuse scene.memory (scene.files.removalOf path) path).1 with
  | none => exact absurd refuses refused
  | some fault => simp only [removed, refuses]

/-- A removal of what a path names does not touch a directory if it is refused, or if no place of
the directory is the one named or below it. -/
theorem Scene.agreeIn_removed {scene : Scene σ} {path : String} {top : Location}
    (apart : (host.refuse scene.memory (scene.files.removalOf path) path).1 ≠ none ∨
      ∀ place, place = top ∨ FileTree.isUnder top place = true →
        ¬ scene.files.Covers path place) :
    FileTree.AgreeIn top (scene.removed host path).files scene.files := by
  intro place inside
  by_cases willing : (host.refuse scene.memory (scene.files.removalOf path) path).1 = none
  · have outside := apart.resolve_left (fun refused => refused willing) place inside
    rw [files_removed willing]
    exact Filing.at?_after_delete outside
  · rw [files_removed_of_refused willing]

/-- What a failed build does to a directory that its path led to and that its commands left alone.
It stays as it was if the removal is refused, or if what the path itself names by then is neither
the directory nor in it nor above it. If it is the directory, nothing is left in it. -/
theorem LoopDisk.directory_after_failed_build (host : Host σ) (path : String)
    (specs : List PartitionSpec) (world : World σ) {top : Location}
    (leads : world.files.find .target path = .ok (top, .directory))
    (nameable : FileTree.isNameable path = true) {fault : Fault}
    (fails : ending (build host path specs) world = .error fault) :
    ∃ issued, (after (build host path specs) world).commands = world.commands ++ issued ∧
      let scene := world.scene.through host issued
      let refusal := (host.refuse scene.memory (scene.files.removalOf path) path).1
      let left := (after (build host path specs) world).files
      FileTree.AgreeIn top scene.files world.files →
        (refusal ≠ none ∨ (∀ place, place = top ∨ FileTree.isUnder top place = true →
            ¬ scene.files.Covers path place) →
          FileTree.AgreeIn top left world.files) ∧
        (refusal = none → scene.files.resolve .entry path = .ok top →
          ∀ place, FileTree.isUnder top place = true → left.at? place = none) := by
  obtain ⟨issued, commands, scene⟩ := after_failed_build host path specs world fails
  refine ⟨issued, commands, fun kept => ⟨fun apart place inside => ?_, ?_⟩⟩
  · rw [← World.scene_files, scene]
    exact (Scene.agreeIn_removed apart place inside).trans (kept place inside)
  · intro willing here place under
    -- the directory still stands when it is removed: the commands left it alone
    have stands : (world.scene.through host issued).files.at? top = some .directory :=
      (kept top (.inl rfl)).trans (FileTree.at?_of_find leads)
    rw [← World.scene_files, scene, Scene.files_removed willing]
    exact Filing.at?_after_delete_of_isUnder nameable here stands under

/-- A host none of whose commands goes well or does anything. -/
def Host.failing : Host Unit := .fixed (fun _ => .exited (.int 1) "") fun _ files => files

/-- A world with a directory that holds a file, and a link to the directory. -/
def World.furnished : World Unit :=
  { World.untouched with
    files := ((FileTree.empty.put ["work", "data"] .directory).put
      ["work", "data", "notes.txt"] (.file .empty)).put ["work", "link"] (.link "data") }

theorem Host.files_after_failing (memory : Unit) (files : FileTree) (argv : List String) :
    (failing.run memory files argv).2.2 = files := by
  unfold failing fixed
  dsimp only
  split <;> rfl

theorem Host.through_failing (scene : Scene Unit) (issued : List (List String)) :
    scene.through .failing issued = scene := by
  induction issued with
  | nil => rfl
  | cons argv rest ih =>
    have still : scene.next .failing argv = scene :=
      congrArg (Scene.mk ()) (files_after_failing _ _ argv)
    rw [Scene.through_cons, still, ih]

/-- At a link to a directory, a failed build leaves the directory alone. -/
theorem LoopDisk.directory_after_failed_build_link :
    World.furnished.files.find .target "link" = .ok (["work", "data"], .directory) ∧
      FileTree.AgreeIn ["work", "data"] (after (build .failing "link" [.data]) .furnished).files
        World.furnished.files := by
  have leads : World.furnished.files.find .target "link" = .ok (["work", "data"], .directory) := by
    rfl
  have named : World.furnished.files.resolve .entry "link" = .ok ["work", "link"] := by
    rfl
  have breaks : (ending (build .failing "link" [.data]) .furnished).isOk = false := by
    decide +kernel
  obtain ⟨fault, fails⟩ := exists_error_of_isOk breaks
  obtain ⟨issued, -, stays⟩ := directory_after_failed_build .failing "link" [.data] .furnished
    leads (by decide +kernel) fails
  rw [Host.through_failing] at stays
  refine ⟨leads, (stays fun place inside => rfl).1 (.inr fun place inside => ?_)⟩
  -- no place is in the directory and also at the link or below it
  rintro ⟨top, here, covered⟩
  rw [World.scene_files, named] at here
  cases here
  have both := List.prefix_of_prefix_length_le (FileTree.isPrefix_of_inside inside)
    (FileTree.isPrefix_of_inside covered) (by decide)
  exact absurd both (by decide)

/-- A directory that stood at the path before a failed build is gone with all that was in it,
although no command did anything. -/
theorem LoopDisk.directory_after_failed_build_lost :
    (∀ memory files argv, (Host.failing.run memory files argv).2.2 = files) ∧
      World.furnished.files.isDirectory "data" = true ∧
      World.furnished.files.hasEntry "data/notes.txt" = true ∧
      (match ending (build .failing "data" [.data]) .furnished with
        | .ok _ => ""
        | .error fault => fault.kind) = "BuildError" ∧
      (after (build .failing "data" [.data]) .furnished).files.hasEntry "data" = false ∧
      (after (build .failing "data" [.data]) .furnished).files.hasEntry "data/notes.txt"
        = false := by
  refine ⟨Host.files_after_failing, ?_⟩
  decide +kernel

end DiskFixture
