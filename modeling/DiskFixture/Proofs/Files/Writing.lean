import DiskFixture.Proofs.Files.Joining
import DiskFixture.Proofs.Files.Making
import DiskFixture.Proofs.Files.Reach

/-!
Where a file is written. Main statements: at a path that ends in a name and is no link, a file is
written to the place that the path names, and no other place notices; so files that are written under
different names in a directory leave each other alone.
-/

namespace DiskFixture.FileTree

variable {tree : FileTree}

theorem isSlashed_snoc {name : String} (filled : name ≠ "") (front : List String) :
    isSlashed (front ++ [name]) = false := by
  simp [isSlashed, filled]

/-- A walk for a file ends where the walk to the name itself does, unless a link stands there. -/
theorem walk_file_cases (tree : FileTree) (links : Nat) (here : Location) (front : List String)
    {name : String} (filled : name ≠ "") (plain : isDots name = false) :
    tree.walk .file links here (front ++ [name]) = tree.walk .entry links here (front ++ [name]) ∨
      ∃ place target, tree.walk .entry links here (front ++ [name]) = .ok place ∧
        tree.at? place = some (.link target) := by
  have step (links : Nat) (here : Location) (part : String) (rest : List String) (aim : Aim) :=
    @walk_cons_of_not_isSlashed tree aim links here part (rest ++ [name])
      (fun _ => isSlashed_snoc filled rest) (by simp)
  induction links, here, front using @stride_induction tree with
  | nil links here =>
    simp only [isDots, Bool.or_eq_false_iff, beq_eq_false_iff_ne] at plain
    by_cases long : nameLimit < name.utf8ByteSize
    · left
      cases links <;> simp [walk, walkFrom, isSlashed, filled, plain, long]
    rcases stands : tree.at? (here ++ [name]) with _ | _ | content | target
    · left
      cases links <;> simp [walk, walkFrom, isSlashed, filled, plain, long, stands]
    · left
      cases links <;> simp [walk, walkFrom, isSlashed, filled, plain, long, stands]
    · left
      cases links <;> simp [walk, walkFrom, isSlashed, filled, plain, long, stands]
    · right
      refine ⟨here ++ [name], target, ?_, stands⟩
      cases links <;> simp [walk, walkFrom, filled, plain, long, stands]
  | stop links here part rest refusal taken =>
    left
    rw [List.cons_append, step, step, taken]
  | go links here part rest place left inserted taken ih =>
    rw [List.cons_append, step, step, taken]
    simpa using ih

theorem resolve_file_of_not_isLink {path : String} (ends : Path.endsInName path = true)
    (bare : tree.isLink path = false) : tree.resolve .file path = tree.resolve .entry path := by
  obtain ⟨front, name, split, filled, plain⟩ := Path.exists_name ends
  cases check : checkPath path with
  | error refusal => simp [resolve, check]
  | ok checked =>
    rcases walk_file_cases tree linkLimit (origin path) front filled plain with
      same | ⟨place, target, reaches, link⟩
    · simp only [resolve, check, split, same]
    · have found : tree.resolve .entry path = .ok place := by
        simp only [resolve, check, split, reaches]
      simp [isLink, find, found, link] at bare

theorem at?_of_written {path : String} {content : ByteArray} {changed : FileTree}
    (ends : Path.endsInName path = true) (bare : tree.isLink path = false)
    (writes : tree.written path content = .ok changed) {place : Location}
    (other : tree.resolve .entry path ≠ .ok place) : changed.at? place = tree.at? place := by
  obtain ⟨spot, finds, rfl⟩ := exists_fileSpot_of_written writes
  obtain ⟨leads, -⟩ := fileSpot_eq_ok finds
  rw [resolve_file_of_not_isLink ends bare] at leads
  have apart : place ≠ spot := by
    rintro rfl
    exact other leads
  exact at?_put_of_ne tree _ apart

/-- The second of two paths is out of the reach of the first: in no tree does it name the place of
the first or one below, and writing at the first, where no link was put, changes nothing there. -/
structure Apart (path other : String) : Prop where
  ne : path ≠ other
  places : ∀ (tree : FileTree) (place spot : Location), tree.resolve .entry path = .ok place →
    tree.resolve .entry other = .ok spot → spot ≠ place ∧ isUnder place spot = false
  writing : ∀ (tree changed : FileTree) (content : ByteArray), tree.isLink path = false →
    tree.written path content = .ok changed →
      ∀ spot, tree.resolve .entry other = .ok spot → changed.at? spot = tree.at? spot

theorem apart_join {name other : String} (first : Path.IsName name) (second : Path.IsName other)
    (different : name ≠ other) (directory : String) :
    Apart (Path.join directory name) (Path.join directory other) := by
  constructor
  · intro same
    exact different (first.join_inj second same)
  · intro tree place spot leads reaches
    exact ne_of_resolve_join first second different leads reaches
  · intro tree changed content bare writes spot reaches
    apply at?_of_written (first.endsInName_join directory) bare writes
    intro leads
    exact (ne_of_resolve_join first second different leads reaches).1 rfl

end DiskFixture.FileTree
