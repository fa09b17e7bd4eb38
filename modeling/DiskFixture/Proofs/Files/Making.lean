import DiskFixture.Proofs.Ending
import DiskFixture.Proofs.Files.Deletion

/-!
Making files and directories. Main statements: no step that makes some takes a file away, and a file
that is made stands at the place that is returned.
-/

namespace DiskFixture

namespace FileTree

variable {tree : FileTree} {aim : Aim} {here place : Location} {parts : List String}
  {jump other : Location → List String → Except Refusal Location}

def HasFile (tree : FileTree) (place : Location) : Prop :=
  ∃ content, tree.at? place = some (.file content)

theorem HasFile.ne_root (stands : tree.HasFile place) : place ≠ [] := by
  rintro rfl
  obtain ⟨content, root⟩ := stands
  cases root

theorem hasFile_put (content : ByteArray) (below : place ≠ []) :
    (tree.put place (.file content)).HasFile place :=
  ⟨content, at?_put_self tree _ below⟩

theorem HasFile.put_of_ne {spot : Location} (stands : tree.HasFile place) (entry : Entry)
    (apart : place ≠ spot) : (tree.put spot entry).HasFile place := by
  obtain ⟨content, found⟩ := stands
  exact ⟨content, (at?_put_of_ne tree entry apart).trans found⟩

theorem HasFile.put {spot : Location} (stands : tree.HasFile place) (content : ByteArray) :
    (tree.put spot (.file content)).HasFile place := by
  by_cases same : place = spot
  · subst same
    exact hasFile_put content stands.ne_root
  · exact stands.put_of_ne _ same

/-- A place that is a directory, and so is all above it: a walk has come down to it. -/
def IsGrounded (tree : FileTree) (here : Location) : Prop :=
  ∀ front, front <+: here → tree.at? front = some .directory

theorem IsGrounded.dropLast (grounded : tree.IsGrounded here) : tree.IsGrounded here.dropLast :=
  fun front above => grounded front (above.trans (List.dropLast_prefix here))

theorem fileSpot_eq_ok {path : String} (finds : tree.fileSpot path = .ok place) :
    tree.resolve .file path = .ok place ∧ tree.at? place ≠ some .directory := by
  unfold fileSpot at finds
  cases resolves : tree.resolve .file path with
  | error refusal => simp [resolves] at finds
  | ok spot =>
    rw [resolves] at finds
    dsimp only at finds
    split at finds
    · cases finds
    · next free =>
      cases finds
      exact ⟨rfl, free⟩

/-- Writing a file puts it somewhere. -/
theorem exists_fileSpot_of_written {path : String} {content : ByteArray} {grown : FileTree}
    (writes : tree.written path content = .ok grown) :
    ∃ place, tree.fileSpot path = .ok place ∧ grown = tree.put place (.file content) := by
  unfold FileTree.written at writes
  split at writes
  · cases writes
  · next place finds =>
    cases writes
    exact ⟨place, finds, rfl⟩

end FileTree

namespace Filing

variable {α β : Type} {step : Filing α} {next : α → Filing β} {place : Location}

/-- A step that takes no file away. -/
def KeepsFiles (step : Filing α) : Prop :=
  Leads (fun tree left : FileTree => ∀ place, tree.HasFile place → left.HasFile place) step

namespace KeepsFiles

theorem of_quiet (quiet : ∀ tree, after step tree = tree) : KeepsFiles step :=
  Leads.of_quiet (fun _ _ stands => stands) quiet

theorem pure (result : α) : KeepsFiles (pure result) := of_quiet fun _ => rfl

theorem throw (fault : CallFault) : KeepsFiles (throw fault : Filing α) := of_quiet fun _ => rfl

theorem get : KeepsFiles (get : Filing FileTree) := of_quiet fun _ => rfl

theorem bind (first : KeepsFiles step) (second : ∀ result, KeepsFiles (next result)) :
    KeepsFiles (step >>= next) :=
  Leads.bind (fun keeps stays place stands => stays place (keeps place stands)) first second

theorem tryCatch {handler : CallFault → Filing α} (first : KeepsFiles step)
    (second : ∀ fault, KeepsFiles (handler fault)) :
    KeepsFiles (tryCatch step handler) :=
  Leads.tryCatch (fun keeps stays place stands => stays place (keeps place stands)) first second

end KeepsFiles

end Filing

end DiskFixture
