/-!
File trees. A tree says for some locations below the root what stands there: a directory, a file or
a symbolic link. Main statements: what is put at a location is found there, what is erased is gone,
and no other location notices.
-/

namespace DiskFixture

/-- The names from the root down to a place; the empty location is the root itself. -/
abbrev Location := List String

inductive Entry where
  | directory
  | file (content : ByteArray)
  | link (target : String)

/-- Entries of one kind are equal if their contents are, byte by byte, or their targets. -/
instance : DecidableEq Entry
  | .directory, .directory => isTrue rfl
  | .file content, .file other =>
    if same : content.data = other.data then isTrue (congrArg Entry.file (ByteArray.ext same))
    else isFalse fun equal => same (congrArg ByteArray.data (Entry.file.inj equal))
  | .link target, .link other =>
    if same : target = other then isTrue (congrArg Entry.link same)
    else isFalse fun equal => same (Entry.link.inj equal)
  | .directory, .file _ | .directory, .link _ | .file _, .directory | .file _, .link _
  | .link _, .directory | .link _, .file _ => isFalse nofun

structure FileTree where
  entries : List (Location × Entry)
  deriving DecidableEq

namespace FileTree

/-- Where relative paths start. -/
def workingDirectory : Location := ["work"]

def empty : FileTree := ⟨[(workingDirectory, .directory)]⟩

/-- The entry at a location, if there is one. The root is always a directory. -/
def at? (tree : FileTree) (place : Location) : Option Entry :=
  if place = [] then some .directory
  else (tree.entries.find? fun found => found.1 = place).map (·.2)

def put (tree : FileTree) (place : Location) (entry : Entry) : FileTree :=
  ⟨(place, entry) :: tree.entries.filter (·.1 ≠ place)⟩

def erase (tree : FileTree) (place : Location) : FileTree :=
  ⟨tree.entries.filter (·.1 ≠ place)⟩

/-- Whether `place` lies under `top`, at any depth. -/
def isUnder (top place : Location) : Bool :=
  top.isPrefixOf place && place != top

def eraseUnder (tree : FileTree) (top : Location) : FileTree :=
  ⟨tree.entries.filter (!isUnder top ·.1)⟩

def isOccupied (tree : FileTree) (top : Location) : Bool :=
  tree.entries.any (isUnder top ·.1)

/-- Whether there is a file of so many bytes or more. -/
def holds (tree : FileTree) (bytes : Nat) : Bool :=
  tree.entries.any fun found => match found.2 with
    | .file content => bytes ≤ content.size
    | _ => false

/-- The location and entry of everything under the working directory, the locations relative to
it, in the order of their path texts. -/
def listing (tree : FileTree) : List (String × Entry) :=
  let inside := tree.entries.filter (isUnder workingDirectory ·.1)
  let named := inside.map fun found =>
    ("/".intercalate (found.1.drop workingDirectory.length), found.2)
  named.mergeSort fun a b => !(b.1 < a.1)

theorem find?_filter_ne (entries : List (Location × Entry)) {place other : Location}
    (different : other ≠ place) :
    (entries.filter (·.1 ≠ place)).find? (·.1 = other) = entries.find? (·.1 = other) := by
  induction entries with
  | nil => rfl
  | cons found rest ih =>
    by_cases same : found.1 = place
    · have miss : ¬ found.1 = other := fun equal => different (equal ▸ same)
      simp_all
    · by_cases hit : found.1 = other
      · simp_all
      · simp_all

@[simp] theorem at?_put_self (tree : FileTree) {place : Location} (entry : Entry)
    (below : place ≠ []) : (tree.put place entry).at? place = some entry := by
  simp [at?, put, below]

theorem at?_put_of_ne (tree : FileTree) {place other : Location} (entry : Entry)
    (different : other ≠ place) : (tree.put place entry).at? other = tree.at? other := by
  unfold at? put
  have miss : ¬ place = other := fun equal => different equal.symm
  split
  · rfl
  · rw [List.find?_cons_of_neg (by simpa using miss), find?_filter_ne _ different]

theorem at?_erase_self (tree : FileTree) {place : Location} (below : place ≠ []) :
    (tree.erase place).at? place = none := by
  simp [at?, erase, below]

theorem at?_erase_of_ne (tree : FileTree) {place other : Location}
    (different : other ≠ place) : (tree.erase place).at? other = tree.at? other := by
  unfold at? erase
  rw [find?_filter_ne _ different]

/-- Erasing under a location is not noticed by what is not under it. -/
theorem at?_eraseUnder (tree : FileTree) {top other : Location}
    (outside : isUnder top other = false) :
    (tree.eraseUnder top).at? other = tree.at? other := by
  unfold at? eraseUnder
  have same : ∀ entries : List (Location × Entry),
      (entries.filter (!isUnder top ·.1)).find? (·.1 = other)
        = entries.find? (·.1 = other) := by
    intro entries
    induction entries with
    | nil => rfl
    | cons found rest ih =>
      by_cases hit : found.1 = other
      · simp_all
      · by_cases gone : isUnder top found.1 = true <;> simp_all
  rw [same]

theorem at?_eraseUnder_of_isUnder (tree : FileTree) {top other : Location}
    (inside : isUnder top other = true) : (tree.eraseUnder top).at? other = none := by
  have below : other ≠ [] := by
    rintro rfl
    cases top <;> simp [isUnder] at inside
  unfold at? eraseUnder
  rw [if_neg below, List.find?_eq_none.2, Option.map_none]
  intro found member
  have kept := (List.mem_filter.1 member).2
  intro hit
  simp_all

end FileTree

end DiskFixture
