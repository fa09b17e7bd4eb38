import DiskFixture.Proofs.Files.Deletion
import DiskFixture.Proofs.Text.Fields

/-!
Names within a directory. Main statements: a name stands behind its directory, whatever the directory
ends in, so different names make different paths; and in every tree the places of all these paths
stand side by side.
-/

namespace DiskFixture

namespace Path

/-- A name of an entry of a directory: it holds no slash and is neither empty nor `.` or `..`. -/
structure IsName (name : String) : Prop where
  plain : '/' ∉ name.toList
  filled : name ≠ ""
  proper : FileTree.isDots name = false

theorem isName_of_length {name : String} (plain : '/' ∉ name.toList)
    (long : 2 < name.toList.length) : IsName name := by
  have other (short : String) (few : short.toList.length ≤ 2) : name ≠ short := by
    rintro rfl
    omega
  refine ⟨plain, other "" (by decide), ?_⟩
  have dot := other "." (by decide)
  have dots := other ".." (by decide)
  simp [FileTree.isDots, dot, dots]

namespace IsName

variable {name other : String} (named : IsName name)
include named

theorem not_isAbsolute : isAbsolute name = false := by
  unfold isAbsolute
  cases letters : name.toList with
  | nil => rfl
  | cons c rest =>
    have other : c ≠ '/' := by
      intro same
      apply named.plain
      simp [letters, same]
    simpa using other

theorem join_eq (directory : String) :
    join directory name = directory ++ gap directory ++ name :=
  join_of_not_isAbsolute named.not_isAbsolute directory

theorem join_inj (second : IsName other) {directory : String}
    (same : join directory name = join directory other) : name = other := by
  rw [named.join_eq, second.join_eq] at same
  have letters := congrArg String.toList same
  simp only [String.toList_append, List.append_cancel_left_eq] at letters
  exact String.toList_inj.1 letters

theorem isAbsolute_join (directory : String) :
    isAbsolute (join directory name) = isAbsolute directory := by
  have relative := named.not_isAbsolute
  rw [named.join_eq]
  by_cases empty : directory = ""
  · subst directory
    simpa [gap, isAbsolute] using relative
  · unfold isAbsolute
    cases letters : directory.toList with
    | nil => exact absurd (String.toList_eq_nil_iff.1 letters) empty
    | cons c rest => simp [letters]

end IsName

/-- What a name stands behind is empty or ends in a slash. -/
theorem before_cases (directory : String) :
    directory ++ gap directory = "" ∨
      ∃ front, (directory ++ gap directory).toList = front ++ ['/'] := by
  by_cases empty : directory = ""
  · subst directory
    exact .inl rfl
  right
  by_cases slashed : directory.toList.getLast? = some '/'
  · obtain ⟨front, split⟩ := List.getLast?_eq_some_iff.1 slashed
    refine ⟨front, ?_⟩
    simp [gap, split]
  · refine ⟨directory.toList, ?_⟩
    simp [gap, slashed, empty]

/-- A name is the last part of its path, and the parts in front of it are those of the directory. -/
theorem exists_parts_join (directory : String) :
    ∃ front, ∀ name, IsName name → parts (join directory name) = front ++ [name] := by
  have single {name : String} (named : IsName name) :
      Text.pieces isSlash name.toList = [name.toList] := by
    apply Text.pieces_of_free
    intro c inside
    have other : c ≠ '/' := fun same => named.plain (same ▸ inside)
    simpa [isSlash] using other
  rcases before_cases directory with empty | ⟨front, split⟩
  · refine ⟨[], fun name named => ?_⟩
    rw [named.join_eq, empty, parts]
    simp [single named]
  · refine ⟨(Text.pieces isSlash front).map String.ofList, fun name named => ?_⟩
    rw [named.join_eq, parts, String.toList_append, split, List.append_assoc,
      List.singleton_append, Text.pieces_append rfl, single named]
    simp

theorem IsName.endsInName_join {name : String} (named : IsName name) (directory : String) :
    endsInName (join directory name) = true := by
  obtain ⟨front, split⟩ := exists_parts_join directory
  simp [endsInName, split name named, named.filled, named.proper]

end Path

namespace FileTree

/-- The places of all names in a directory are those names in one place, where they have any. -/
theorem exists_home (tree : FileTree) (directory : String) :
    ∃ home : Location, ∀ name place, Path.IsName name →
      tree.resolve .entry (Path.join directory name) = .ok place → place = home ++ [name] := by
  obtain ⟨front, split⟩ := Path.exists_parts_join directory
  have walked {name : String} {place : Location} (named : Path.IsName name)
      (leads : tree.resolve .entry (Path.join directory name) = .ok place) :
      tree.walk .entry linkLimit (origin directory) (front ++ [name]) = .ok place := by
    unfold resolve at leads
    split at leads
    · cases leads
    · rwa [split name named, origin, named.isAbsolute_join] at leads
  obtain ⟨stop, walks⟩ := walk_append tree linkLimit (origin directory) front
  cases stop with
  | error refusal =>
    refine ⟨[], fun name place named leads => ?_⟩
    have reaches := walked named leads
    rw [walks .entry [name] (by decide) (by simp)] at reaches
    cases reaches
  | ok found =>
    obtain ⟨home, left⟩ := found
    refine ⟨home, fun name place named leads => ?_⟩
    have reaches := walked named leads
    rw [walks .entry [name] (by decide) (by simp)] at reaches
    dsimp only at reaches
    by_cases long : nameLimit < name.utf8ByteSize
    · rw [walk_long_name named.filled named.proper (by decide) left home long] at reaches
      cases reaches
    · rw [walk_name named.filled named.proper (by decide) left home long (.inl rfl)] at reaches
      exact (Except.ok.inj reaches).symm

/-- Different names in a directory have different places, and neither is below the other. -/
theorem ne_of_resolve_join {tree : FileTree} {directory name other : String}
    (first : Path.IsName name) (second : Path.IsName other) (different : name ≠ other)
    {place spot : Location} (leads : tree.resolve .entry (Path.join directory name) = .ok place)
    (reaches : tree.resolve .entry (Path.join directory other) = .ok spot) :
    spot ≠ place ∧ isUnder place spot = false := by
  obtain ⟨home, within⟩ := exists_home tree directory
  obtain rfl := within name place first leads
  obtain rfl := within other spot second reaches
  have apart : home ++ [other] ≠ home ++ [name] := by
    intro same
    apply different
    simpa using same.symm
  refine ⟨apart, ?_⟩
  rw [isUnder, Bool.and_eq_false_iff]
  left
  rw [Bool.eq_false_iff]
  intro starts
  apply apart
  exact ((List.isPrefixOf_iff_prefix.1 starts).eq_of_length (by simp)).symm

end FileTree

end DiskFixture
