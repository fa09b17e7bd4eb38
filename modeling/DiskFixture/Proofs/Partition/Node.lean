import Mathlib
import DiskFixture.Partition.Layout

/-!
The names of device nodes. A name is the device, a letter and the index in decimal digits, with
nothing to tell where the device ends, which may hold the letter and digits itself. Main statement:
two names are the same exactly if their devices and their indices are.
-/

namespace DiskFixture

/-- Behind the last occurrence of a character, texts that end alike are the same. -/
theorem Text.append_cons_inj {c : Char} {front other rest tail : List Char} (absent : c ∉ rest)
    (missing : c ∉ tail) (same : front ++ c :: rest = other ++ c :: tail) :
    front = other ∧ rest = tail := by
  rcases List.append_eq_append_iff.1 same with ⟨more, rfl, whole⟩ | ⟨more, rfl, whole⟩
  · cases more with
    | nil => simpa using whole
    | cons d more =>
      obtain ⟨rfl, rfl⟩ := List.cons.inj whole
      simp at absent
  · cases more with
    | nil => simpa using whole.symm
    | cons d more =>
      obtain ⟨rfl, rfl⟩ := List.cons.inj whole
      simp at missing

namespace Layout

/-- An index is written in decimal digits, perhaps behind a sign. -/
theorem not_mem_toString {c : Char} (letter : c.isDigit = false) (unsigned : c ≠ '-')
    (index : Int) : c ∉ (toString index).toList := by
  have free (number : Nat) : c ∉ number.repr.toList := by
    rw [Nat.toList_repr]
    intro inside
    have digit := Nat.isDigit_of_mem_toDigits (by decide) (by decide) inside
    rw [letter] at digit
    cases digit
  rw [Int.toString_eq_repr, Int.repr_eq_if]
  split
  · exact free _
  · rw [String.toList_append, List.mem_append, not_or]
    exact ⟨by simpa using unsigned, free _⟩

theorem node_eq_node_iff {device other : String} {index number : Int} :
    node device index = node other number ↔ device = other ∧ index = number := by
  constructor
  · intro same
    have letters : device.toList ++ 'p' :: (toString index).toList
        = other.toList ++ 'p' :: (toString number).toList := by
      simpa [node] using congrArg String.toList same
    obtain ⟨devices, indices⟩ := Text.append_cons_inj (not_mem_toString rfl (by decide) index)
      (not_mem_toString rfl (by decide) number) letters
    exact ⟨String.toList_inj.1 devices, Int.repr_inj.1 (String.toList_inj.1 indices)⟩
  · rintro ⟨rfl, rfl⟩
    rfl

end Layout

end DiskFixture
