import DiskFixture.Text.Blank
import Mathlib.Data.List.DropRight

/-!
Stripped texts. Main statements: stripping leaves no blank character at either end, and it leaves
nothing only of a text that is blank throughout.
-/

namespace DiskFixture.Text

section Trim

variable {drop : Char → Bool} {cs : List Char} {c : Char}

theorem trim_eq (drop : Char → Bool) (cs : List Char) :
    trim drop cs = (cs.dropWhile drop).rdropWhile drop := rfl

theorem mem_of_mem_trim (inside : c ∈ trim drop cs) : c ∈ cs :=
  (List.dropWhile_sublist drop).subset ((List.rdropWhile_prefix _ _).subset inside)

theorem not_drop_of_head?_dropWhile (head : (cs.dropWhile drop).head? = some c) :
    drop c = false := by
  have first := List.head?_dropWhile_not drop cs
  rwa [head] at first

theorem not_drop_of_head?_trim (head : (trim drop cs).head? = some c) : drop c = false := by
  obtain ⟨rest, whole⟩ : trim drop cs <+: cs.dropWhile drop := List.rdropWhile_prefix _ _
  have start : (cs.dropWhile drop).head? = some c := by
    rw [← whole, List.head?_append, head, Option.some_or]
  exact not_drop_of_head?_dropWhile start

theorem not_drop_of_getLast?_trim (last : (trim drop cs).getLast? = some c) : drop c = false := by
  rw [trim, List.getLast?_reverse] at last
  exact not_drop_of_head?_dropWhile last

/-- What is trimmed away at either end may as well stand there or not. -/
theorem trim_append {front back : List Char} (before : ∀ c ∈ front, drop c = true)
    (behind : ∀ c ∈ back, drop c = true) : trim drop (front ++ cs ++ back) = trim drop cs := by
  rw [trim_eq, trim_eq, List.append_assoc, List.dropWhile_append_of_pos before]
  cases shape : cs.dropWhile drop with
  | nil =>
    have all : (cs ++ back).dropWhile drop = [] := by
      rw [List.dropWhile_append, shape]
      exact List.dropWhile_eq_nil_iff.2 behind
    rw [all]
  | cons c rest =>
    have kept : (cs ++ back).dropWhile drop = c :: rest ++ back := by
      rw [List.dropWhile_append, shape]
      rfl
    rw [kept, List.rdropWhile, List.reverse_append,
      List.dropWhile_append_of_pos fun c inside => behind c (List.mem_reverse.1 inside)]
    rfl

theorem trim_of_free (free : ∀ c ∈ cs, drop c = false) : trim drop cs = cs := by
  have keeps {cs : List Char} (free : ∀ c ∈ cs, drop c = false) : cs.dropWhile drop = cs := by
    cases cs with
    | nil => rfl
    | cons c rest => exact List.dropWhile_cons_of_neg (by simp [free c List.mem_cons_self])
  rw [trim, keeps free, keeps fun c inside => free c (List.mem_reverse.1 inside),
    List.reverse_reverse]

theorem trim_eq_nil_iff : trim drop cs = [] ↔ ∀ c ∈ cs, drop c = true := by
  rw [trim_eq, List.rdropWhile_eq_nil_iff]
  constructor
  · intro all
    rw [← List.dropWhile_eq_nil_iff]
    cases shape : cs.dropWhile drop with
    | nil => rfl
    | cons first rest =>
      have kept : drop first = false := not_drop_of_head?_dropWhile (by rw [shape]; rfl)
      have dropped := all first (by simp [shape])
      rw [kept] at dropped
      cases dropped
  · intro all c inside
    exact all c ((List.dropWhile_sublist drop).subset inside)

end Trim

/-- A text that neither starts nor ends with a blank character. -/
structure IsStripped (text : String) : Prop where
  first : ∀ c, text.toList.head? = some c → isBlank c = false
  last : ∀ c, text.toList.getLast? = some c → isBlank c = false

theorem isStripped_strip (text : String) : IsStripped (strip text) where
  first c head := not_drop_of_head?_trim (by simpa [strip] using head)
  last c last := not_drop_of_getLast?_trim (by simpa [strip] using last)

theorem strip_ne_empty_iff (text : String) :
    strip text ≠ "" ↔ ∃ c ∈ text.toList, isBlank c = false := by
  have nothing : strip text = "" ↔ trim isBlank text.toList = [] := by
    rw [← String.toList_inj]
    simp [strip]
  rw [Ne, nothing, trim_eq_nil_iff]
  simp

end DiskFixture.Text
