import DiskFixture.Proofs.Digest.Hex
import DiskFixture.Proofs.Text.Fields
import DiskFixture.Proofs.Text.Strip
import DiskFixture.Text.Integer
import Mathlib.Algebra.Group.Nat.Defs
import Mathlib.Data.List.Basic
import Mathlib.Data.List.Forall2

/-!
Hexadecimal digits in letters of either case. Main statement: they are read as the number that they
spell, whatever the case of each letter.
-/

namespace DiskFixture.Text

/-- The same letters, some of them perhaps as capitals. -/
def IsCased (letters cs : List Char) : Prop :=
  List.Forall₂ (fun letter c => c = letter ∨ c = letter.toUpper) letters cs

theorem IsCased.refl (letters : List Char) : IsCased letters letters :=
  List.forall₂_same.2 fun _ _ => .inl rfl

theorem IsCased.forall_mem {letters cs : List Char} {p : Char → Prop} (cased : IsCased letters cs)
    (each : ∀ letter ∈ letters, p letter ∧ p letter.toUpper) : ∀ c ∈ cs, p c := by
  induction cased with
  | nil => simp
  | @cons letter c letters cs either later ih =>
    have first := each letter List.mem_cons_self
    intro d inside
    rcases List.mem_cons.1 inside with rfl | inside
    · rcases either with rfl | rfl
      · exact first.1
      · exact first.2
    · exact ih (fun letter inside => each letter (List.mem_cons_of_mem _ inside)) d inside

/-- The characters that stand for hexadecimal digits. -/
def hexLetters : List Char := "0123456789abcdefABCDEF".toList

section Digits

variable {base width value : Nat} {digits cs : List Char} {c : Char}

theorem exists_hexDigit_of_mem (inside : c ∈ hexDigits width value) :
    ∃ digit, digit < 16 ∧ c = hexDigit digit := by
  induction width generalizing value with
  | zero => cases inside
  | succ width ih =>
    rcases List.mem_append.1 inside with front | last
    · exact ih front
    · exact ⟨value % 16, Nat.mod_lt value (by decide), List.mem_singleton.1 last⟩

theorem mem_hexLetters_of_cased (cased : IsCased (hexDigits width value) cs) :
    ∀ c ∈ cs, c ∈ hexLetters := by
  have letters : ∀ digit < 16, hexDigit digit ∈ hexLetters ∧
      (hexDigit digit).toUpper ∈ hexLetters := by
    decide
  refine cased.forall_mem fun letter inside => ?_
  obtain ⟨digit, small, rfl⟩ := exists_hexDigit_of_mem inside
  exact letters digit small

theorem digitsValue?_congr
    (alike : List.Forall₂ (fun digit c => alphanumericValue? c = alphanumericValue? digit)
      digits cs) :
    digitsValue? base cs = digitsValue? base digits := by
  unfold digitsValue?
  generalize 0 = start
  induction alike generalizing start with
  | nil => rfl
  | cons same later ih => simp only [List.foldlM_cons, same, ih]

theorem digitsValue?_hexDigits (width value : Nat) :
    digitsValue? 16 (hexDigits width value) = some (value % 16 ^ width) := by
  induction width generalizing value with
  | zero => simp [hexDigits, digitsValue?, Nat.mod_one]
  | succ width ih =>
    have small : value % 16 < 16 := Nat.mod_lt value (by decide)
    have whole : value / 16 % 16 ^ width * 16 + value % 16 = value % 16 ^ (width + 1) := by
      rw [Nat.pow_succ, Nat.mul_comm (16 ^ width) 16, Nat.mod_mul]
      omega
    have front := ih (value / 16)
    unfold digitsValue? at front ⊢
    rw [hexDigits, List.foldlM_append, front]
    simp [alphanumericValue?_hexDigit small, small, whole]

/-- Digits in letters of either case have the value that they spell. -/
theorem digitsValue?_of_cased (cased : IsCased (hexDigits width value) cs) :
    digitsValue? 16 cs = some (value % 16 ^ width) := by
  have capitals : ∀ digit < 16, alphanumericValue? (hexDigit digit).toUpper
      = alphanumericValue? (hexDigit digit) := by
    decide
  have digits : ∀ letter ∈ hexDigits width value, ∃ digit, digit < 16 ∧ letter = hexDigit digit :=
    fun letter => exists_hexDigit_of_mem
  rw [← digitsValue?_hexDigits]
  refine digitsValue?_congr (((List.forall₂_and_left _ _).2 ⟨digits, cased⟩).imp ?_)
  rintro letter c ⟨⟨digit, small, rfl⟩, rfl | rfl⟩
  · rfl
  · exact capitals digit small

end Digits

/-- A number of hexadecimal digits alone is read as their value. -/
theorem readInteger_of_hexLetters {cs : List Char} (letters : ∀ c ∈ cs, c ∈ hexLetters)
    (filled : cs ≠ []) : readInteger 16 (String.ofList cs)
      = match digitsValue? 16 cs with
        | some value => .ok value
        | none => .error .malformed := by
  have plain : ∀ c ∈ hexLetters, asciiForm c = c ∧ isMargin c = false ∧ (c == '_') = false ∧
      c ≠ '-' ∧ c ≠ '+' ∧ c ≠ 'x' ∧ c ≠ 'X' :=
    -- decided along the list and not over all characters
    List.forall_iff_forall_mem.1 (by decide +kernel)
  have plain := fun c inside => plain c (letters c inside)
  have form : cs.map asciiForm = cs := by
    conv_rhs => rw [← List.map_id cs]
    exact List.map_congr_left fun c inside => (plain c inside).1
  have margins : trim isMargin cs = cs := trim_of_free fun c inside => (plain c inside).2.1
  have unmarked : dropBaseMark 16 cs = cs := by
    unfold dropBaseMark
    split
    · next mark rest =>
      obtain ⟨-, -, -, -, -, small, capital⟩ := plain mark (by simp)
      simp [small, capital]
    · rfl
  have single : pieces (· == '_') cs = [cs] :=
    pieces_of_free fun c inside => (plain c inside).2.2.1
  have groups : ungrouped? cs = some cs := by
    simp [ungrouped?, single, filled]
  have natural : readNatural 16 cs = match digitsValue? 16 cs with
      | some value => .ok value
      | none => .error .malformed := by
    simp only [readNatural, unmarked, groups]
    cases digitsValue? 16 cs <;> rfl
  simp only [readInteger, String.toList_ofList, form, margins]
  split
  · exact absurd rfl (plain '-' (by simp)).2.2.2.1
  · exact absurd rfl (plain '+' (by simp)).2.2.2.2.1
  · rw [natural]
    cases digitsValue? 16 cs <;> rfl

/-- Hexadecimal digits in letters of either case are read as the number that they spell. -/
theorem readInteger_of_cased {width value : Nat} {cs : List Char}
    (cased : IsCased (hexDigits width value) cs) (filled : cs ≠ []) :
    readInteger 16 (String.ofList cs) = .ok (value % 16 ^ width : Nat) := by
  rw [readInteger_of_hexLetters (mem_hexLetters_of_cased cased) filled,
    digitsValue?_of_cased cased]

end DiskFixture.Text
