import DiskFixture.Text.Search

/-!
Words in a text that is put together. Main statements: a text starts with a word in front of the
first character that is not in the word, or not at all; and where a word is taken out, the word
itself goes, a character at which it does not start stays, and so does one behind that is not in
it.
-/

namespace DiskFixture.Text

variable {word cs : List Char} {c : Char}

theorem takeOut_cons (apart : ¬ word <+: c :: cs) :
    takeOut word (c :: cs) = c :: takeOut word cs := by
  rw [← List.isPrefixOf_iff_prefix] at apart
  simp only [takeOut, takeOutFrom, if_neg apart]

theorem takeOutFrom_append (front rest : List Char) :
    takeOutFrom word front.length (front ++ rest) = takeOut word rest := by
  induction front with
  | nil => rfl
  | cons c front ih => exact ih

theorem takeOut_append (filled : word ≠ []) : takeOut word (word ++ cs) = takeOut word cs := by
  cases word with
  | nil => exact absurd rfl filled
  | cons first word =>
    have starts : (first :: word).isPrefixOf (first :: (word ++ cs)) = true := by
      rw [List.isPrefixOf_iff_prefix]
      exact List.prefix_append (first :: word) cs
    have skips : takeOut (first :: word) (first :: (word ++ cs))
        = takeOutFrom (first :: word) word.length (word ++ cs) := by
      simp [takeOut, takeOutFrom, starts]
    exact skips.trans (takeOutFrom_append word cs)

theorem mem_of_mem_takeOut {d : Char} (inside : d ∈ takeOut word cs) : d ∈ cs := by
  unfold takeOut at inside
  generalize 0 = skip at inside
  induction cs generalizing skip with
  | nil => exact inside
  | cons c cs ih =>
    cases skip with
    | succ skip => exact List.mem_cons_of_mem c (ih skip inside)
    | zero =>
      simp only [takeOutFrom] at inside
      split at inside
      · exact List.mem_cons_of_mem c (ih _ inside)
      · exact List.mem_cons.2 ((List.mem_cons.1 inside).imp_right (ih 0))

/-- A text starts with a word in front of a character that the word does not hold, or not at all. -/
theorem isPrefix_append_cons_iff (strange : c ∉ word) (front rest : List Char) :
    word <+: front ++ c :: rest ↔ word <+: front := by
  induction front generalizing word with
  | nil =>
    cases word with
    | nil => simp
    | cons d word =>
      have other : d ≠ c := fun same => strange (same ▸ List.mem_cons_self)
      simp [List.cons_prefix_cons, other]
  | cons e front ih =>
    cases word with
    | nil => simp
    | cons d word =>
      have later := ih fun inside => strange (List.mem_cons_of_mem d inside)
      rw [List.cons_append, List.cons_prefix_cons, List.cons_prefix_cons, later]

/-- A word up to a character is that part of a text. -/
theorem isPrefix_cut_iff {front : List Char} (strange : c ∉ word) (apart : c ∉ front)
    (rest : List Char) : word ++ [c] <+: front ++ c :: rest ↔ word = front := by
  induction front generalizing word with
  | nil =>
    cases word with
    | nil => simp
    | cons d word =>
      have other : d ≠ c := fun same => strange (same ▸ List.mem_cons_self)
      simp [List.cons_prefix_cons, other]
  | cons e front ih =>
    cases word with
    | nil =>
      have other : c ≠ e := fun same => apart (same ▸ List.mem_cons_self)
      simp [List.cons_prefix_cons, other]
    | cons d word =>
      have later := ih (fun inside => strange (List.mem_cons_of_mem d inside))
        (fun inside => apart (List.mem_cons_of_mem e inside))
      rw [List.cons_append, List.cons_append, List.cons_prefix_cons, later, List.cons.injEq]

theorem takeOutFrom_snoc (strange : c ∉ word) (filled : word ≠ []) {skip : Nat}
    (within : skip ≤ cs.length) :
    takeOutFrom word skip (cs ++ [c]) = takeOutFrom word skip cs ++ [c] := by
  induction cs generalizing skip with
  | nil =>
    obtain rfl : skip = 0 := Nat.le_zero.1 within
    have apart : ¬ word <+: [] := fun starts => filled (List.prefix_nil.1 starts)
    rw [← isPrefix_append_cons_iff strange [] [], ← List.isPrefixOf_iff_prefix] at apart
    simp only [List.nil_append] at apart ⊢
    simp [takeOutFrom, apart]
  | cons d cs ih =>
    cases skip with
    | succ skip => exact ih (Nat.le_of_succ_le_succ within)
    | zero =>
      have same : word.isPrefixOf (d :: (cs ++ [c])) = word.isPrefixOf (d :: cs) := by
        rw [Bool.eq_iff_iff, List.isPrefixOf_iff_prefix, List.isPrefixOf_iff_prefix]
        exact isPrefix_append_cons_iff strange (d :: cs) []
      simp only [List.cons_append, takeOutFrom, same]
      split
      · next starts =>
        have short : word.length ≤ (d :: cs).length :=
          (List.isPrefixOf_iff_prefix.1 starts).length_le
        exact ih (by simpa using short)
      · rw [ih (Nat.zero_le _), List.cons_append]

theorem takeOut_snoc (strange : c ∉ word) (filled : word ≠ []) :
    takeOut word (cs ++ [c]) = takeOut word cs ++ [c] :=
  takeOutFrom_snoc strange filled (Nat.zero_le _)

end DiskFixture.Text
