/-!
Cutting text at the characters of a class, and trimming a class of characters from its ends. Both
work on lists of characters. Main statements: cutting loses only the separators, and no piece
holds one.
-/

namespace DiskFixture.Text

/-- The stretches between the characters that `cut` accepts, empty stretches included. -/
def pieces (cut : Char → Bool) : List Char → List (List Char)
  | [] => [[]]
  | c :: rest =>
    if cut c then [] :: pieces cut rest
    else match pieces cut rest with
      | [] => [[c]]
      | piece :: more => (c :: piece) :: more

theorem pieces_ne_nil (cut : Char → Bool) (cs : List Char) : pieces cut cs ≠ [] := by
  cases cs with
  | nil => simp [pieces]
  | cons c rest =>
    simp only [pieces]
    split
    · simp
    · split <;> simp

theorem not_cut_of_mem_pieces (cut : Char → Bool) (cs : List Char) :
    ∀ piece ∈ pieces cut cs, ∀ c ∈ piece, cut c = false := by
  induction cs with
  | nil => simp [pieces]
  | cons c rest ih =>
    simp only [pieces]
    split
    · simpa using ih
    · rename_i keep
      split
      · simpa using keep
      · rename_i piece more shape
        rw [shape] at ih
        intro found member
        rcases List.mem_cons.1 member with rfl | later
        · intro d inside
          rcases List.mem_cons.1 inside with rfl | deep
          · simpa using keep
          · exact ih piece (by simp) d deep
        · exact ih found (by simp [later])

/-- Nothing but the separators is lost. -/
theorem flatten_pieces (cut : Char → Bool) (cs : List Char) :
    (pieces cut cs).flatten = cs.filter (!cut ·) := by
  induction cs with
  | nil => rfl
  | cons c rest ih =>
    by_cases separates : cut c = true
    · simp [pieces, separates, ih]
    · cases shape : pieces cut rest with
      | nil => exact absurd shape (pieces_ne_nil cut rest)
      | cons piece more =>
        rw [shape] at ih
        simp [pieces, separates, shape, ← ih]

/-- `cs` without the characters that `drop` accepts at either end. -/
def trim (drop : Char → Bool) (cs : List Char) : List Char :=
  ((cs.dropWhile drop).reverse.dropWhile drop).reverse

end DiskFixture.Text
