import DiskFixture.Proofs.Text.Strip

/-!
Fields of a text that is put together. Main statements: a text is cut at a blank character into the
fields in front of it and those behind it, and a word without blank characters is one field.
-/

namespace DiskFixture.Text

section Pieces

variable {cut : Char → Bool} {c : Char} {cs : List Char}

theorem pieces_append (cuts : cut c = true) (front rest : List Char) :
    pieces cut (front ++ c :: rest) = pieces cut front ++ pieces cut rest := by
  induction front with
  | nil => simp [pieces, cuts]
  | cons d front ih =>
    by_cases separates : cut d = true
    · simp [pieces, separates, ih]
    · cases shape : pieces cut front with
      | nil => exact absurd shape (pieces_ne_nil cut front)
      | cons piece more => simp [pieces, separates, ih, shape]

theorem pieces_of_free (free : ∀ c ∈ cs, cut c = false) : pieces cut cs = [cs] := by
  induction cs with
  | nil => rfl
  | cons c rest ih =>
    have later := ih fun d inside => free d (List.mem_cons_of_mem c inside)
    have keeps : ¬ cut c = true := by simp [free c List.mem_cons_self]
    simp only [pieces, if_neg keeps, later]

end Pieces

section Fields

variable {c : Char} {cs : List Char}

theorem fields_append (blank : isBlank c = true) (front rest : List Char) :
    fields (String.ofList (front ++ c :: rest))
      = fields (String.ofList front) ++ fields (String.ofList rest) := by
  simp only [fields, String.toList_ofList, pieces_append blank, List.filter_append,
    List.map_append]

/-- A text without blank characters is one field, unless it is empty. -/
theorem fields_of_solid (solid : ∀ c ∈ cs, isBlank c = false) :
    fields (String.ofList cs) = if cs.isEmpty then [] else [String.ofList cs] := by
  simp only [fields, String.toList_ofList, pieces_of_free solid]
  cases cs <;> rfl

end Fields

end DiskFixture.Text
