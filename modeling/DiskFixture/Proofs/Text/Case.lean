import DiskFixture.Text.Case

/-!
Characters without case. Main statement: a character that no letter is mapped to comes up in a
capitalized text only where it stood before.
-/

namespace DiskFixture.Text

section MapCase

variable {expansions : List (Nat × List Nat)} {runs : List CaseRun} {c d : Char}

/-- Whether a letter may be mapped to the character with a code. -/
def isImage (expansions : List (Nat × List Nat)) (runs : List CaseRun) (code : Nat) : Bool :=
  expansions.any (·.2.contains code) ||
    runs.any fun run => run.image ≤ code && code ≤ run.image + (run.last - run.first)

theorem eq_of_eq_ofNat {code : Nat} (proper : d.toNat ≠ 0) (same : d = Char.ofNat code) :
    d.toNat = code := by
  by_cases valid : code.isValidChar
  · rw [same, Char.ofNat, dif_pos valid]
    rfl
  · rw [same, Char.ofNat, dif_neg valid] at proper
    exact absurd rfl proper

theorem CaseRun.le_of_image? {run : CaseRun} {code image : Nat}
    (mapped : run.image? code = some image) :
    run.image ≤ image ∧ image ≤ run.image + (run.last - run.first) := by
  unfold image? at mapped
  split at mapped
  · next within =>
    cases mapped
    simp only [Bool.and_eq_true, decide_eq_true_eq] at within
    omega
  · cases mapped

/-- What is no image of a letter is mapped to from itself only. -/
theorem eq_of_mem_mapCase (proper : d.toNat ≠ 0) (free : isImage expansions runs d.toNat = false)
    (inside : d ∈ mapCase expansions runs c) : d = c := by
  simp only [isImage, Bool.or_eq_false_iff, List.any_eq_false] at free
  obtain ⟨noExpansion, noRun⟩ := free
  unfold mapCase at inside
  split at inside
  · next codes found =>
    obtain ⟨code, listed, same⟩ := List.mem_map.1 inside
    have image := eq_of_eq_ofNat proper same.symm
    obtain ⟨front, rest, split, -⟩ := List.lookup_eq_some_iff.1 found
    have entry : (c.toNat, codes) ∈ expansions := by simp [split]
    exact absurd (by simpa [image] using listed) (noExpansion _ entry)
  · split at inside
    · next image found =>
      obtain ⟨run, listed, mapped⟩ := List.exists_of_findSome?_eq_some found
      have same := eq_of_eq_ofNat proper (List.mem_singleton.1 inside)
      have bounds := CaseRun.le_of_image? mapped
      exact absurd (by simpa [same] using bounds) (noRun run listed)
    · exact List.mem_singleton.1 inside

end MapCase

/-- Whether no other letter has this character in its lower-case or title-case form. -/
def isCaseless (c : Char) : Bool :=
  c.toNat != 0 && c != 'ς' && c != 'σ' && !isImage lowerExpansions lowerRuns c.toNat
    && !isImage titleExpansions titleRuns c.toNat

section Caseless

variable {c : Char} (caseless : isCaseless c = true)
include caseless

theorem mem_of_mem_lowerFrom {before cs : List Char} (inside : c ∈ lowerFrom before cs) :
    c ∈ cs := by
  simp only [isCaseless, Bool.and_eq_true, bne_iff_ne, Bool.not_eq_true'] at caseless
  obtain ⟨⟨⟨⟨proper, noFinal⟩, noSigma⟩, free⟩, -⟩ := caseless
  induction cs generalizing before with
  | nil => cases inside
  | cons first rest ih =>
    rcases List.mem_append.1 inside with image | later
    · split at image
      · split at image
        · exact absurd (List.mem_singleton.1 image) noFinal
        · exact absurd (List.mem_singleton.1 image) noSigma
      · exact List.mem_cons.2 (.inl (eq_of_mem_mapCase proper free image))
    · exact List.mem_cons_of_mem first (ih later)

theorem mem_of_mem_capitalize {text : String} (inside : c ∈ (capitalize text).toList) :
    c ∈ text.toList := by
  unfold capitalize at inside
  split at inside
  · cases inside
  · next first rest shape =>
    rw [String.toList_ofList, List.mem_append] at inside
    rw [shape]
    rcases inside with image | later
    · simp only [isCaseless, Bool.and_eq_true, bne_iff_ne, Bool.not_eq_true'] at caseless
      exact List.mem_cons.2 (.inl (eq_of_mem_mapCase caseless.1.1.1.1 caseless.2 image))
    · exact List.mem_cons_of_mem first (mem_of_mem_lowerFrom caseless later)

end Caseless

theorem isCaseless_brace : isCaseless '\x7b' = true ∧ isCaseless '\x7d' = true := by
  decide +kernel

end DiskFixture.Text
