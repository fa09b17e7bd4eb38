/-!
Finding a word in a text and taking it out. Main statements: a word occurs exactly if the text is
something, the word and something; a text in which the word does not occur is left as it is.
-/

namespace DiskFixture.Text

def occursIn (word : List Char) : List Char → Bool
  | [] => word.isEmpty
  | c :: rest => word.isPrefixOf (c :: rest) || occursIn word rest

theorem occursIn_iff {word cs : List Char} : occursIn word cs = true ↔ word <:+: cs := by
  induction cs with
  | nil => simp [occursIn]
  | cons c rest ih => simp [occursIn, List.infix_cons_iff, ih]

/-- The text without `word`, from left to right; `skip` characters belong to a word found before. -/
def takeOutFrom (word : List Char) (skip : Nat) : List Char → List Char
  | [] => []
  | c :: rest =>
    match skip with
    | skip + 1 => takeOutFrom word skip rest
    | 0 =>
      if word.isPrefixOf (c :: rest) then takeOutFrom word (word.length - 1) rest
      else c :: takeOutFrom word 0 rest

def takeOut (word cs : List Char) : List Char :=
  takeOutFrom word 0 cs

theorem takeOut_of_not_occursIn {word cs : List Char} (absent : occursIn word cs = false) :
    takeOut word cs = cs := by
  unfold takeOut
  induction cs with
  | nil => rfl
  | cons c rest ih =>
    simp only [occursIn, Bool.or_eq_false_iff] at absent
    simp [takeOutFrom, absent.1, ih absent.2]

end DiskFixture.Text
