import DiskFixture.Proofs.Text.Hexadecimal
import Mathlib.Data.List.Induction
import Mathlib.Data.Nat.Digits.Defs

/-!
The texts that are read as hexadecimal numbers. Besides the digits there may be a plus sign, the
mark of the base and single underscores, and a digit may come from any script. Main statement: a
text without blank characters and without a minus sign is read as a number exactly if it is of this
form, and the number is the one that the digits spell.
-/

namespace DiskFixture.Text

/-- The value of a hexadecimal digit: a decimal digit of any script, or one of six letters. -/
def hexValue? (c : Char) : Option Nat :=
  match decimalValue? c with
  | some value => some value
  | none =>
    if 'a'.toNat ≤ c.toNat && c.toNat ≤ 'f'.toNat then some (c.toNat - 'a'.toNat + 10)
    else if 'A'.toNat ≤ c.toNat && c.toNat ≤ 'F'.toNat then some (c.toNat - 'A'.toNat + 10)
    else none

/-- Digits, between any two of which an underscore may stand. -/
inductive Grouped : List Char → List Nat → Prop where
  | last {c : Char} {digit : Nat} (reads : hexValue? c = some digit) : Grouped [c] [digit]
  | next {c : Char} {digit : Nat} {cs : List Char} {digits : List Nat}
      (reads : hexValue? c = some digit) (later : Grouped cs digits) :
      Grouped (c :: cs) (digit :: digits)
  | apart {c : Char} {digit : Nat} {cs : List Char} {digits : List Nat}
      (reads : hexValue? c = some digit) (later : Grouped cs digits) :
      Grouped (c :: '_' :: cs) (digit :: digits)

/-- Digits, in front of which the mark of the base may stand, and an underscore behind that. -/
inductive Unsigned : List Char → List Nat → Prop where
  | digits {cs : List Char} {digits : List Nat} (grouped : Grouped cs digits) : Unsigned cs digits
  | marked {zero letter : Char} {cs : List Char} {digits : List Nat}
      (nought : decimalValue? zero = some 0) (marks : letter = 'x' ∨ letter = 'X')
      (grouped : Grouped cs digits) : Unsigned (zero :: letter :: cs) digits
  | spaced {zero letter : Char} {cs : List Char} {digits : List Nat}
      (nought : decimalValue? zero = some 0) (marks : letter = 'x' ∨ letter = 'X')
      (grouped : Grouped cs digits) : Unsigned (zero :: letter :: '_' :: cs) digits

/-- A number in base sixteen, in front of which a plus sign may stand. -/
inductive Numeral : List Char → List Nat → Prop where
  | plain {cs : List Char} {digits : List Nat} (unsigned : Unsigned cs digits) : Numeral cs digits
  | signed {cs : List Char} {digits : List Nat} (unsigned : Unsigned cs digits) :
      Numeral ('+' :: cs) digits

section Characters

variable {c : Char}

theorem forall_ascii {p : Char → Prop} (each : ∀ code < 127, p (Char.ofNat code))
    (ascii : c.toNat < 127) : p c := by
  have found := each c.toNat ascii
  rwa [Char.ofNat_toNat] at found

theorem hexValue?_of_ascii (ascii : c.toNat < 127) :
    hexValue? c = (alphanumericValue? c).filter (· < 16) :=
  forall_ascii (p := fun c => hexValue? c = (alphanumericValue? c).filter (· < 16))
    (by decide +kernel) ascii

/-- The signs in a number that are no digits. -/
def numeralSigns : List Char := ['_', '+', '-', 'x', 'X']

/-- Characters that count as the same in a number. -/
structure Alike (c d : Char) : Prop where
  value : hexValue? c = hexValue? d
  nought : decimalValue? c = some 0 ↔ decimalValue? d = some 0
  sign : ∀ sign ∈ numeralSigns, c = sign ↔ d = sign

theorem Alike.symm {d : Char} (alike : Alike c d) : Alike d c :=
  ⟨alike.value.symm, alike.nought.symm, fun sign listed => (alike.sign sign listed).symm⟩

/-- How the reader sees a character that is not blank. -/
structure SeenAs (c seen : Char) : Prop where
  ascii : seen.toNat < 127
  solid : isMargin seen = false
  alike : Alike c seen

theorem seenAs_asciiForm (solid : isBlank c = false) : SeenAs c (asciiForm c) := by
  unfold asciiForm
  by_cases ascii : c.toNat < 127
  · rw [if_pos ascii]
    refine ⟨ascii, ?_, rfl, .rfl, fun sign listed => .rfl⟩
    revert solid
    exact forall_ascii (p := fun c => isBlank c = false → isMargin c = false) (by decide +kernel)
      ascii
  · have beyond {sign : Char} (below : sign.toNat < 127) : c ≠ sign := by
      rintro rfl
      exact ascii below
    have signs : ∀ sign ∈ numeralSigns, sign.toNat < 127 := by simp [numeralSigns]
    rw [if_neg ascii, solid, if_neg Bool.false_ne_true]
    cases found : decimalValue? c with
    | some value =>
      dsimp only
      have digits : ∀ value < 10, (Char.ofNat ('0'.toNat + value)).toNat < 127 ∧
          decimalValue? (Char.ofNat ('0'.toNat + value)) = some value ∧
          isMargin (Char.ofNat ('0'.toNat + value)) = false ∧
          Char.ofNat ('0'.toNat + value) ∉ numeralSigns := by
        decide
      obtain ⟨below, reads, kept, unsigned⟩ := digits value (decimalValue?_lt found)
      refine ⟨below, kept, by simp only [hexValue?, reads, found], by rw [reads, found], ?_⟩
      intro sign listed
      exact ⟨fun same => absurd same (beyond (signs sign listed)),
        fun same => absurd (same ▸ listed) unsigned⟩
    | none =>
      dsimp only
      have letters : hexValue? c = none := by
        have small : ¬ c.toNat ≤ 'f'.toNat := fun small =>
          ascii (Nat.lt_of_le_of_lt small (by decide))
        have capital : ¬ c.toNat ≤ 'F'.toNat := fun small =>
          ascii (Nat.lt_of_le_of_lt small (by decide))
        simp only [hexValue?, found, small, capital, decide_false, Bool.and_false,
          Bool.false_eq_true, if_false]
      have question : '?' ∉ numeralSigns := by decide
      refine ⟨by decide, rfl, by rw [letters]; rfl, by rw [found]; decide, ?_⟩
      intro sign listed
      exact ⟨fun same => absurd same (beyond (signs sign listed)),
        fun same => absurd (same ▸ listed) question⟩

end Characters

section Groups

variable {c d : Char} {cs body : List Char} {digits : List Nat}

theorem ungrouped?_underscore : ungrouped? ('_' :: cs) = none := by
  simp [ungrouped?, pieces]

theorem ungrouped?_apart (digit : c ≠ '_') :
    ungrouped? (c :: '_' :: cs) = (ungrouped? cs).map (c :: ·) := by
  simp only [ungrouped?, pieces, beq_iff_eq, digit, if_false, beq_self_eq_true, if_true,
    List.all_cons, List.isEmpty_cons, Bool.not_false, Bool.true_and, List.flatten_cons]
  split <;> rfl

theorem ungrouped?_next (digit : c ≠ '_') (other : d ≠ '_') :
    ungrouped? (c :: d :: cs) = (ungrouped? (d :: cs)).map (c :: ·) := by
  cases shape : pieces (· == '_') cs with
  | nil => exact absurd shape (pieces_ne_nil _ cs)
  | cons piece more =>
    simp only [ungrouped?, pieces, beq_iff_eq, digit, other, if_false, shape, List.all_cons,
      List.isEmpty_cons, Bool.not_false, Bool.true_and, List.flatten_cons]
    split <;> rfl

theorem eq_filter_of_ungrouped? (split : ungrouped? cs = some body) :
    body = cs.filter fun c => !(c == '_') := by
  rw [← flatten_pieces]
  simp only [ungrouped?] at split
  split at split
  · exact (Option.some.inj split).symm
  · cases split

/-- The characters are digits of these values. -/
def ReadAs (cs : List Char) (digits : List Nat) : Prop :=
  List.Forall₂ (fun c digit => hexValue? c = some digit) cs digits

theorem ne_underscore_of_hexValue? {digit : Nat} (reads : hexValue? c = some digit) : c ≠ '_' := by
  rintro rfl
  have letter : hexValue? '_' = none := by decide
  rw [letter] at reads
  cases reads

theorem Grouped.exists_cons (grouped : Grouped cs digits) : ∃ d rest, cs = d :: rest ∧ d ≠ '_' := by
  cases grouped with
  | last reads => exact ⟨_, _, rfl, ne_underscore_of_hexValue? reads⟩
  | next reads later => exact ⟨_, _, rfl, ne_underscore_of_hexValue? reads⟩
  | apart reads later => exact ⟨_, _, rfl, ne_underscore_of_hexValue? reads⟩

/-- Digits in groups are digits alone once the underscores are taken out. -/
theorem Grouped.exists_body (grouped : Grouped cs digits) :
    ∃ body, ungrouped? cs = some body ∧ ReadAs body digits := by
  induction grouped with
  | @last c digit reads =>
    have single : ungrouped? [c] = some [c] := by
      simp [ungrouped?, pieces, ne_underscore_of_hexValue? reads]
    exact ⟨[c], single, .cons reads .nil⟩
  | @next c digit cs digits reads later ih =>
    obtain ⟨body, split, read⟩ := ih
    obtain ⟨d, rest, rfl, other⟩ := later.exists_cons
    rw [ungrouped?_next (ne_underscore_of_hexValue? reads) other, split]
    exact ⟨c :: body, rfl, .cons reads read⟩
  | @apart c digit cs digits reads later ih =>
    obtain ⟨body, split, read⟩ := ih
    rw [ungrouped?_apart (ne_underscore_of_hexValue? reads), split]
    exact ⟨c :: body, rfl, .cons reads read⟩

theorem grouped_of_ungrouped? (split : ungrouped? cs = some body) (read : ReadAs body digits) :
    Grouped cs digits := by
  induction cs using List.twoStepInduction generalizing body digits with
  | nil => cases split
  | singleton c =>
    by_cases underscore : c = '_'
    · subst underscore
      rw [ungrouped?_underscore] at split
      cases split
    · have single : ungrouped? [c] = some [c] := by simp [ungrouped?, pieces, underscore]
      obtain rfl : body = [c] := Option.some.inj (split.symm.trans single)
      cases read with
      | cons reads nothing =>
        cases nothing
        exact .last reads
  | cons_cons c d cs tail later =>
    by_cases underscore : c = '_'
    · subst underscore
      rw [ungrouped?_underscore] at split
      cases split
    · by_cases apart : d = '_'
      · subst apart
        rw [ungrouped?_apart underscore] at split
        obtain ⟨rest, splits, rfl⟩ := Option.map_eq_some_iff.1 split
        cases read with
        | cons reads read => exact .apart reads (tail splits read)
      · rw [ungrouped?_next underscore apart] at split
        obtain ⟨rest, splits, rfl⟩ := Option.map_eq_some_iff.1 split
        cases read with
        | cons reads read => exact .next reads (later d splits read)

end Groups

section Values

variable {c : Char} {cs body : List Char} {digits : List Nat} {value : Nat}

/-- The number that digits spell, the first digit weighing most. -/
def spelled (digits : List Nat) : Nat := Nat.ofDigits 16 digits.reverse

theorem spelled_eq_foldl (digits : List Nat) :
    spelled digits = digits.foldl (fun value digit => value * 16 + digit) 0 := by
  rw [spelled, Nat.ofDigits_eq_foldr, List.foldr_reverse]
  simp only [Nat.cast_id, Nat.add_comm, Nat.mul_comm]

theorem spelled_snoc (digits : List Nat) (digit : Nat) :
    spelled (digits ++ [digit]) = spelled digits * 16 + digit := by
  rw [spelled_eq_foldl, spelled_eq_foldl, List.foldl_append]
  rfl

theorem digitsValue?_of_ascii (ascii : ∀ c ∈ body, c.toNat < 127) :
    digitsValue? 16 body = body.foldlM (fun value c => (hexValue? c).map (value * 16 + ·)) 0 := by
  unfold digitsValue?
  generalize 0 = start
  induction body generalizing start with
  | nil => rfl
  | cons c body ih =>
    obtain ⟨first, ascii⟩ := List.forall_mem_cons.1 ascii
    rw [List.foldlM_cons, List.foldlM_cons, hexValue?_of_ascii first]
    cases letter : alphanumericValue? c with
    | none => rfl
    | some digit =>
      by_cases small : digit < 16
      · simp only [small, if_true, Option.filter_some, decide_true, Option.map_some,
          Option.bind_eq_bind, Option.bind_some, ih ascii]
      · simp [small, Option.filter]

theorem digitsValue?_eq_some_iff (ascii : ∀ c ∈ body, c.toNat < 127) :
    digitsValue? 16 body = some value ↔ ∃ digits, ReadAs body digits ∧ value = spelled digits := by
  rw [digitsValue?_of_ascii ascii]
  simp only [spelled_eq_foldl]
  generalize 0 = start
  clear ascii
  induction body generalizing start with
  | nil =>
    constructor
    · intro same
      exact ⟨[], .nil, (Option.some.inj same).symm⟩
    · rintro ⟨digits, ⟨⟩, rfl⟩
      rfl
  | cons c body ih =>
    rw [List.foldlM_cons]
    cases reads : hexValue? c with
    | none =>
      constructor
      · rintro ⟨⟩
      · rintro ⟨digits, read, -⟩
        cases read with
        | cons digit later => simp [reads] at digit
    | some digit =>
      refine (ih (start * 16 + digit)).trans ⟨?_, ?_⟩
      · rintro ⟨digits, read, rfl⟩
        exact ⟨digit :: digits, .cons reads read, rfl⟩
      · rintro ⟨digits, read, rfl⟩
        cases read with
        | @cons _ other _ digits same later =>
          obtain rfl : digit = other := Option.some.inj (reads.symm.trans same)
          exact ⟨digits, later, rfl⟩

end Values

section Marks

variable {zero letter : Char} {cs : List Char} {digits : List Nat} {value : Nat}

theorem not_grouped_of_mark (marks : letter = 'x' ∨ letter = 'X') :
    ¬ Grouped (zero :: letter :: cs) digits := by
  have strange : hexValue? 'x' = none ∧ hexValue? 'X' = none := by decide
  intro grouped
  cases grouped with
  | next reads later =>
    cases later <;> rcases marks with rfl | rfl <;> simp_all
  | apart reads later => rcases marks with marks | marks <;> cases marks

theorem not_grouped_underscore : ¬ Grouped ('_' :: cs) digits := by
  intro grouped
  obtain ⟨d, rest, same, other⟩ := grouped.exists_cons
  exact other (List.cons.inj same).1.symm

theorem eq_zero_of_ascii (ascii : zero.toNat < 127) (nought : decimalValue? zero = some 0) :
    zero = '0' := by
  revert nought
  exact forall_ascii (p := fun c => decimalValue? c = some 0 → c = '0') (by decide +kernel) ascii

/-- What is left behind the mark of the base, if there is one, has to be digits in groups. -/
theorem grouped_dropBaseMark_iff (ascii : ∀ c ∈ cs, c.toNat < 127) :
    Grouped (dropBaseMark 16 cs) digits ↔ Unsigned cs digits := by
  have nought : decimalValue? '0' = some 0 := by decide
  unfold dropBaseMark
  split
  · next letter rest =>
    by_cases marks : letter = 'x' ∨ letter = 'X'
    · rw [if_pos (by simpa using marks)]
      split
      · next rest =>
        refine ⟨fun grouped => .spaced nought marks grouped, fun unsigned => ?_⟩
        cases unsigned with
        | digits grouped => exact absurd grouped (not_grouped_of_mark marks)
        | marked nought marks grouped => exact absurd grouped not_grouped_underscore
        | spaced nought marks grouped => exact grouped
      · next plain =>
        refine ⟨fun grouped => .marked nought marks grouped, fun unsigned => ?_⟩
        cases unsigned with
        | digits grouped => exact absurd grouped (not_grouped_of_mark marks)
        | marked nought marks grouped => exact grouped
        | spaced nought marks grouped => exact absurd rfl (plain _)
    · rw [if_neg (by simpa using marks)]
      refine ⟨.digits, fun unsigned => ?_⟩
      cases unsigned with
      | digits grouped => exact grouped
      | marked nought other grouped => exact absurd other marks
      | spaced nought other grouped => exact absurd other marks
  · next plain =>
    refine ⟨.digits, fun unsigned => ?_⟩
    cases unsigned with
    | digits grouped => exact grouped
    | marked nought other grouped =>
      obtain rfl := eq_zero_of_ascii (ascii _ List.mem_cons_self) nought
      exact absurd rfl (plain _ _)
    | spaced nought other grouped =>
      obtain rfl := eq_zero_of_ascii (ascii _ List.mem_cons_self) nought
      exact absurd rfl (plain _ _)

theorem mem_of_mem_dropBaseMark {base : Nat} {c : Char} (inside : c ∈ dropBaseMark base cs) :
    c ∈ cs := by
  unfold dropBaseMark at inside
  split at inside
  · split at inside
    · split at inside <;> simp_all
    · exact inside
  · exact inside

/-- An unsigned number, in characters as the reader sees them, is read as what its digits spell. -/
theorem readNatural_eq_ok_iff (ascii : ∀ c ∈ cs, c.toNat < 127) :
    readNatural 16 cs = .ok value ↔ ∃ digits, Unsigned cs digits ∧ value = spelled digits := by
  have parts : readNatural 16 cs = .ok value ↔
      ∃ body, ungrouped? (dropBaseMark 16 cs) = some body ∧ digitsValue? 16 body = some value := by
    unfold readNatural
    cases ungrouped? (dropBaseMark 16 cs) with
    | none => simp
    | some body => cases reads : digitsValue? 16 body <;> simp [reads]
  have within {body : List Char} (split : ungrouped? (dropBaseMark 16 cs) = some body) :
      ∀ c ∈ body, c.toNat < 127 := by
    intro c inside
    rw [eq_filter_of_ungrouped? split] at inside
    exact ascii c (mem_of_mem_dropBaseMark (List.mem_of_mem_filter inside))
  rw [parts]
  constructor
  · rintro ⟨body, split, reads⟩
    obtain ⟨digits, read, rfl⟩ := (digitsValue?_eq_some_iff (within split)).1 reads
    exact ⟨digits, (grouped_dropBaseMark_iff ascii).1 (grouped_of_ungrouped? split read), rfl⟩
  · rintro ⟨digits, unsigned, rfl⟩
    obtain ⟨body, split, read⟩ := ((grouped_dropBaseMark_iff ascii).2 unsigned).exists_body
    exact ⟨body, split, (digitsValue?_eq_some_iff (within split)).2 ⟨digits, read, rfl⟩⟩

end Marks

section Seen

variable {cs seen : List Char} {digits : List Nat}

theorem Grouped.of_alike (grouped : Grouped cs digits) (alike : List.Forall₂ Alike cs seen) :
    Grouped seen digits := by
  induction grouped generalizing seen with
  | last reads =>
    cases alike with
    | cons first rest =>
      cases rest
      exact .last (first.value.symm.trans reads)
  | next reads later ih =>
    cases alike with
    | cons first rest => exact .next (first.value.symm.trans reads) (ih rest)
  | apart reads later ih =>
    cases alike with
    | cons first rest =>
      cases rest with
      | cons second rest =>
        obtain rfl := (second.sign '_' (by decide)).1 rfl
        exact .apart (first.value.symm.trans reads) (ih rest)

theorem mark_of_alike {letter other : Char} (alike : Alike letter other)
    (marks : letter = 'x' ∨ letter = 'X') : other = 'x' ∨ other = 'X' :=
  marks.imp (alike.sign 'x' (by decide)).1 (alike.sign 'X' (by decide)).1

theorem Unsigned.of_alike (unsigned : Unsigned cs digits) (alike : List.Forall₂ Alike cs seen) :
    Unsigned seen digits := by
  cases unsigned with
  | digits grouped => exact .digits (grouped.of_alike alike)
  | marked nought marks grouped =>
    cases alike with
    | cons first rest =>
      cases rest with
      | cons second rest =>
        exact .marked (first.nought.1 nought) (mark_of_alike second marks) (grouped.of_alike rest)
  | spaced nought marks grouped =>
    cases alike with
    | cons first rest =>
      cases rest with
      | cons second rest =>
        cases rest with
        | cons third rest =>
          obtain rfl := (third.sign '_' (by decide)).1 rfl
          exact .spaced (first.nought.1 nought) (mark_of_alike second marks)
            (grouped.of_alike rest)

theorem unsigned_map_iff (solid : ∀ c ∈ cs, isBlank c = false) :
    Unsigned (cs.map asciiForm) digits ↔ Unsigned cs digits := by
  have alike : List.Forall₂ Alike cs (cs.map asciiForm) :=
    List.forall₂_map_right_iff.2 (List.forall₂_same.2 fun c inside =>
      (seenAs_asciiForm (solid c inside)).alike)
  have back : List.Forall₂ Alike (cs.map asciiForm) cs := (alike.imp fun c d => Alike.symm).flip
  exact ⟨fun unsigned => unsigned.of_alike back, fun unsigned => unsigned.of_alike alike⟩

theorem not_unsigned_plus : ¬ Unsigned ('+' :: cs) digits := by
  have strange : hexValue? '+' = none ∧ decimalValue? '+' ≠ some 0 := by decide
  intro unsigned
  cases unsigned with
  | digits grouped => cases grouped <;> simp_all
  | marked nought marks grouped => exact strange.2 nought
  | spaced nought marks grouped => exact strange.2 nought

theorem numeral_plus_iff : Numeral ('+' :: cs) digits ↔ Unsigned cs digits := by
  refine ⟨fun numeral => ?_, .signed⟩
  cases numeral with
  | plain unsigned => exact absurd unsigned not_unsigned_plus
  | signed unsigned => exact unsigned

/-- A text without blank characters and without a minus sign is read as an integer exactly if it is
a number in base sixteen, and then as the one that its digits spell. -/
theorem readInteger_eq_ok_iff (plain : ∀ c ∈ cs, isBlank c = false ∧ c ≠ '-') {number : Int} :
    readInteger 16 (String.ofList cs) = .ok number
      ↔ ∃ digits, Numeral cs digits ∧ number = spelled digits := by
  have seen {c : Char} (inside : c ∈ cs) := seenAs_asciiForm (plain c inside).1
  have trimmed : trim isMargin (cs.map asciiForm) = cs.map asciiForm := by
    refine trim_of_free fun c inside => ?_
    obtain ⟨d, there, rfl⟩ := List.mem_map.1 inside
    exact (seen there).solid
  have natural {rest : List Char} (within : rest ⊆ cs) :
      (readNatural 16 (rest.map asciiForm)).map (fun value => (value : Int)) = .ok number
        ↔ ∃ digits, Unsigned rest digits ∧ number = spelled digits := by
    have ascii : ∀ c ∈ rest.map asciiForm, c.toNat < 127 := by
      intro c inside
      obtain ⟨d, there, rfl⟩ := List.mem_map.1 inside
      exact (seen (within there)).ascii
    have mapped :
        (readNatural 16 (rest.map asciiForm)).map (fun value => (value : Int)) = .ok number ↔
          ∃ value : Nat, readNatural 16 (rest.map asciiForm) = .ok value ∧ number = value := by
      cases readNatural 16 (rest.map asciiForm) <;> simp [Except.map, eq_comm]
    have solid : ∀ c ∈ rest, isBlank c = false := fun c inside => (plain c (within inside)).1
    simp only [mapped, readNatural_eq_ok_iff ascii, unsigned_map_iff solid]
    constructor
    · rintro ⟨value, ⟨digits, unsigned, rfl⟩, rfl⟩
      exact ⟨digits, unsigned, rfl⟩
    · rintro ⟨digits, unsigned, rfl⟩
      exact ⟨_, ⟨digits, unsigned, rfl⟩, rfl⟩
  unfold readInteger
  rw [String.toList_ofList, trimmed]
  split
  · next minus =>
    obtain ⟨c, rest, rfl, first, -⟩ := List.map_eq_cons_iff.1 minus
    have signed := ((seen List.mem_cons_self).alike.sign '-' (by decide)).2 first
    exact absurd signed (plain c List.mem_cons_self).2
  · next plus =>
    obtain ⟨c, rest, rfl, first, rfl⟩ := List.map_eq_cons_iff.1 plus
    obtain rfl := ((seen List.mem_cons_self).alike.sign '+' (by decide)).2 first
    simp only [numeral_plus_iff]
    exact natural (List.subset_cons_self _ _)
  · next unsigned =>
    have whole {digits : List Nat} : Numeral cs digits ↔ Unsigned cs digits := by
      refine ⟨fun numeral => ?_, .plain⟩
      cases numeral with
      | plain unsigned => exact unsigned
      | signed rest => exact absurd rfl (unsigned _)
    simp only [whole]
    exact natural (List.Subset.refl _)

end Seen

section Spelled

variable {digits : List Nat} {cs : List Char} {c : Char} {digit : Nat}

theorem lt_of_hexValue? (reads : hexValue? c = some digit) : digit < 16 := by
  unfold hexValue? at reads
  split at reads
  · next found =>
    cases reads
    have decimal := decimalValue?_lt found
    omega
  · split at reads
    · next small =>
      cases reads
      simp only [Bool.and_eq_true, decide_eq_true_eq] at small
      have last : 'f'.toNat = 'a'.toNat + 5 := rfl
      omega
    · split at reads
      · next capital =>
        cases reads
        simp only [Bool.and_eq_true, decide_eq_true_eq] at capital
        have last : 'F'.toNat = 'A'.toNat + 5 := rfl
        omega
      · cases reads

theorem spelled_lt (small : ∀ digit ∈ digits, digit < 16) :
    spelled digits < 16 ^ digits.length := by
  have bound := Nat.ofDigits_lt_base_pow_length (b := 16) (l := digits.reverse) (by decide)
    fun digit inside => small digit (List.mem_reverse.1 inside)
  rwa [List.length_reverse] at bound

theorem hexDigits_spelled (small : ∀ digit ∈ digits, digit < 16) :
    hexDigits digits.length (spelled digits) = digits.map hexDigit := by
  induction digits using List.reverseRecOn with
  | nil => rfl
  | append_singleton digits digit ih =>
    have last : digit < 16 := small digit (by simp)
    have front := ih fun other inside => small other (List.mem_append_left _ inside)
    have quotient : (spelled digits * 16 + digit) / 16 = spelled digits := by omega
    have remainder : (spelled digits * 16 + digit) % 16 = digit := by omega
    rw [List.length_append, List.length_singleton, spelled_snoc, hexDigits, quotient, remainder,
      front, List.map_append, List.map_singleton]

/-- The digits of a number in groups, signs and mark left out. -/
theorem Grouped.digits_spec (grouped : Grouped cs digits) :
    digits.length ≤ cs.length ∧ ∀ digit ∈ digits, digit < 16 := by
  induction grouped with
  | last reads => simp [lt_of_hexValue? reads]
  | next reads later ih => simp [lt_of_hexValue? reads, ih.1]; exact ih.2
  | apart reads later ih =>
    refine ⟨by simp; omega, ?_⟩
    simpa [lt_of_hexValue? reads] using ih.2

theorem Numeral.digits_spec (numeral : Numeral cs digits) :
    digits.length ≤ cs.length ∧ ∀ digit ∈ digits, digit < 16 := by
  have unsigned {cs : List Char} (unsigned : Unsigned cs digits) :
      digits.length ≤ cs.length ∧ ∀ digit ∈ digits, digit < 16 := by
    cases unsigned with
    | digits grouped => exact grouped.digits_spec
    | marked nought marks grouped =>
      exact ⟨by have := grouped.digits_spec.1; simp; omega, grouped.digits_spec.2⟩
    | spaced nought marks grouped =>
      exact ⟨by have := grouped.digits_spec.1; simp; omega, grouped.digits_spec.2⟩
  cases numeral with
  | plain plain => exact unsigned plain
  | signed plain => exact ⟨Nat.le_succ_of_le (unsigned plain).1, (unsigned plain).2⟩

theorem ReadAs.lt (read : ReadAs cs digits) : ∀ digit ∈ digits, digit < 16 := by
  induction read with
  | nil => simp
  | cons reads later ih => exact List.forall_mem_cons.2 ⟨lt_of_hexValue? reads, ih⟩

theorem exists_readAs (letters : ∀ c ∈ cs, c ∈ hexLetters) : ∃ digits, ReadAs cs digits := by
  have each : ∀ c ∈ hexLetters, ∃ digit, hexValue? c = some digit := by
    simp only [← Option.isSome_iff_exists]
    exact List.forall_iff_forall_mem.1 (by decide +kernel)
  induction cs with
  | nil => exact ⟨[], .nil⟩
  | cons c cs ih =>
    obtain ⟨first, letters⟩ := List.forall_mem_cons.1 letters
    obtain ⟨digit, reads⟩ := each c first
    obtain ⟨digits, read⟩ := ih letters
    exact ⟨digit :: digits, .cons reads read⟩

theorem ReadAs.grouped (read : ReadAs cs digits) (filled : cs ≠ []) : Grouped cs digits := by
  induction read with
  | nil => exact absurd rfl filled
  | @cons c digit cs digits reads later ih =>
    cases cs with
    | nil =>
      cases later
      exact .last reads
    | cons d cs => exact .next reads (ih nofun)

/-- Letters of either case are the digits that they are read as. -/
theorem ReadAs.isCased (read : ReadAs cs digits) (letters : ∀ c ∈ cs, c ∈ hexLetters) :
    IsCased (hexDigits cs.length (spelled digits)) cs := by
  have each : ∀ c ∈ hexLetters, ∀ digit < 16, hexValue? c = some digit →
      c = hexDigit digit ∨ c = (hexDigit digit).toUpper :=
    List.forall_iff_forall_mem.1 (by decide +kernel)
  rw [read.length_eq, hexDigits_spelled read.lt]
  induction read with
  | nil => exact .nil
  | cons reads later ih =>
    obtain ⟨first, letters⟩ := List.forall_mem_cons.1 letters
    exact .cons (each _ first _ (lt_of_hexValue? reads) reads) (ih letters)

end Spelled

end DiskFixture.Text
