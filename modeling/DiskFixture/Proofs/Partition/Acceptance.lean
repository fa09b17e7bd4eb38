import DiskFixture.Proofs.Ending
import DiskFixture.Proofs.Partition.Rendering
import DiskFixture.Proofs.Text.Numeral

/-!
The values that are read as identifiers. The reader of numbers is more liberal than the digits of an
identifier, so some values are accepted that are none. Main statement: the first value behind the
tag is accepted exactly if what is left of it are thirty-two characters that spell a number, and it
is read as its own digits exactly if all of them are hexadecimal digits.
-/

namespace DiskFixture

namespace Identifier

section Core

variable {cs : List Char} {c : Char} {identifier : Identifier}

theorem mem_of_mem_core (inside : c ∈ core cs) : c ∈ cs ∧ c ≠ '-' := by
  obtain ⟨within, kept⟩ := List.mem_filter.1 inside
  exact ⟨Text.mem_of_mem_takeOut (Text.mem_of_mem_takeOut (Text.mem_of_mem_trim within)),
    by simpa using kept⟩

theorem spelled_lt_bits {digits : List Nat} (short : digits.length ≤ 32)
    (small : ∀ digit ∈ digits, digit < 16) : Text.spelled digits < 2 ^ 128 := by
  calc Text.spelled digits < 16 ^ digits.length := Text.spelled_lt small
    _ ≤ 16 ^ 32 := Nat.pow_le_pow_right (by decide) short
    _ = 2 ^ 128 := by decide

/-- A value without blank characters is accepted exactly if what is left of it are thirty-two
characters that spell a number, and this number is the identifier. -/
theorem parse_eq_ok_iff (solid : ∀ c ∈ cs, Text.isBlank c = false) :
    parse (String.ofList cs) = .ok identifier ↔ (core cs).length = 32 ∧
      ∃ digits, Text.Numeral (core cs) digits ∧ identifier.bits.toNat = Text.spelled digits := by
  have plain : ∀ c ∈ core cs, Text.isBlank c = false ∧ c ≠ '-' := fun c inside =>
    ⟨solid c (mem_of_mem_core inside).1, (mem_of_mem_core inside).2⟩
  by_cases length : (core cs).length = 32
  · have parses : parse (String.ofList cs) = .ok identifier ↔ ∃ number,
        Text.readInteger 16 (String.ofList (core cs)) = .ok number ∧
          identifier = ⟨BitVec.ofInt 128 number⟩ := by
      rw [parse, String.toList_ofList]
      simp only [length, if_true]
      cases Text.readInteger 16 (String.ofList (core cs)) <;> simp [eq_comm]
    have same {digits : List Nat} (numeral : Text.Numeral (core cs) digits) :
        identifier = ⟨BitVec.ofInt 128 (Text.spelled digits)⟩
          ↔ identifier.bits.toNat = Text.spelled digits := by
      obtain ⟨short, small⟩ := numeral.digits_spec
      obtain ⟨bits⟩ := identifier
      rw [Identifier.mk.injEq, ← BitVec.toNat_inj, BitVec.ofInt_natCast, BitVec.toNat_ofNat,
        Nat.mod_eq_of_lt (spelled_lt_bits (length ▸ short) small)]
    rw [parses]
    simp only [Text.readInteger_eq_ok_iff plain, length, true_and]
    constructor
    · rintro ⟨number, ⟨digits, numeral, rfl⟩, reads⟩
      exact ⟨digits, numeral, (same numeral).1 reads⟩
    · rintro ⟨digits, numeral, reads⟩
      exact ⟨_, ⟨digits, numeral, rfl⟩, (same numeral).2 reads⟩
  · have refused : parse (String.ofList cs) = .error .identifierLength := by
      rw [parse, String.toList_ofList]
      exact if_neg length
    simp [refused, length]

/-- A value without blank characters is read as the identifier that it shows, up to the case of the
letters, exactly if what is left of it are thirty-two hexadecimal digits. -/
theorem hexLetters_iff_parse (solid : ∀ c ∈ cs, Text.isBlank c = false) :
    (core cs).length = 32 ∧ (∀ c ∈ core cs, c ∈ Text.hexLetters) ↔
      ∃ identifier, parse (String.ofList cs) = .ok identifier ∧
        Text.IsCased identifier.digits (core cs) := by
  constructor
  · rintro ⟨length, letters⟩
    obtain ⟨digits, read⟩ := Text.exists_readAs letters
    have filled : core cs ≠ [] := List.ne_nil_of_length_pos (by omega)
    have bits : (BitVec.ofNat 128 (Text.spelled digits)).toNat = Text.spelled digits :=
      Nat.mod_eq_of_lt (spelled_lt_bits (Nat.le_of_eq (read.length_eq.symm.trans length)) read.lt)
    refine ⟨⟨BitVec.ofNat 128 (Text.spelled digits)⟩, ?_, ?_⟩
    · exact (parse_eq_ok_iff solid).2
        ⟨length, digits, .plain (.digits (read.grouped filled)), bits⟩
    · have cased := read.isCased letters
      rwa [length, ← bits] at cased
  · rintro ⟨identifier, -, cased⟩
    have length : (core cs).length = 32 := by
      rw [← cased.length_eq, digits, Text.length_hexDigits]
    exact ⟨length, Text.mem_hexLetters_of_cased cased⟩

end Core

section Fields

variable {output : String} {front rest : List String} {field : String} {quoted : List Char}

theorem solid_of_mem_fields (inside : field ∈ Text.fields output) :
    ∀ c ∈ field.toList, Text.isBlank c = false := by
  obtain ⟨piece, kept, rfl⟩ := List.mem_map.1 inside
  rw [String.toList_ofList]
  exact Text.not_cut_of_mem_pieces _ _ piece (List.mem_of_mem_filter kept)

theorem find?_of_untagged (untagged : ∀ field ∈ Text.fields output, ¬ tag.toList <+: field.toList) :
    find? output = none := by
  refine List.findSome?_eq_none_iff.2 fun field inside => ?_
  rw [← String.ofList_toList (s := field), tagged?_eq_none_iff]
  exact untagged field inside

/-- The first field that starts with the tag is the one that is found. -/
theorem find?_of_split (split : Text.fields output = front ++ field :: rest)
    (untagged : ∀ other ∈ front, ¬ tag.toList <+: other.toList)
    (tagged : field.toList = tag.toList ++ quoted) :
    find? output = some (String.ofList (Text.trim (· == '"') quoted)) := by
  have nothing : front.findSome? tagged? = none := by
    refine List.findSome?_eq_none_iff.2 fun other inside => ?_
    rw [← String.ofList_toList (s := other), tagged?_eq_none_iff]
    exact untagged other inside
  rw [find?, split, List.findSome?_append, nothing, Option.none_or, List.findSome?_cons,
    ← String.ofList_toList (s := field), tagged, tagged?_tag]

/-- The first field with the tag decides. Its value, without the quotes around it, is accepted
exactly if what is left of it are thirty-two characters that spell a number, and otherwise the fault
carries it; it is read as its own digits exactly if all of these are hexadecimal digits. -/
theorem ofOutput_accepts (device output : String) :
    ((∀ field ∈ Text.fields output, ¬ tag.toList <+: field.toList) →
      ofOutput device output = .error (.ofProblem (.identityMissing (.text device)))) ∧
    ∀ front field rest quoted, Text.fields output = front ++ field :: rest →
      (∀ other ∈ front, ¬ tag.toList <+: other.toList) →
      field.toList = tag.toList ++ quoted →
      let value := Text.trim (· == '"') quoted
      (∀ identifier, ofOutput device output = .ok identifier ↔ (core value).length = 32 ∧
        ∃ digits, Text.Numeral (core value) digits ∧
          identifier.bits.toNat = Text.spelled digits) ∧
      (∀ fault, ofOutput device output = .error fault → ∃ misuse, fault = .dueTo
        (.identityMalformed (.text device) (.text (String.ofList value))) (.ofMisuse misuse)) ∧
      ((core value).length = 32 ∧ (∀ c ∈ core value, c ∈ Text.hexLetters) ↔
        ∃ identifier, ofOutput device output = .ok identifier ∧
          Text.IsCased identifier.digits (core value)) := by
  constructor
  · intro untagged
    exact ofOutput_eq_missing_iff.2 (find?_of_untagged untagged)
  · intro front field rest quoted split untagged tagged value
    have found := find?_of_split split untagged tagged
    have solid : ∀ c ∈ value, Text.isBlank c = false := by
      intro c inside
      have there : field ∈ Text.fields output := by simp [split]
      refine solid_of_mem_fields there c ?_
      rw [tagged]
      exact List.mem_append_right _ (Text.mem_of_mem_trim inside)
    have reads {identifier : Identifier} : ofOutput device output = .ok identifier
        ↔ parse (String.ofList value) = .ok identifier := by
      simp [ofOutput_eq_ok_iff, found, value]
    refine ⟨fun identifier => reads.trans (parse_eq_ok_iff solid), ?_, ?_⟩
    · intro fault fails
      rw [ofOutput, found] at fails
      cases parses : parse (String.ofList value) with
      | ok identifier => simp [value, parses] at fails
      | error misuse =>
        simp only [value, parses] at fails
        exact ⟨misuse, (Except.error.inj fails).symm⟩
    · simp only [reads]
      exact hexLetters_iff_parse solid

/-- A value with the mark of the base in it is accepted, and the number of another table is not. -/
theorem ofOutput_accepts_marked :
    let output (value : String) :=
      "/dev/loop0p1: PTUUID=\"0f5c2a9e\" PARTUUID=\"" ++ value ++ "\"\n"
    let marked := "\x7b0x_c2a9e-8f0b-4b8e-9d4a-1c2b3d4e5f60\x7d"
    ofOutput "/dev/loop0p1" (output marked) = .ok ⟨0xc2a9e8f0b4b8e9d4a1c2b3d4e5f60⟩ ∧
      ∃ misuse, ofOutput "/dev/loop0p1" (output "0f5c2a9e-01") = .error (.dueTo
        (.identityMalformed (.text "/dev/loop0p1") (.text "0f5c2a9e-01")) (.ofMisuse misuse)) := by
  intro output marked
  have decided (value : String) := (ofOutput_accepts "/dev/loop0p1" (output value)).2
    ["/dev/loop0p1:", "PTUUID=\"0f5c2a9e\""] (tag ++ "\"" ++ value ++ "\"") []
    ("\"" ++ value ++ "\"").toList
  constructor
  · obtain ⟨accepts, -, -⟩ := decided marked (by decide +kernel) (by decide +kernel)
      (by decide +kernel)
    let letters := "c2a9e8f0b4b8e9d4a1c2b3d4e5f60".toList
    let digits := letters.filterMap Text.hexValue?
    have left : core (Text.trim (· == '"') ("\"" ++ marked ++ "\"").toList)
        = '0' :: 'x' :: '_' :: letters := by
      decide +kernel
    have read : Text.ReadAs letters digits := by
      unfold Text.ReadAs
      decide +kernel
    have numeral : Text.Numeral ('0' :: 'x' :: '_' :: letters) digits :=
      .plain (.spaced (by decide) (.inl rfl) (read.grouped nofun))
    rw [left] at accepts
    exact (accepts _).2 ⟨by decide, digits, numeral, by decide +kernel⟩
  · obtain ⟨accepts, refuses, -⟩ := decided "0f5c2a9e-01" (by decide +kernel) (by decide +kernel)
      (by decide +kernel)
    have value : Text.trim (· == '"') ("\"" ++ "0f5c2a9e-01" ++ "\"").toList
        = "0f5c2a9e-01".toList := by
      decide +kernel
    rw [value] at accepts refuses
    cases ends : ofOutput "/dev/loop0p1" (output "0f5c2a9e-01") with
    | ok identifier =>
      have length := ((accepts identifier).1 ends).1
      exact absurd length (by decide +kernel)
    | error fault =>
      obtain ⟨misuse, rfl⟩ := refuses fault ends
      exact ⟨misuse, rfl⟩

/-- Values with a sign, the mark of the base, an underscore or a digit of another script are read as
identifiers, although what is left of them are not thirty-two hexadecimal digits. -/
theorem ofOutput_of_numerals :
    let values := ["+f5c2a9e-8f0b-4b8e-9d4a-1c2b3d4e5f60", "0x5c2a9e-8f0b-4b8e-9d4a-1c2b3d4e5f60",
      "0f5c_a9e-8f0b-4b8e-9d4a-1c2b3d4e5f60", "\u0660f5c2a9e-8f0b-4b8e-9d4a-1c2b3d4e5f60"]
    ∀ value ∈ values, (∃ identifier,
        ofOutput "/dev/loop0p1" ("/dev/loop0p1: PARTUUID=\"" ++ value ++ "\"") = .ok identifier) ∧
      ¬ ∀ c ∈ core value.toList, c ∈ Text.hexLetters := by
  have evaluated : ∀ value ∈ ["+f5c2a9e-8f0b-4b8e-9d4a-1c2b3d4e5f60",
      "0x5c2a9e-8f0b-4b8e-9d4a-1c2b3d4e5f60", "0f5c_a9e-8f0b-4b8e-9d4a-1c2b3d4e5f60",
      "\u0660f5c2a9e-8f0b-4b8e-9d4a-1c2b3d4e5f60"],
      (ofOutput "/dev/loop0p1" ("/dev/loop0p1: PARTUUID=\"" ++ value ++ "\"")).isOk = true ∧
        (core value.toList).all (· ∈ Text.hexLetters) = false := by
    decide +kernel
  intro values value listed
  obtain ⟨good, strange⟩ := evaluated value listed
  refine ⟨exists_ok_of_isOk good, fun all => ?_⟩
  simp only [← Bool.not_eq_true, List.all_eq_true, decide_eq_true_eq] at strange
  exact strange all

end Fields

end Identifier

end DiskFixture
