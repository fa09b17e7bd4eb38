import DiskFixture.Partition.Lookup
import DiskFixture.Proofs.Text.Hexadecimal
import DiskFixture.Proofs.Text.Search

/-!
The ways to write an identifier. Main statement: however an identifier is written behind the tag,
and whatever stands around it, it is found and read as this very identifier.
-/

namespace DiskFixture.Identifier

/-- The texts that stand for an identifier: its digits in letters of either case and with hyphens
anywhere, and such a text in braces or behind the marker. -/
inductive Renders (identifier : Identifier) : List Char → Prop where
  | digits {cs : List Char} (cased : Text.IsCased identifier.digits (cs.filter (· != '-'))) :
      Renders identifier cs
  | braced {cs : List Char} (inner : Renders identifier cs) :
      Renders identifier ('\x7b' :: cs ++ ['\x7d'])
  | marked {cs : List Char} (inner : Renders identifier cs) :
      Renders identifier ("urn:uuid:".toList ++ cs)

section Core

variable {identifier : Identifier} {cs : List Char}

theorem core_of_plain (plain : ∀ c ∈ cs, c ≠ 'u' ∧ isBrace c = false) :
    core cs = cs.filter (· != '-') := by
  have kept (word : List Char) (starts : 'u' ∈ word) : Text.takeOut word cs = cs := by
    apply Text.takeOut_of_not_occursIn
    rw [← Bool.not_eq_true, Text.occursIn_iff]
    intro inside
    exact (plain 'u' (inside.subset starts)).1 rfl
  rw [core, kept "urn:".toList (by decide), kept "uuid:".toList (by decide),
    Text.trim_of_free fun c inside => (plain c inside).2]

theorem core_braced (cs : List Char) : core ('\x7b' :: cs ++ ['\x7d']) = core cs := by
  have kept {word : List Char} (starts : word.head? = some 'u') (strange : '\x7d' ∉ word)
      (cs : List Char) : Text.takeOut word ('\x7b' :: cs ++ ['\x7d'])
        = '\x7b' :: Text.takeOut word cs ++ ['\x7d'] := by
    obtain ⟨rest, rfl⟩ := List.head?_eq_some_iff.1 starts
    have apart : ¬ 'u' :: rest <+: '\x7b' :: (cs ++ ['\x7d']) := by
      simp [List.cons_prefix_cons]
    rw [List.cons_append, Text.takeOut_cons apart, Text.takeOut_snoc strange nofun,
      List.cons_append]
  rw [core, kept rfl (by decide), kept rfl (by decide), ← List.singleton_append,
    Text.trim_append (by simp [isBrace]) (by simp [isBrace]), core]

theorem core_marked (cs : List Char) : core ("urn:uuid:".toList ++ cs) = core cs := by
  have first : Text.takeOut "urn:".toList ("urn:uuid:".toList ++ cs)
      = "uuid:".toList ++ Text.takeOut "urn:".toList cs := by
    have word : "urn:uuid:".toList ++ cs = "urn:".toList ++ ("uuid:".toList ++ cs) := by simp
    rw [word, Text.takeOut_append (by decide)]
    simp [Text.takeOut, Text.takeOutFrom]
  rw [core, first, Text.takeOut_append (by decide), core]

theorem core_of_renders (renders : Renders identifier cs) :
    Text.IsCased identifier.digits (core cs) := by
  induction renders with
  | @digits cs cased =>
    have plain : ∀ c ∈ Text.hexLetters, c ≠ 'u' ∧ isBrace c = false :=
      List.forall_iff_forall_mem.1 (by decide)
    rw [core_of_plain]
    · exact cased
    intro c inside
    by_cases hyphen : c = '-'
    · subst hyphen
      decide
    · exact plain c (Text.mem_hexLetters_of_cased cased c (by simp [inside, hyphen]))
  | @braced cs inner ih =>
    rw [core_braced]
    exact ih
  | @marked cs inner ih =>
    rw [core_marked]
    exact ih

/-- What stands for an identifier is read as it. -/
theorem parse_of_renders (renders : Renders identifier cs) :
    parse (String.ofList cs) = .ok identifier := by
  have cased := core_of_renders renders
  have length : (core cs).length = 32 := by
    rw [← cased.length_eq, digits, Text.length_hexDigits]
  have filled : core cs ≠ [] := List.ne_nil_of_length_pos (by omega)
  have small : identifier.bits.toNat % 16 ^ 32 = identifier.bits.toNat :=
    Nat.mod_eq_of_lt identifier.bits.isLt
  rw [parse, String.toList_ofList]
  simp only [length, if_true, Text.readInteger_of_cased cased filled, small]
  simp

/-- The canonical text is one of the ways to write an identifier. -/
theorem renders_text (identifier : Identifier) : Renders identifier identifier.text.toList := by
  apply Renders.digits
  have plain : ∀ digit < 16, (Text.hexDigit digit != '-') = true := by decide
  have length : identifier.digits.length = 32 := Text.length_hexDigits 32 _
  have group (start count : Nat) : ((identifier.digits.drop start).take count).filter (· != '-')
      = (identifier.digits.drop start).take count := by
    refine List.filter_eq_self.2 fun c inside => ?_
    have within : c ∈ identifier.digits := List.mem_of_mem_drop (List.mem_of_mem_take inside)
    obtain ⟨digit, small, rfl⟩ := Text.exists_hexDigit_of_mem within
    exact plain digit small
  have onward (start count : Nat) : (identifier.digits.drop start).take count
      ++ identifier.digits.drop (start + count) = identifier.digits.drop start := by
    rw [← List.drop_drop, List.take_append_drop]
  have last : (identifier.digits.drop 20).take 12 = identifier.digits.drop 20 :=
    List.take_of_length_le (by simp [length])
  have joined : identifier.text.toList.filter (· != '-') = identifier.digits := by
    simp only [text, String.toList_ofList, List.filter_append, List.filter_cons, group]
    simp only [bne_self_eq_false, Bool.false_eq_true, if_false, List.append_assoc]
    rw [last, onward 16 4, onward 12 4, onward 8 4, onward 0 8, List.drop_zero]
  rw [joined]
  exact Text.IsCased.refl _

theorem parse_text (identifier : Identifier) : parse identifier.text = .ok identifier := by
  have canonical := parse_of_renders (renders_text identifier)
  rwa [String.ofList_toList] at canonical

end Core

section Find

variable {c : Char} {cs : List Char}

/-- What is found in a text is found in front of a blank character, or else behind it. -/
theorem find?_append (blank : Text.isBlank c = true) (front rest : List Char) :
    find? (String.ofList (front ++ c :: rest))
      = (find? (String.ofList front)).or (find? (String.ofList rest)) := by
  rw [find?, Text.fields_append blank, List.findSome?_append]
  rfl

theorem find?_of_solid (solid : ∀ c ∈ cs, Text.isBlank c = false) :
    find? (String.ofList cs) = tagged? (String.ofList cs) := by
  rw [find?, Text.fields_of_solid solid]
  cases cs with
  | nil => rfl
  | cons c cs => simp

theorem find?_of_blank (blank : ∀ c ∈ cs, Text.isBlank c = true) (rest : List Char) :
    find? (String.ofList (cs ++ rest)) = find? (String.ofList rest) := by
  induction cs with
  | nil => rfl
  | cons c cs ih =>
    have later := ih fun d inside => blank d (List.mem_cons_of_mem c inside)
    have front := find?_append (blank c List.mem_cons_self) [] (cs ++ rest)
    exact front.trans later

theorem solid_tag : ∀ c ∈ tag.toList, Text.isBlank c = false :=
  List.forall_iff_forall_mem.1 (by decide)

theorem tagged?_tag (value : List Char) : tagged? (String.ofList (tag.toList ++ value))
    = some (String.ofList (Text.trim (· == '"') value)) := by
  have starts : tag.toList.isPrefixOf (tag.toList ++ value) = true :=
    List.isPrefixOf_iff_prefix.2 (List.prefix_append _ _)
  simp only [tagged?, String.toList_ofList, starts, if_true, List.drop_left]

theorem tagged?_eq_none_iff : tagged? (String.ofList cs) = none ↔ ¬ tag.toList <+: cs := by
  rw [tagged?, String.toList_ofList, ← List.isPrefixOf_iff_prefix]
  split <;> simp [*]

end Find

/-- A field that does not start with the tag, with the blank characters behind it. It is empty where
blank characters stand in front of the first field. -/
structure OtherField where
  word : List Char
  gap : List Char
  solid : ∀ c ∈ word, Text.isBlank c = false
  untagged : ¬ tag.toList <+: word
  blank : ∀ c ∈ gap, Text.isBlank c = true
  apart : gap ≠ []

def OtherField.chars (field : OtherField) : List Char := field.word ++ field.gap

/-- In fields that do not start with the tag nothing is found. -/
theorem find?_otherFields (fields : List OtherField) (rest : List Char) :
    find? (String.ofList (fields.flatMap OtherField.chars ++ rest))
      = find? (String.ofList rest) := by
  induction fields with
  | nil => rfl
  | cons field fields ih =>
    obtain ⟨c, gap, split⟩ := List.exists_cons_of_ne_nil field.apart
    have blank := field.blank
    rw [split] at blank
    have nothing : find? (String.ofList field.word) = none := by
      rw [find?_of_solid field.solid]
      exact tagged?_eq_none_iff.2 field.untagged
    rw [List.flatMap_cons, OtherField.chars, split]
    simp only [List.append_assoc, List.cons_append]
    rw [find?_append (blank c List.mem_cons_self), nothing, Option.none_or,
      find?_of_blank fun d inside => blank d (List.mem_cons_of_mem c inside)]
    exact ih

section Output

variable {device output : String} {identifier : Identifier}

theorem ofOutput_eq_ok_iff : ofOutput device output = .ok identifier
    ↔ ∃ word, find? output = some word ∧ parse word = .ok identifier := by
  rw [ofOutput]
  cases find? output with
  | none => simp
  | some word => cases reading : parse word <;> simp [reading]

theorem ofOutput_eq_missing_iff :
    ofOutput device output = .error (.ofProblem (.identityMissing (.text device)))
      ↔ find? output = none := by
  rw [ofOutput]
  cases find? output with
  | none => simp
  | some word => cases reading : parse word <;> simp [reading, Fault.dueTo, Fault.ofProblem]

end Output

section Reading

variable {identifier : Identifier} {cs : List Char}

/-- The characters of the ways to write an identifier. -/
def letters : List Char := '-' :: '\x7b' :: '\x7d' :: "urn:uuid:".toList ++ Text.hexLetters

theorem mem_letters_of_renders (renders : Renders identifier cs) : ∀ c ∈ cs, c ∈ letters := by
  induction renders with
  | @digits cs cased =>
    intro c inside
    by_cases hyphen : c = '-'
    · exact hyphen ▸ List.mem_cons_self
    · have digit := Text.mem_hexLetters_of_cased cased c (by simp [inside, hyphen])
      exact List.mem_append_right _ digit
  | @braced cs inner ih =>
    intro c inside
    rcases List.mem_append.1 inside with front | last
    · rcases List.mem_cons.1 front with rfl | inside
      · decide
      · exact ih c inside
    · rw [List.mem_singleton.1 last]
      decide
  | @marked cs inner ih =>
    have marker : ∀ c ∈ "urn:uuid:".toList, c ∈ letters :=
      List.forall_iff_forall_mem.1 (by decide)
    intro c inside
    rcases List.mem_append.1 inside with front | inside
    · exact marker c front
    · exact ih c inside

theorem plain_of_renders (renders : Renders identifier cs) :
    ∀ c ∈ cs, Text.isBlank c = false ∧ (c == '"') = false := by
  have plain : ∀ c ∈ letters, Text.isBlank c = false ∧ (c == '"') = false :=
    List.forall_iff_forall_mem.1 (by decide)
  exact fun c inside => plain c (mem_letters_of_renders renders c inside)

/-- A value behind the tag, up to a blank character or the end, is what is found, without the
quotes around it. -/
theorem find?_quoted (plain : ∀ c ∈ cs, Text.isBlank c = false ∧ (c == '"') = false)
    (opening closing : Nat) {rest : List Char} (behind : ∀ c ∈ rest.head?, Text.isBlank c = true) :
    find? (String.ofList (tag.toList ++ (List.replicate opening '"' ++ cs
      ++ List.replicate closing '"') ++ rest)) = some (String.ofList cs) := by
  have quote (count : Nat) : ∀ c ∈ List.replicate count '"', (c == '"') = true :=
    fun c inside => beq_iff_eq.2 (List.eq_of_mem_replicate inside)
  have trimmed : Text.trim (· == '"') (List.replicate opening '"' ++ cs
      ++ List.replicate closing '"') = cs := by
    rw [Text.trim_append (quote opening) (quote closing),
      Text.trim_of_free fun c inside => (plain c inside).2]
  have solid : ∀ c ∈ tag.toList ++ (List.replicate opening '"' ++ cs
      ++ List.replicate closing '"'), Text.isBlank c = false := by
    have unblank (count : Nat) : ∀ c ∈ List.replicate count '"', Text.isBlank c = false := by
      intro c inside
      rw [List.eq_of_mem_replicate inside]
      decide
    intro c inside
    simp only [List.mem_append] at inside
    rcases inside with inside | (inside | inside) | inside
    · exact solid_tag c inside
    · exact unblank opening c inside
    · exact (plain c inside).1
    · exact unblank closing c inside
  have found := (find?_of_solid solid).trans (tagged?_tag _)
  rw [trimmed] at found
  cases rest with
  | nil => rw [List.append_nil, found]
  | cons c rest => rw [find?_append (behind c rfl), found, Option.some_or]

/-- However an identifier is written behind the tag, with quotes around it or not, it is read off an
output that has only other fields in front of it, and any text behind a blank character. -/
theorem ofOutput_of_renders (device : String) (fields : List OtherField)
    (renders : Renders identifier cs) (opening closing : Nat) {rest : List Char}
    (behind : ∀ c ∈ rest.head?, Text.isBlank c = true) :
    let value := List.replicate opening '"' ++ cs ++ List.replicate closing '"'
    let output := fields.flatMap OtherField.chars ++ (tag.toList ++ value ++ rest)
    ofOutput device (String.ofList output) = .ok identifier ∧
      parse identifier.text = .ok identifier ∧ Renders identifier identifier.text.toList := by
  intro value output
  have found : find? (String.ofList output) = some (String.ofList cs) := by
    rw [find?_otherFields, find?_quoted (plain_of_renders renders) opening closing behind]
  refine ⟨?_, parse_text identifier, renders_text identifier⟩
  exact ofOutput_eq_ok_iff.2 ⟨_, found, parse_of_renders renders⟩

def sample : Identifier := ⟨0x0f5c2a9e8f0b4b8e9d4a1c2b3d4e5f60⟩

/-- The device in front of the tags, and a tag whose value looks like an identifier. -/
def sampleFields : List OtherField :=
  [⟨"/dev/loop0p1:".toList, [' '], List.forall_iff_forall_mem.1 (by decide), by decide,
      List.forall_iff_forall_mem.1 (by decide), by decide⟩,
    ⟨"PTUUID=\"0f5c2a9e\"".toList, ['\t', ' '], List.forall_iff_forall_mem.1 (by decide),
      by decide, List.forall_iff_forall_mem.1 (by decide), by decide⟩]

theorem ofOutput_of_renders_marked :
    let cs := "urn:uuid:\x7b0F5C2A9E-8f0b4b8e9d4a1C2b-3D4E5f60\x7d".toList
    Renders sample cs ∧ Text.isBlank '\n' = true ∧
      ofOutput "/dev/loop0p1"
        (String.ofList ("/dev/loop0p1: PTUUID=\"0f5c2a9e\"\t PARTUUID=\"\"".toList
          ++ cs ++ "\"\n".toList)) = .ok sample := by
  intro cs
  have cased : Text.IsCased sample.digits
      ("0F5C2A9E-8f0b4b8e9d4a1C2b-3D4E5f60".toList.filter (· != '-')) := by
    unfold Text.IsCased
    decide +kernel
  have renders : Renders sample cs := .marked (.braced (.digits cased))
  have blank : ∀ c ∈ ['\n'].head?, Text.isBlank c = true := by
    rintro c ⟨⟩
    rfl
  exact ⟨renders, blank _ rfl,
    (ofOutput_of_renders "/dev/loop0p1" sampleFields renders 2 1 blank).1⟩

end Reading

end DiskFixture.Identifier
