import DiskFixture.Proofs.Partition.Rendering
import Mathlib.Data.List.Nodup

/-!
Outputs of the form that the tool prints, a device and entries with quoted values. The fields are
cut without regard to quotes, so a value may show the tag where no entry has it. Main statement: the
entry with the tag decides exactly if nothing in front of it shows the tag behind a blank character,
or what is shown first is read as the same identifier.
-/

namespace DiskFixture.Identifier

/-- A text in which the tag follows a blank character. -/
def ShowsTag (cs : List Char) : Prop := ∃ c, Text.isBlank c = true ∧ c :: tag.toList <:+: cs

section Shows

variable {c : Char} {cs : List Char}

theorem showsTag_cons :
    ShowsTag (c :: cs) ↔ (Text.isBlank c = true ∧ tag.toList <+: cs) ∨ ShowsTag cs := by
  constructor
  · rintro ⟨d, blank, inside⟩
    rcases List.infix_cons_iff.1 inside with first | later
    · obtain ⟨rfl, starts⟩ := List.cons_prefix_cons.1 first
      exact .inl ⟨blank, starts⟩
    · exact .inr ⟨d, blank, later⟩
  · rintro (⟨blank, starts⟩ | ⟨d, blank, inside⟩)
    · exact ⟨c, blank, (List.cons_prefix_cons.2 ⟨rfl, starts⟩).isInfix⟩
    · exact ⟨d, blank, List.infix_cons inside⟩

theorem not_showsTag_nil : ¬ ShowsTag [] := by
  rintro ⟨c, -, inside⟩
  cases List.infix_nil.1 inside

theorem showsTag_append {front : List Char} (solid : ∀ c ∈ front, Text.isBlank c = false) :
    ShowsTag (front ++ cs) ↔ ShowsTag cs := by
  induction front with
  | nil => rfl
  | cons c front ih =>
    have later := ih fun d inside => solid d (List.mem_cons_of_mem c inside)
    rw [List.cons_append, showsTag_cons, later, solid c List.mem_cons_self]
    simp

theorem showsTag_snoc (strange : c ∉ tag.toList) : ShowsTag (cs ++ [c]) ↔ ShowsTag cs := by
  induction cs with
  | nil =>
    have empty : ¬ tag.toList <+: [] := by decide
    simp [showsTag_cons, not_showsTag_nil, empty]
  | cons d cs ih =>
    rw [List.cons_append, showsTag_cons, showsTag_cons, ih,
      Text.isPrefix_append_cons_iff strange]

/-- Nothing is found in a text exactly if the tag stands neither at its start nor behind a blank
character. -/
theorem find?_eq_none_iff :
    find? (String.ofList cs) = none ↔ ¬ tag.toList <+: cs ∧ ¬ ShowsTag cs := by
  -- the characters up to the first blank one go to the front, one after the other
  suffices step : ∀ front, (∀ c ∈ front, Text.isBlank c = false) →
      (find? (String.ofList (front ++ cs)) = none
        ↔ ¬ tag.toList <+: front ++ cs ∧ ¬ ShowsTag cs) from step [] nofun
  induction cs with
  | nil =>
    intro front solid
    rw [List.append_nil, find?_of_solid solid, tagged?_eq_none_iff]
    simp [not_showsTag_nil]
  | cons c cs ih =>
    intro front solid
    cases blank : Text.isBlank c with
    | true =>
      have strange : c ∉ tag.toList := by
        intro inside
        rw [solid_tag c inside] at blank
        cases blank
      have rest := ih [] nofun
      rw [List.nil_append] at rest
      rw [find?_append blank, Option.or_eq_none_iff, find?_of_solid solid, tagged?_eq_none_iff,
        rest, Text.isPrefix_append_cons_iff strange, showsTag_cons, blank]
      simp
    | false =>
      have longer : ∀ d ∈ front ++ [c], Text.isBlank d = false := by
        intro d inside
        rcases List.mem_append.1 inside with inside | last
        · exact solid d inside
        · exact List.mem_singleton.1 last ▸ blank
      have shifted := ih (front ++ [c]) longer
      rw [List.append_assoc, List.singleton_append] at shifted
      rw [shifted, showsTag_cons, blank]
      simp

end Shows

/-- An entry `KEY="value"` of the output. -/
structure Entry where
  key : List Char
  value : List Char
  solid : ∀ c ∈ key, Text.isBlank c = false
  unequal : '=' ∉ key
  unquoted : '"' ∉ value

namespace Entry

def chars (entry : Entry) : List Char := entry.key ++ '=' :: '"' :: entry.value ++ ['"']

/-- Whether the key is the one of the tag. -/
def isTagged (entry : Entry) : Bool := entry.key ++ ['='] == tag.toList

variable {entry : Entry}

theorem tag_isPrefix_chars_iff : tag.toList <+: entry.chars ↔ entry.isTagged = true := by
  have split : tag.toList = "PARTUUID".toList ++ ['='] := by decide
  have unequal : '=' ∉ "PARTUUID".toList := by decide
  have cut := Text.isPrefix_cut_iff unequal entry.unequal ('"' :: entry.value ++ ['"'])
  have whole : entry.chars = entry.key ++ '=' :: ('"' :: entry.value ++ ['"']) := by
    simp [chars]
  rw [whole, isTagged, beq_iff_eq, split, cut, List.append_cancel_right_eq, eq_comm]

theorem showsTag_chars_iff : ShowsTag entry.chars ↔ ShowsTag entry.value := by
  have solid : ∀ c ∈ entry.key ++ ['=', '"'], Text.isBlank c = false := by
    have signs : ∀ c ∈ ['=', '"'], Text.isBlank c = false :=
      List.forall_iff_forall_mem.1 (by decide)
    intro c inside
    exact (List.mem_append.1 inside).elim (entry.solid c) (signs c)
  have whole : entry.chars = entry.key ++ ['=', '"'] ++ (entry.value ++ ['"']) := by
    simp [chars]
  rw [whole, showsTag_append solid, showsTag_snoc (by decide)]

/-- In an entry with another key something is found only if its value shows the tag. -/
theorem find?_chars_eq_none_iff (other : entry.isTagged = false) :
    find? (String.ofList entry.chars) = none ↔ ¬ ShowsTag entry.value := by
  rw [find?_eq_none_iff, tag_isPrefix_chars_iff, showsTag_chars_iff, other]
  simp

theorem find?_chars_of_isTagged {identifier : Identifier} (tagged : entry.isTagged = true)
    (value : entry.value = identifier.text.toList) :
    find? (String.ofList entry.chars) = some identifier.text := by
  have behind : ∀ c ∈ ([] : List Char).head?, Text.isBlank c = true := nofun
  have found := find?_quoted (plain_of_renders (renders_text identifier)) 1 1 behind
  have whole : entry.chars = tag.toList ++ (List.replicate 1 '"' ++ identifier.text.toList
      ++ List.replicate 1 '"') ++ [] := by
    rw [← beq_iff_eq.1 tagged, ← value]
    simp [chars]
  rw [whole, found, String.ofList_toList]

end Entry

/-- The output for a device with some entries, up to blank characters at its end. -/
def line (name : List Char) (entries : List Entry) (margin : List Char) : List Char :=
  name ++ ':' :: entries.flatMap (fun entry => ' ' :: entry.chars) ++ margin

/-- What is found in the name of the device and in some entries. -/
def found? (name : List Char) (entries : List Entry) : Option String :=
  (find? (String.ofList (name ++ [':']))).or
    (entries.findSome? fun entry => find? (String.ofList entry.chars))

section Line

variable {device : String} {name margin : List Char} {entries : List Entry}
  {identifier : Identifier}

theorem find?_entries (blank : ∀ c ∈ margin, Text.isBlank c = true) (front : List Char) :
    find? (String.ofList (front ++ entries.flatMap (fun entry => ' ' :: entry.chars) ++ margin))
      = (find? (String.ofList front)).or
        (entries.findSome? fun entry => find? (String.ofList entry.chars)) := by
  induction entries generalizing front with
  | nil =>
    cases margin with
    | nil => simp
    | cons c margin =>
      have nothing := find?_of_blank (fun d inside => blank d (List.mem_cons_of_mem c inside)) []
      rw [List.append_nil] at nothing
      rw [List.flatMap_nil, List.append_nil, find?_append (blank c List.mem_cons_self), nothing]
      rfl
  | cons entry entries ih =>
    have later := ih entry.chars
    rw [List.append_assoc] at later
    rw [List.flatMap_cons, List.cons_append, List.append_assoc, List.cons_append,
      find?_append (by decide), List.append_assoc, later, List.findSome?_cons]
    cases find? (String.ofList entry.chars) <;> rfl

theorem find?_line (blank : ∀ c ∈ margin, Text.isBlank c = true) :
    find? (String.ofList (line name entries margin)) = found? name entries := by
  have split : line name entries margin
      = name ++ [':'] ++ entries.flatMap (fun entry => ' ' :: entry.chars) ++ margin := by
    simp [line]
  rw [split, find?_entries blank, found?]

theorem found?_append (front rest : List Entry) : found? name (front ++ rest)
    = (found? name front).or (rest.findSome? fun entry => find? (String.ofList entry.chars)) := by
  rw [found?, List.findSome?_append, found?, Option.or_assoc]

/-- Where no entry has the tag, something is found only if the device or a value shows it. -/
theorem found?_eq_none_iff (others : ∀ entry ∈ entries, entry.isTagged = false) :
    found? name entries = none ↔ ¬ tag.toList <+: name ∧ ¬ ShowsTag name ∧
      ∀ entry ∈ entries, ¬ ShowsTag entry.value := by
  have values : (entries.findSome? fun entry => find? (String.ofList entry.chars)) = none
      ↔ ∀ entry ∈ entries, ¬ ShowsTag entry.value := by
    rw [List.findSome?_eq_none_iff]
    exact forall₂_congr fun entry inside => Entry.find?_chars_eq_none_iff (others entry inside)
  rw [found?, Option.or_eq_none_iff, values, find?_eq_none_iff, showsTag_snoc (by decide),
    Text.isPrefix_append_cons_iff (by decide), and_assoc]

theorem exists_split_of_isTagged (distinct : (entries.map (·.key)).Nodup) {entry : Entry}
    (inside : entry ∈ entries) (tagged : entry.isTagged = true) :
    ∃ rest, entries = entries.takeWhile (!·.isTagged) ++ entry :: rest := by
  have whole := entries.takeWhile_append_dropWhile (p := (!·.isTagged))
  cases shape : entries.dropWhile (!·.isTagged) with
  | nil =>
    have other := List.dropWhile_eq_nil_iff.1 shape entry inside
    simp [tagged] at other
  | cons first rest =>
    have starts := List.head?_dropWhile_not (!·.isTagged) entries
    simp only [shape, List.head?_cons, Bool.not_eq_false'] at starts
    have first_inside : first ∈ entries := by
      rw [← whole, shape]
      simp
    have same : first.key = entry.key := by
      have equal := (beq_iff_eq.1 starts).trans (beq_iff_eq.1 tagged).symm
      exact List.append_cancel_right equal
    obtain rfl := List.inj_on_of_nodup_map distinct first_inside inside same
    exact ⟨rest, by rw [← shape, whole]⟩

/-- Where an entry has the tag, its identifier comes out exactly if what is found in front of it, if
anything, is read as the same one. Where none has, the fault that there is none comes out exactly if
nothing is found. Nothing is found exactly if no text there shows the tag. -/
theorem ofOutput_line (device : String) (name : List Char) (entries : List Entry)
    (distinct : (entries.map (·.key)).Nodup) (blank : ∀ c ∈ margin, Text.isBlank c = true) :
    let output := String.ofList (line name entries margin)
    let front := entries.takeWhile (!·.isTagged)
    (∀ identifier : Identifier,
      (∃ entry ∈ entries, entry.isTagged = true ∧ entry.value = identifier.text.toList) →
        (ofOutput device output = .ok identifier
          ↔ ∀ word, found? name front = some word → parse word = .ok identifier)) ∧
    ((∀ entry ∈ entries, entry.isTagged = false) →
      (ofOutput device output = .error (.ofProblem (.identityMissing (.text device)))
        ↔ found? name front = none)) ∧
    (found? name front = none ↔ ¬ tag.toList <+: name ∧ ¬ ShowsTag name ∧
      ∀ entry ∈ front, ¬ ShowsTag entry.value) := by
  intro output front
  refine ⟨?_, ?_, ?_⟩
  · rintro identifier ⟨entry, inside, tagged, value⟩
    obtain ⟨rest, split⟩ := exists_split_of_isTagged distinct inside tagged
    have behind : find? output = (found? name front).or (some identifier.text) := by
      rw [find?_line blank, split, found?_append, List.findSome?_cons,
        Entry.find?_chars_of_isTagged tagged value]
    rw [ofOutput_eq_ok_iff, behind]
    cases found? name front with
    | none => simp [parse_text]
    | some word => simp
  · intro others
    have whole : front = entries :=
      List.takeWhile_eq_self_iff.2 fun entry inside => by simp [others entry inside]
    rw [ofOutput_eq_missing_iff, find?_line blank, whole]
  · refine found?_eq_none_iff fun entry inside => ?_
    simpa using List.mem_takeWhile_imp inside

def sampleEntry : Entry :=
  ⟨"PARTUUID".toList, sample.text.toList, List.forall_iff_forall_mem.1 (by decide), by decide,
    by decide +kernel⟩

/-- A label with a blank character and an identifier, but without the tag. -/
def plainLabel : Entry :=
  ⟨"LABEL".toList, "a 00000000-0000-0000-0000-000000000000".toList,
    List.forall_iff_forall_mem.1 (by decide), by decide, by decide⟩

/-- A label that shows the tag. -/
def showingLabel : Entry :=
  ⟨"LABEL".toList, "a PARTUUID=00000000-0000-0000-0000-000000000000".toList,
    List.forall_iff_forall_mem.1 (by decide), by decide, by decide⟩

theorem ofOutput_line_labelled :
    let device := "/dev/loop0p1"
    let output (entries : List Entry) := String.ofList (line device.toList entries ['\n'])
    ofOutput device (output [plainLabel, sampleEntry]) = .ok sample ∧
      ofOutput device (output [plainLabel])
        = .error (.ofProblem (.identityMissing (.text device))) := by
  intro device output
  have blank : ∀ c ∈ ['\n'], Text.isBlank c = true :=
    List.forall_iff_forall_mem.1 (by decide)
  have nothing : found? device.toList [plainLabel] = none := by decide +kernel
  have tagged := (ofOutput_line device device.toList [plainLabel, sampleEntry] (by decide)
    blank).1 sample ⟨sampleEntry, by simp, by decide, rfl⟩
  have bare := (ofOutput_line device device.toList [plainLabel] (by decide) blank).2.1
    (by decide)
  have front : [plainLabel, sampleEntry].takeWhile (!·.isTagged) = [plainLabel] := rfl
  have alone : [plainLabel].takeWhile (!·.isTagged) = [plainLabel] := rfl
  rw [front, nothing] at tagged
  rw [alone, nothing] at bare
  exact ⟨tagged.2 nofun, bare.2 rfl⟩

/-- An identifier that a label shows is read in place of the one of the partition, and where the
partition has none. -/
theorem ofOutput_of_showingLabel :
    let device := "/dev/loop0p1"
    let output (entries : List Entry) := String.ofList (line device.toList entries [])
    ofOutput device (output [showingLabel, sampleEntry]) = .ok ⟨0⟩ ∧ sample ≠ ⟨0⟩ ∧
      ofOutput device (output [showingLabel]) = .ok ⟨0⟩ := by
  intro device output
  have first : found? device.toList [showingLabel] = some (⟨0⟩ : Identifier).text := by
    decide +kernel
  have reads (rest : List Entry) : ofOutput device (output (showingLabel :: rest)) = .ok ⟨0⟩ := by
    have shown : find? (output (showingLabel :: rest)) = some (⟨0⟩ : Identifier).text := by
      have blank : ∀ c ∈ ([] : List Char), Text.isBlank c = true := nofun
      rw [find?_line blank, ← List.singleton_append, found?_append, first, Option.some_or]
    exact ofOutput_eq_ok_iff.2 ⟨_, shown, parse_text ⟨0⟩⟩
  exact ⟨reads [sampleEntry], by decide, reads []⟩

end Line

end DiskFixture.Identifier
