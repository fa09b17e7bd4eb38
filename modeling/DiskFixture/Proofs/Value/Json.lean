import DiskFixture.Value.Json

/-!
What reading JSON text gives. A reading goes on behind what it has read, an integer is only too long
where the text has that many digits in a row, and nothing is nested too deep in a text with few
opening brackets. Main statement: a text with short runs of digits and few opening brackets is read or
malformed.
-/

namespace DiskFixture.Json

/-- Whether a list or an object starts with `c`. -/
def isOpening (c : Char) : Bool := c == '[' || c == '\x7b'

/-- Whether `rest` is what remains of `cs` after at least one character. -/
def IsBehind (rest cs : List Char) : Prop := rest <:+ cs ∧ rest.length < cs.length

section IsBehind

variable {c : Char} {rest more cs : List Char}

theorem isBehind_cons : IsBehind rest (c :: rest) := ⟨List.suffix_cons c rest, by simp⟩

theorem IsBehind.of_suffix (behind : IsBehind rest more) (suffix : more <:+ cs) :
    IsBehind rest cs :=
  ⟨behind.1.trans suffix, Nat.lt_of_lt_of_le behind.2 suffix.length_le⟩

theorem IsBehind.cons (behind : IsBehind rest cs) : IsBehind rest (c :: cs) :=
  behind.of_suffix (List.suffix_cons c cs)

theorem IsBehind.trans (behind : IsBehind rest more) (before : IsBehind more cs) :
    IsBehind rest cs :=
  behind.of_suffix before.1

theorem isBehind_of_suffix (suffix : more <:+ rest) (behind : IsBehind rest cs) :
    IsBehind more cs :=
  ⟨suffix.trans behind.1, Nat.lt_of_le_of_lt suffix.length_le behind.2⟩

end IsBehind

section Sound

variable {α β : Type} {room : Nat} {cs cs' : List Char}

/-- A reading from `cs` on, where lists and objects may be nested `room` deep, takes at least one
character, and its fault is one that the text gives cause for. -/
def Sound (room : Nat) (cs : List Char) : Reading α → Prop
  | .ok (_, rest) => IsBehind rest cs
  | .error .malformed => True
  | .error (.tooLong digits) =>
    Text.digitLimit < digits ∧ ∃ run, run <:+: cs ∧ run.all Char.isDigit ∧ run.length = digits
  | .error (.tooDeep _) => room < cs.countP isOpening

theorem Sound.behind {reading : Reading α} {result : α} {rest : List Char}
    (sound : Sound room cs reading) (read : reading = .ok (result, rest)) : IsBehind rest cs := by
  subst read
  exact sound

theorem Sound.of_suffix {reading : Reading α} (sound : Sound room cs reading)
    (suffix : cs <:+ cs') : Sound room cs' reading := by
  match reading, sound with
  | .ok (_, rest), behind => exact IsBehind.of_suffix behind suffix
  | .error .malformed, _ => trivial
  | .error (.tooLong digits), ⟨many, run, inside, rest⟩ =>
    exact ⟨many, run, inside.trans suffix.isInfix, rest⟩
  | .error (.tooDeep _), deep =>
    exact Nat.lt_of_lt_of_le deep (suffix.sublist.countP_le)

theorem Sound.cons {reading : Reading α} {c : Char} (sound : Sound room cs reading) :
    Sound room (c :: cs) reading :=
  sound.of_suffix (List.suffix_cons c cs)

/-- A fault does not depend on what would have been read. -/
theorem Sound.fault {reading : Reading α} {fault : Fault} (sound : Sound room cs reading)
    (read : reading = .error fault) : Sound room cs (.error fault : Reading β) := by
  subst read
  cases fault <;> exact sound

theorem Sound.deeper {reading : Reading α} {c : Char} (opens : isOpening c = true)
    (sound : Sound room cs reading) : Sound (room + 1) (c :: cs) reading := by
  have whole := sound.cons (c := c)
  match reading, sound with
  | .ok _, _ | .error .malformed, _ | .error (.tooLong _), _ => exact whole
  | .error (.tooDeep _), deep =>
    have deep : room < cs.countP isOpening := deep
    have counted : (c :: cs).countP isOpening = cs.countP isOpening + 1 :=
      List.countP_cons_of_pos opens
    show room + 1 < (c :: cs).countP isOpening
    omega

end Sound

section Texts

variable (room : Nat)

theorem readHex_sound (cs : List Char) : Sound room cs (readHex cs) := by
  unfold readHex
  split
  · split
    · exact isBehind_cons.cons.cons.cons
    · trivial
  · trivial

theorem joinSurrogates_sound (code : Nat) {rest cs : List Char} (behind : IsBehind rest cs) :
    Sound room cs (joinSurrogates code rest) := by
  unfold joinSurrogates
  split
  · split
    · next more =>
      have sound := (readHex_sound room more).cons.cons.of_suffix behind.1
      split
      · next low behind read =>
        split
        · exact sound.behind read
        · assumption
      · next read => exact sound.fault read
    · exact behind
  · split
    · exact behind
    · exact behind

theorem readEscape_sound (cs : List Char) : Sound room cs (readEscape cs) := by
  unfold readEscape
  split
  case h_9 rest =>
    have sound := readHex_sound room rest
    split
    · next code more read =>
      exact (joinSurrogates_sound room code (sound.behind read)).cons
    · next read => exact (sound.fault read).cons
  case h_10 => trivial
  all_goals exact isBehind_cons

theorem readString_sound (fuel : Nat) (cs : List Char) : Sound room cs (readString fuel cs) := by
  induction fuel generalizing cs with
  | zero => trivial
  | succ fuel ih =>
    cases cs with
    | nil => trivial
    | cons c rest =>
      rw [readString]
      split
      · exact isBehind_cons
      split
      · have escape := readEscape_sound room rest
        split
        · next found more read =>
          have tail := (ih more).of_suffix (escape.behind read).1
          split
          · next read => exact (tail.behind read).cons
          · next read => exact (tail.fault read).cons
        · next read => exact (escape.fault read).cons
      split
      · trivial
      · have tail := ih rest
        split
        · next read => exact (tail.behind read).cons
        · next read => exact (tail.fault read).cons

end Texts

section Numbers

variable {cs rest digits : List Char}

theorem takeDigits_eq (found : takeDigits cs = (digits, rest)) :
    cs = digits ++ rest ∧ digits.all Char.isDigit := by
  simp only [takeDigits, Prod.mk.injEq] at found
  obtain ⟨rfl, rfl⟩ := found
  exact ⟨List.takeWhile_append_dropWhile.symm, List.all_takeWhile⟩

theorem takeDigits_suffix (found : takeDigits cs = (digits, rest)) : rest <:+ cs :=
  ⟨digits, (takeDigits_eq found).1.symm⟩

theorem readWhole_eq_ok (read : readWhole cs = .ok (digits, rest)) :
    cs = digits ++ rest ∧ digits ≠ [] ∧ digits.all Char.isDigit := by
  unfold readWhole at read
  split at read
  · cases read
    exact ⟨rfl, by simp, by decide⟩
  split at read
  · cases read
  · next nonempty =>
    have found := takeDigits_eq (Except.ok.inj read)
    refine ⟨found.1, ?_, found.2⟩
    rintro rfl
    exact nonempty _ (Except.ok.inj read)

theorem readWhole_eq_error {fault : Fault} (read : readWhole cs = .error fault) :
    fault = .malformed := by
  unfold readWhole at read
  split at read
  · cases read
  split at read
  · exact (Except.error.inj read).symm
  · cases read

theorem readFraction_suffix (cs : List Char) : (readFraction cs).2 <:+ cs := by
  unfold readFraction
  split
  · next rest =>
    split
    · exact List.suffix_refl _
    · exact (List.dropWhile_suffix _).trans (List.suffix_cons _ _)
  · exact List.suffix_refl _

theorem readExponent_suffix (cs : List Char) : (readExponent cs).2 <:+ cs := by
  unfold readExponent
  split
  · next mark rest =>
    split
    · split
      next negative digits signed =>
      have suffix : digits <:+ rest := by
        split at signed <;> cases signed
        · exact List.suffix_cons _ _
        · exact List.suffix_cons _ _
        · exact List.suffix_refl _
      split
      · exact List.suffix_refl _
      · next found =>
        exact (takeDigits_suffix found).trans (suffix.trans (List.suffix_cons mark rest))
    · exact List.suffix_refl _
  · exact List.suffix_refl _

theorem readNumber_sound (room : Nat) (negative : Bool) (cs : List Char) :
    Sound room cs (readNumber negative cs) := by
  unfold readNumber
  split
  · next fault read =>
    rw [readWhole_eq_error read]
    trivial
  · next whole rest read =>
    obtain ⟨rfl, nonempty, digits⟩ := readWhole_eq_ok read
    have behind : IsBehind (readExponent (readFraction rest).2).2 (whole ++ rest) := by
      have start : IsBehind rest (whole ++ rest) :=
        ⟨List.suffix_append whole rest, by simpa using List.length_pos_iff.2 nonempty⟩
      exact isBehind_of_suffix
        ((readExponent_suffix _).trans (readFraction_suffix rest)) start
    dsimp only
    split
    · split
      · next many =>
        exact ⟨many, whole, (List.prefix_append whole rest).isInfix, digits, rfl⟩
      · exact behind
    · exact behind

theorem after?_eq_some {word : List Char} (found : after? word cs = some rest) :
    cs = word ++ rest := by
  induction word generalizing cs with
  | nil => simpa [after?] using found
  | cons w word ih =>
    cases cs with
    | nil => simp [after?] at found
    | cons c cs =>
      simp only [after?] at found
      split at found
      · next same => rw [same, ih found, List.cons_append]
      · cases found

theorem words_nonempty : ∀ word ∈ words, word.1.toList ≠ [] := by
  simp [words]

theorem readAtom_sound (room : Nat) (cs : List Char) : Sound room cs (readAtom cs) := by
  unfold readAtom
  split
  · next found read =>
    obtain ⟨word, listed, read⟩ := List.exists_of_findSome?_eq_some read
    obtain ⟨rest, after, rfl⟩ := Option.map_eq_some_iff.1 read
    rw [after?_eq_some after]
    exact ⟨List.suffix_append _ _, by simpa using List.length_pos_iff.2 (words_nonempty _ listed)⟩
  split
  · exact (readNumber_sound room true _).cons
  · exact readNumber_sound room false cs

end Numbers

section Nested

theorem skipSpace_suffix (cs : List Char) : skipSpace cs <:+ cs := List.dropWhile_suffix _

variable {α : Type} {room : Nat} {cs rest : List Char}

/-- What is read after spaces has been read from the text with the spaces. -/
theorem Sound.of_skipSpace {reading : Reading α} (sound : Sound room (skipSpace cs) reading) :
    Sound room cs reading :=
  sound.of_suffix (skipSpace_suffix cs)

theorem isBehind_of_skipSpace {c : Char} (next : skipSpace cs = c :: rest) : IsBehind rest cs :=
  isBehind_cons.of_suffix (next ▸ skipSpace_suffix cs)

mutual

theorem readValue_sound : ∀ (fuel room : Nat) (cs : List Char),
    Sound room cs (readValue fuel room cs)
  | 0, _, _ => trivial
  | fuel + 1, room, cs => by
    unfold readValue
    split
    · next rest =>
      have content := readString_sound room fuel rest
      split
      · next read => exact (content.behind read).cons
      · next read => exact (content.fault read).cons
    · next rest =>
      split
      · exact List.countP_pos_iff.2 ⟨'[', by simp, rfl⟩
      · next room =>
        split
        · next more next => exact (isBehind_of_skipSpace next).cons
        · have items := (readItems_sound fuel room (skipSpace rest)).of_skipSpace.deeper
            (c := '[') rfl
          split
          · next read => exact items.behind read
          · next read => exact items.fault read
    · next rest =>
      split
      · exact List.countP_pos_iff.2 ⟨'\x7b', by simp, rfl⟩
      · next room =>
        split
        · next more next => exact (isBehind_of_skipSpace next).cons
        · have members := (readMembers_sound fuel room (skipSpace rest)).of_skipSpace.deeper
            (c := '\x7b') rfl
          split
          · next read => exact members.behind read
          · next read => exact members.fault read
    · exact readAtom_sound room cs

theorem readItems_sound : ∀ (fuel room : Nat) (cs : List Char),
    Sound room cs (readItems fuel room cs)
  | 0, _, _ => trivial
  | fuel + 1, room, cs => by
    unfold readItems
    have first := readValue_sound fuel room cs
    split
    · next read => exact first.fault read
    · next item rest read =>
      have first := first.behind read
      split
      · next more => exact (isBehind_of_skipSpace more).trans first
      · next more next =>
        have behind : IsBehind more cs := (isBehind_of_skipSpace next).trans first
        have others := (readItems_sound fuel room (skipSpace more)).of_skipSpace.of_suffix behind.1
        split
        · next read => exact others.behind read
        · next read => exact others.fault read
      · trivial

theorem readMembers_sound : ∀ (fuel room : Nat) (cs : List Char),
    Sound room cs (readMembers fuel room cs)
  | 0, _, _ => trivial
  | fuel + 1, room, cs => by
    unfold readMembers
    split
    · next rest =>
      have key := (readString_sound room fuel rest).cons (c := '"')
      split
      · next read => exact key.fault read
      · next key' rest' read =>
        have key := key.behind read
        split
        · next more next =>
          have start : IsBehind more ('"' :: rest) := (isBehind_of_skipSpace next).trans key
          have first := (readValue_sound fuel room (skipSpace more)).of_skipSpace.of_suffix start.1
          split
          · next read => exact first.fault read
          · next value rest' read =>
            have first := first.behind read
            split
            · next next => exact (isBehind_of_skipSpace next).trans first
            · next more next =>
              have behind : IsBehind more ('"' :: rest) := (isBehind_of_skipSpace next).trans first
              have others :=
                (readMembers_sound fuel room (skipSpace more)).of_skipSpace.of_suffix behind.1
              split
              · next read => exact others.behind read
              · next read => exact others.fault read
            · trivial
        · trivial
    · trivial

end

theorem sound_of_read_eq_error {text : String} {fault : Fault}
    (fails : read text = .error fault) : fault = .malformed ∨
      Sound depthLimit text.toList (.error fault : Reading Value) := by
  have sound := (readValue_sound (2 * text.toList.length + 2) depthLimit
    (skipSpace text.toList)).of_skipSpace
  unfold read at fails
  dsimp only at fails
  split at fails
  · split at fails
    · cases fails
    · exact .inl (Except.error.inj fails).symm
  · next read =>
    rw [← Except.error.inj fails]
    exact .inr (sound.fault read)

/-- Whether no run of digits in a text is too long for an integer and there are no more opening
brackets than lists and objects may be nested. -/
def IsModest (text : String) : Prop :=
  (∀ run, run <:+: text.toList → run.all Char.isDigit → run.length ≤ Text.digitLimit) ∧
    text.toList.countP isOpening ≤ depthLimit

theorem eq_malformed_of_isModest {text : String} {fault : Fault} (modest : IsModest text)
    (fails : read text = .error fault) : fault = .malformed := by
  rcases sound_of_read_eq_error fails with malformed | sound
  · exact malformed
  cases fault with
  | malformed => rfl
  | tooLong digits =>
    obtain ⟨many, run, inside, digits, length⟩ := sound
    have short := modest.1 run inside digits
    omega
  | tooDeep inList =>
    have deep : depthLimit < text.toList.countP isOpening := sound
    have shallow := modest.2
    omega

end Nested

end DiskFixture.Json
