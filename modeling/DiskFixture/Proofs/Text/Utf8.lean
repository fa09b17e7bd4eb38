import DiskFixture.Text.Utf8

/-!
Decoding UTF-8 is the inverse of encoding. Main statement: bytes are decoded to a text if and only
if they are the bytes of that text, so what is not the encoding of any text is a fault.
-/

namespace DiskFixture.Text.Utf8

theorem toNat_valid (c : Char) : c.toNat < 0xD800 ∨ 0xDFFF < c.toNat ∧ c.toNat < 0x110000 :=
  c.valid

theorem toNat_ofNat_of_valid (code : Nat)
    (valid : code < 0xD800 ∨ 0xDFFF < code ∧ code < 0x110000) : (Char.ofNat code).toNat = code := by
  have character : code.isValidChar := valid
  rw [Char.ofNat, dif_pos character]
  rfl

theorem ofNat_eq_iff {code : Nat} (small : code < 256) (byte : UInt8) :
    UInt8.ofNat code = byte ↔ byte.toNat = code := by
  have read : (UInt8.ofNat code).toNat = code := by
    rw [UInt8.toNat_ofNat']
    omega
  rw [← UInt8.toNat_inj, read]
  exact eq_comm

section Encoding

/-- Whether a byte goes on with a character. -/
def IsContinuation (byte : UInt8) : Prop := 0x80 ≤ byte.toNat ∧ byte.toNat ≤ 0xBF

variable (c : Char) (x y z w : UInt8)

theorem utf8EncodeChar_eq_one_iff :
    String.utf8EncodeChar c = [x] ↔ x.toNat < 0x80 ∧ c.toNat = x.toNat := by
  have same : c.val.toNat = c.toNat := rfl
  simp only [String.utf8EncodeChar, same]
  generalize c.toNat = code at *
  split
  · simp (disch := omega) only [List.cons.injEq, ofNat_eq_iff, and_true]
    omega
  split
  · simp; omega
  split
  · simp; omega
  · simp; omega

theorem utf8EncodeChar_eq_two_iff :
    String.utf8EncodeChar c = [x, y] ↔
      0xC0 ≤ x.toNat ∧ x.toNat < 0xE0 ∧ IsContinuation y ∧ 0x80 ≤ c.toNat ∧
        c.toNat = (x.toNat - 0xC0) * 64 + (y.toNat - 0x80) := by
  have same : c.val.toNat = c.toNat := rfl
  simp only [String.utf8EncodeChar, same, IsContinuation]
  generalize c.toNat = code at *
  split
  · simp; omega
  split
  · simp (disch := omega) only [List.cons.injEq, ofNat_eq_iff, and_true]
    omega
  split
  · simp; omega
  · simp; omega

theorem utf8EncodeChar_eq_three_iff :
    String.utf8EncodeChar c = [x, y, z] ↔
      0xE0 ≤ x.toNat ∧ x.toNat < 0xF0 ∧ IsContinuation y ∧ IsContinuation z ∧ 0x800 ≤ c.toNat ∧
        c.toNat = ((x.toNat - 0xE0) * 64 + (y.toNat - 0x80)) * 64 + (z.toNat - 0x80) := by
  have same : c.val.toNat = c.toNat := rfl
  simp only [String.utf8EncodeChar, same, IsContinuation]
  generalize c.toNat = code at *
  split
  · simp; omega
  split
  · simp; omega
  split
  · simp (disch := omega) only [List.cons.injEq, ofNat_eq_iff, and_true]
    omega
  · simp; omega

theorem utf8EncodeChar_eq_four_iff :
    String.utf8EncodeChar c = [x, y, z, w] ↔
      0xF0 ≤ x.toNat ∧ x.toNat < 0xF8 ∧ IsContinuation y ∧ IsContinuation z ∧
        IsContinuation w ∧ 0x10000 ≤ c.toNat ∧
        c.toNat = (((x.toNat - 0xF0) * 64 + (y.toNat - 0x80)) * 64 + (z.toNat - 0x80)) * 64
          + (w.toNat - 0x80) := by
  have same : c.val.toNat = c.toNat := rfl
  have valid := toNat_valid c
  simp only [String.utf8EncodeChar, same, IsContinuation]
  generalize c.toNat = code at *
  split
  · simp; omega
  split
  · simp; omega
  split
  · simp; omega
  · simp (disch := omega) only [List.cons.injEq, ofNat_eq_iff, and_true]
    omega

end Encoding

section Character

variable {byte low high : UInt8} {more share done : Nat} {rest : List UInt8}

theorem continuation_cons (above : low.toNat ≤ byte.toNat) (below : byte.toNat ≤ high.toNat) :
    continuation (more + 1) low high share done (byte :: rest)
      = continuation more 0x80 0xBF (share * 64 + (byte.toNat - 0x80)) (done + 1) rest := by
  rw [← UInt8.le_iff_toNat_le] at above below
  simp [continuation, above, below]

theorem exists_of_continuation {bytes : List UInt8} {found : Nat × Nat}
    (reads : continuation (more + 1) low high share done bytes = .ok found) :
    ∃ byte rest, bytes = byte :: rest ∧ low.toNat ≤ byte.toNat ∧ byte.toNat ≤ high.toNat ∧
      continuation more 0x80 0xBF (share * 64 + (byte.toNat - 0x80)) (done + 1) rest
        = .ok found := by
  cases bytes with
  | nil => simp [continuation] at reads
  | cons byte rest =>
    by_cases inside : (low ≤ byte && byte ≤ high) = true
    · have bounds : low ≤ byte ∧ byte ≤ high := by simpa using inside
      rw [UInt8.le_iff_toNat_le, UInt8.le_iff_toNat_le] at bounds
      rw [continuation_cons bounds.1 bounds.2] at reads
      exact ⟨byte, rest, rfl, bounds.1, bounds.2, reads⟩
    · simp [continuation, inside] at reads

theorem continuation_next (next : IsContinuation byte) :
    continuation (more + 1) 0x80 0xBF share done (byte :: rest)
      = continuation more 0x80 0xBF (share * 64 + (byte.toNat - 0x80)) (done + 1) rest :=
  continuation_cons next.1 next.2

theorem lead?_eq_some_iff {lead : Lead} : lead? byte = some lead ↔
    (byte.toNat < 0x80 ∧ lead = ⟨0, 0x80, 0xBF, byte.toNat⟩) ∨
    (0xC2 ≤ byte.toNat ∧ byte.toNat < 0xE0 ∧ lead = ⟨1, 0x80, 0xBF, byte.toNat - 0xC0⟩) ∨
    (0xE0 ≤ byte.toNat ∧ byte.toNat < 0xF0 ∧
      lead = ⟨2, if byte.toNat = 0xE0 then 0xA0 else 0x80,
        if byte.toNat = 0xED then 0x9F else 0xBF, byte.toNat - 0xE0⟩) ∨
    (0xF0 ≤ byte.toNat ∧ byte.toNat < 0xF5 ∧
      lead = ⟨3, if byte.toNat = 0xF0 then 0x90 else 0x80,
        if byte.toNat = 0xF4 then 0x8F else 0xBF, byte.toNat - 0xF0⟩) := by
  simp only [lead?]
  generalize byte.toNat = code
  grind

theorem toNat_ite (p : Prop) [Decidable p] (x y : UInt8) :
    (if p then x else y).toNat = if p then x.toNat else y.toNat :=
  apply_ite UInt8.toNat p x y

/-- What the first byte of a character announces is what follows it. -/
theorem continuation_of_utf8EncodeChar (c : Char) (rest : List UInt8) :
    ∃ byte more lead, String.utf8EncodeChar c = byte :: more ∧ lead? byte = some lead ∧
      continuation lead.more lead.low lead.high lead.share 1 (more ++ rest)
        = .ok (c.toNat, more.length + 1) := by
  have valid := toNat_valid c
  have length := String.length_utf8EncodeChar c
  rcases bytes : String.utf8EncodeChar c with _ | ⟨x, _ | ⟨y, _ | ⟨z, _ | ⟨w, _ | more⟩⟩⟩⟩
  · exact absurd bytes String.utf8EncodeChar_ne_nil
  · obtain ⟨small, code⟩ := (utf8EncodeChar_eq_one_iff c x).1 bytes
    refine ⟨x, [], _, rfl, lead?_eq_some_iff.2 (.inl ⟨small, rfl⟩), ?_⟩
    simp [continuation, code]
  · obtain ⟨above, below, second, least, code⟩ := (utf8EncodeChar_eq_two_iff c x y).1 bytes
    have leads : 0xC2 ≤ x.toNat := by
      unfold IsContinuation at second
      omega
    refine ⟨x, [y], _, rfl, lead?_eq_some_iff.2 (.inr (.inl ⟨leads, below, rfl⟩)), ?_⟩
    rw [List.cons_append, continuation_next second, continuation, code]
    rfl
  · obtain ⟨above, below, second, third, least, code⟩ :=
      (utf8EncodeChar_eq_three_iff c x y z).1 bytes
    refine ⟨x, [y, z], _, rfl, lead?_eq_some_iff.2 (.inr (.inr (.inl ⟨above, below, rfl⟩))), ?_⟩
    unfold IsContinuation at second
    rw [List.cons_append, continuation_cons, List.cons_append, continuation_next third,
      continuation, code]
    · rfl
    all_goals
      unfold IsContinuation at third
      simp only [toNat_ite, UInt8.reduceToNat]
      split <;> omega
  · obtain ⟨above, below, second, third, fourth, least, code⟩ :=
      (utf8EncodeChar_eq_four_iff c x y z w).1 bytes
    unfold IsContinuation at second
    have leads : x.toNat < 0xF5 := by omega
    refine ⟨x, [y, z, w], _, rfl,
      lead?_eq_some_iff.2 (.inr (.inr (.inr ⟨above, leads, rfl⟩))), ?_⟩
    rw [List.cons_append, continuation_cons, List.cons_append, continuation_next third,
      List.cons_append, continuation_next fourth, continuation, code]
    · rfl
    all_goals
      unfold IsContinuation at third fourth
      simp only [toNat_ite, UInt8.reduceToNat]
      split <;> omega
  · have small := Char.utf8Size_le_four c
    rw [bytes] at length
    simp at length
    omega

/-- What is read after a first byte makes up a character together with it. -/
theorem utf8EncodeChar_of_continuation {lead : Lead} {found : Nat × Nat}
    (starts : lead? byte = some lead)
    (reads : continuation lead.more lead.low lead.high lead.share 1 rest = .ok found) :
    ∃ c more behind, rest = more ++ behind ∧ String.utf8EncodeChar c = byte :: more ∧
      found = (c.toNat, more.length + 1) := by
  rcases lead?_eq_some_iff.1 starts with ⟨small, rfl⟩ | ⟨above, below, rfl⟩ | ⟨above, below, rfl⟩ |
    ⟨above, below, rfl⟩
  · have code := toNat_ofNat_of_valid byte.toNat (by omega)
    refine ⟨Char.ofNat byte.toNat, [], rest, rfl, ?_, ?_⟩
    · exact (utf8EncodeChar_eq_one_iff _ _).2 ⟨small, code⟩
    · rw [continuation] at reads
      rw [code]
      exact (Except.ok.inj reads).symm
  · obtain ⟨y, behind, rfl, low, high, reads⟩ := exists_of_continuation reads
    simp only [UInt8.reduceToNat] at low high
    have code := toNat_ofNat_of_valid
      ((byte.toNat - 0xC0) * 64 + (y.toNat - 0x80)) (by omega)
    generalize Char.ofNat _ = c at code
    refine ⟨c, [y], behind, rfl, (utf8EncodeChar_eq_two_iff c byte y).2 ?_, ?_⟩
    · unfold IsContinuation
      omega
    · simpa [continuation, ← code] using reads.symm
  · obtain ⟨y, behind, rfl, low, high, reads⟩ := exists_of_continuation reads
    obtain ⟨z, behind, rfl, low', high', reads⟩ := exists_of_continuation reads
    simp only [toNat_ite, UInt8.reduceToNat] at low high low' high'
    have code := toNat_ofNat_of_valid
      (((byte.toNat - 0xE0) * 64 + (y.toNat - 0x80)) * 64 + (z.toNat - 0x80))
      (by split at low <;> split at high <;> omega)
    generalize Char.ofNat _ = c at code
    refine ⟨c, [y, z], behind, rfl, (utf8EncodeChar_eq_three_iff c byte y z).2 ?_, ?_⟩
    · unfold IsContinuation
      split at low <;> split at high <;> omega
    · simpa [continuation, ← code] using reads.symm
  · obtain ⟨y, behind, rfl, low, high, reads⟩ := exists_of_continuation reads
    obtain ⟨z, behind, rfl, low', high', reads⟩ := exists_of_continuation reads
    obtain ⟨w, behind, rfl, low₂, high₂, reads⟩ := exists_of_continuation reads
    simp only [toNat_ite, UInt8.reduceToNat] at low high low' high' low₂ high₂
    have code := toNat_ofNat_of_valid
      ((((byte.toNat - 0xF0) * 64 + (y.toNat - 0x80)) * 64 + (z.toNat - 0x80)) * 64
        + (w.toNat - 0x80))
      (by split at low <;> split at high <;> omega)
    generalize Char.ofNat _ = c at code
    refine ⟨c, [y, z, w], behind, rfl, (utf8EncodeChar_eq_four_iff c byte y z w).2 ?_, ?_⟩
    · unfold IsContinuation
      split at low <;> split at high <;> omega
    · simpa [continuation, ← code] using reads.symm

end Character

theorem decodeFrom_append (position : Nat) (front rest : List UInt8) :
    decodeFrom position front.length (front ++ rest)
      = decodeFrom (position + front.length) 0 rest := by
  induction front generalizing position with
  | nil => rfl
  | cons byte front ih =>
    rw [List.cons_append, List.length_cons, decodeFrom, ih, Nat.add_right_comm, Nat.add_assoc]

theorem decodeFrom_char (position : Nat) (c : Char) (rest : List UInt8) :
    decodeFrom position 0 (String.utf8EncodeChar c ++ rest)
      = (decodeFrom (position + c.utf8Size) 0 rest).map (c :: ·) := by
  obtain ⟨byte, more, lead, bytes, starts, reads⟩ := continuation_of_utf8EncodeChar c rest
  have length : c.utf8Size = more.length + 1 := by
    rw [← String.length_utf8EncodeChar, bytes, List.length_cons]
  rw [bytes, List.cons_append, decodeFrom, starts]
  simp only [reads, Nat.add_sub_cancel, Char.ofNat_toNat, decodeFrom_append, length]
  congr 2
  omega

theorem decodeFrom_flatMap (position : Nat) (chars : List Char) :
    decodeFrom position 0 (chars.flatMap String.utf8EncodeChar) = .ok chars := by
  induction chars generalizing position with
  | nil => rfl
  | cons c chars ih => rw [List.flatMap_cons, decodeFrom_char, ih, Except.map]

theorem flatMap_of_decodeFrom {position : Nat} {bytes : List UInt8} {chars : List Char}
    (decodes : decodeFrom position 0 bytes = .ok chars) :
    bytes = chars.flatMap String.utf8EncodeChar := by
  -- One character takes several bytes at once, so the induction is on the number of bytes.
  induction length : bytes.length using Nat.strongRecOn generalizing
    position bytes chars with
  | _ size ih =>
    cases bytes with
    | nil =>
      rw [decodeFrom, Except.ok.injEq] at decodes
      rw [← decodes, List.flatMap_nil]
    | cons byte rest =>
      rw [decodeFrom] at decodes
      cases starts : lead? byte with
      | none => simp [starts] at decodes
      | some lead =>
        cases reads : continuation lead.more lead.low lead.high lead.share 1 rest with
        | error fault =>
          obtain ⟨done, _ | _ | _⟩ := fault <;> simp [starts, reads] at decodes
        | ok found =>
          obtain ⟨c, more, behind, rfl, char, rfl⟩ := utf8EncodeChar_of_continuation starts reads
          simp only [starts, reads, Nat.add_sub_cancel, decodeFrom_append,
            Char.ofNat_toNat] at decodes
          cases tail : decodeFrom (position + 1 + more.length) 0 behind with
          | error fault => simp [tail, Except.map] at decodes
          | ok chars' =>
            have shorter : behind.length < size := by
              rw [← length, List.length_cons, List.length_append]
              omega
            rw [tail, Except.map, Except.ok.injEq] at decodes
            rw [← decodes, List.flatMap_cons, char, ← ih _ shorter tail rfl]
            rfl

theorem toUTF8_ofList (chars : List Char) :
    (String.ofList chars).toUTF8 = (chars.flatMap String.utf8EncodeChar).toByteArray := by
  rw [String.toUTF8_eq_toByteArray, String.toByteArray_ofList, List.utf8Encode]

theorem decode_eq_ok_iff {bytes : ByteArray} {text : String} :
    decode bytes = .ok text ↔ text.toUTF8 = bytes := by
  constructor
  · intro decodes
    cases chars : decodeFrom 0 0 bytes.data.toList with
    | error fault => simp [decode, chars, Except.map] at decodes
    | ok found =>
      rw [decode, chars, Except.map, Except.ok.injEq] at decodes
      rw [← decodes, toUTF8_ofList, ← flatMap_of_decodeFrom chars]
      simp [ByteArray.ext_iff]
  · rintro rfl
    have bytes : text.toUTF8.data.toList = text.toList.flatMap String.utf8EncodeChar := by
      rw [← String.ofList_toList (s := text), toUTF8_ofList]
      simp
    rw [decode, bytes, decodeFrom_flatMap, Except.map, String.ofList_toList]

theorem exists_decode_eq_error_iff {bytes : ByteArray} :
    (∃ fault, decode bytes = .error fault) ↔ ∀ text : String, text.toUTF8 ≠ bytes := by
  constructor
  · rintro ⟨fault, read⟩ text encodes
    rw [decode_eq_ok_iff.2 encodes] at read
    cases read
  · intro none
    cases read : decode bytes with
    | error fault => exact ⟨fault, rfl⟩
    | ok text => exact absurd (decode_eq_ok_iff.1 read) (none text)

end DiskFixture.Text.Utf8
