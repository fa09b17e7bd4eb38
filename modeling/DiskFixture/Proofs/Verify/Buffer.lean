import DiskFixture.Proofs.Verify

/-!
The setting that says how many bytes are read at a time. Main statement: no value of it breaks a
comparison or a digest, save an infinite float, and a value so large that more bytes are asked for
at once than there is memory for.
-/

namespace DiskFixture

namespace Request

theorem checkFile_eq (memory bytes : Nat) : checkFile memory bytes =
    if wordLimit < bytes then .error .requestTooLarge
    else if wordLimit - blockOverhead < bytes then .error .blockTooLarge
    else if memory < bytes then .error .outOfMemory
    else .ok () := by
  unfold checkFile check
  split
  · rfl
  split
  · rfl
  split <;> rfl

theorem isOk_checkFile_iff {memory bytes : Nat} :
    (checkFile memory bytes).isOk = true ↔ bytes ≤ wordLimit - blockOverhead ∧ bytes ≤ memory := by
  have block : wordLimit - blockOverhead ≤ wordLimit := by decide
  rw [checkFile_eq]
  repeat' split
  all_goals
    simp [Except.isOk, Except.toBool]
    omega

end Request

namespace Reading

theorem mem_requests_advance {buffer remaining wanted : Nat} {reading : Reading}
    (asked : wanted ∈ (advance buffer remaining reading).requests) :
    wanted ∈ reading.requests ∨ wanted ≤ min buffer remaining := by
  fun_induction advance buffer remaining reading with
  | case1 reading => exact .inl asked
  | case2 remaining reading more first chunk requests empty =>
    rcases Array.mem_push.1 asked with before | rfl
    · exact .inl before
    · exact .inr (Nat.le_refl _)
  | case3 remaining reading more first chunk requests some ih =>
    rcases ih asked with before | later
    · rcases Array.mem_push.1 before with before | rfl
      · exact .inl before
      · exact .inr (Nat.le_refl _)
    · exact .inr (by omega)

/-- No read asks for more than the first one does. -/
theorem le_first_of_mem_requests {buffer wanted : Nat} {length : Int} {stream : Stream}
    (asked : wanted ∈ (ofStream buffer length stream).requests) :
    wanted ≤ Request.first buffer length := by
  rcases mem_requests_advance asked with before | bounded
  · exact absurd before (Array.not_mem_empty wanted)
  · exact bounded

end Reading

namespace Verify

variable {σ : Type} (world : World σ)

/-- Whether the setting holds an infinite float. -/
def HasInfiniteBuffer (settings : Fields) : Prop :=
  ∃ value, settings.get? "io_buffer_size" = some value ∧ value.IsInfinite

theorem isInfinite_lookup_iff {settings : Fields} (otherwise : Int) :
    (Settings.lookup settings "io_buffer_size" (.int otherwise)).IsInfinite ↔
      HasInfiniteBuffer settings := by
  unfold Settings.lookup HasInfiniteBuffer
  cases settings.get? "io_buffer_size" with
  | none => simp [Value.IsInfinite]
  | some value => simp

theorem bufferSize_of_infinite {settings : Fields} (infinite : HasInfiniteBuffer settings) :
    Settings.bufferSize settings = .error .infiniteInteger := by
  have unread := Settings.integer_of_isInfinite _ _ _
    ((isInfinite_lookup_iff Settings.bufferDefault).2 infinite)
  rw [Settings.bufferSize, unread]

theorem exists_bufferSize {settings : Fields} (finite : ¬ HasInfiniteBuffer settings) :
    ∃ buffer, Settings.bufferSize settings = .ok buffer := by
  obtain ⟨number, read, -⟩ := Settings.integer_of_not_isInfinite settings "io_buffer_size"
    Settings.bufferDefault (mt (isInfinite_lookup_iff _).1 finite)
  apply exists_ok_of_isOk
  rw [Settings.isOk_bufferSize_iff, read]
  rfl

/-- Whether so many bytes can be asked for at once: some file has them, or they fit into a word and
into memory. -/
def CanAsk (host : Host σ) (files : FileTree) (bytes : Nat) : Prop :=
  files.holds bytes = true ∨
    bytes ≤ Request.wordLimit - Request.blockOverhead ∧ bytes ≤ host.memory

theorem isOk_checkRead_iff {host : Host σ} {bytes : Nat} :
    (ending (checkRead host bytes) world).isOk = true ↔ CanAsk host world.files bytes := by
  rw [ending_checkRead, CanAsk, ← Request.isOk_checkFile_iff]
  cases world.files.holds bytes with
  | true => simp [Except.isOk, Except.toBool]
  | false => cases Request.checkFile host.memory bytes <;> simp [Except.isOk, Except.toBool]

theorem ending_digest_of_unsized {host : Host σ} {path : String} {content : ByteArray}
    {misuse : Misuse} {world : World σ} (readable : world.files.read path = .ok content)
    (unsized : Settings.bufferSize world.settings = .error misuse) (length : Option Int) :
    ending (digest host path length) world = .error (.ofMisuse misuse) := by
  rw [digest, ending_bind, ending_openFile_of_ok readable]
  cases length with
  | none =>
    simp only [measure_ofContent, after_openFile, ending_bind, ending_hash, unsized]
    rfl
  | some length =>
    simp only [after_openFile, ending_bind, ending_get, after_get, Action.ending_ofExcept, unsized,
      mapError_error]

/-- What the setting makes of a comparison and of a digest, whatever value it has. -/
theorem verification_of_setting (host : Host σ) :
    (HasInfiniteBuffer world.settings →
      (∀ otherwise : Int, Settings.integer world.settings "io_buffer_size" (.int otherwise)
        = .error .infiniteInteger) ∧
      (∀ first second a b, world.files.read first = .ok a → world.files.read second = .ok b →
        ending (compare first second) world = .error (.ofMisuse .infiniteInteger)) ∧
      ∀ path content length, world.files.read path = .ok content →
        ending (digest host path length) world = .error (.ofMisuse .infiniteInteger)) ∧
    (¬ HasInfiniteBuffer world.settings →
      (∀ otherwise : Int, ∃ number : Int,
        Settings.integer world.settings "io_buffer_size" (.int otherwise) = .ok (.int number) ∧
          Settings.ReadsAs world.settings "io_buffer_size" otherwise number) ∧
      (∀ first second a b, world.files.read first = .ok a → world.files.read second = .ok b →
        ending (compare first second) world = .ok () ∨
          ending (compare first second) world = .error (mismatch first second)) ∧
      ∃ buffer, Settings.bufferSize world.settings = .ok buffer ∧
        ∀ path content, world.files.read path = .ok content →
          (∃ text, ending (digest host path none) world = .ok text) ∧
          ∀ length : Int, let largest := Request.first buffer length
            (CanAsk host world.files largest →
              ∃ text, ending (digest host path (some length)) world = .ok text) ∧
            (¬ CanAsk host world.files largest → ∃ wrong,
              Request.checkFile host.memory largest = .error wrong ∧
                ending (digest host path (some length)) world = .error (.ofMisuse wrong)) ∧
            ∀ wanted ∈ (Reading.ofStream buffer length (.ofContent content)).requests,
              wanted ≤ largest) := by
  refine ⟨?_, ?_⟩
  · intro infinite
    have unsized := bufferSize_of_infinite infinite
    refine ⟨?_, ?_, ?_⟩
    · intro otherwise
      exact Settings.integer_of_isInfinite _ _ _ ((isInfinite_lookup_iff otherwise).2 infinite)
    · intro first second a b left right
      exact ending_compare_of_unsized left right unsized
    · intro path content length readable
      exact ending_digest_of_unsized readable unsized length
  · intro finite
    obtain ⟨buffer, sized⟩ := exists_bufferSize finite
    refine ⟨?_, ?_, buffer, sized, fun path content readable => ⟨?_, fun length => ⟨?_, ?_, ?_⟩⟩⟩
    · intro otherwise
      exact Settings.integer_of_not_isInfinite _ _ _
        (mt (isInfinite_lookup_iff otherwise).1 finite)
    · intro first second a b left right
      rw [ending_compare left right sized]
      split
      · exact .inl rfl
      · exact .inr rfl
    · exact ⟨_, ending_digest_none host readable sized⟩
    · intro able
      obtain ⟨done, met⟩ := exists_ok_of_isOk ((isOk_checkRead_iff world).2 able)
      rw [ending_digest_some host readable sized, met]
      exact ⟨_, rfl⟩
    · intro unable
      have lacking : world.files.holds (Request.first buffer length) = false :=
        Bool.eq_false_iff.2 fun held => unable (.inl held)
      have unmet : (Request.checkFile host.memory (Request.first buffer length)).isOk = false :=
        Bool.eq_false_iff.2 fun met => unable (.inr (Request.isOk_checkFile_iff.1 met))
      obtain ⟨wrong, fails⟩ := exists_error_of_isOk unmet
      refine ⟨wrong, fails, ?_⟩
      rw [ending_digest_some host readable sized, ending_checkRead, lacking, fails]
      rfl
    · intro wanted asked
      exact Reading.le_first_of_mem_requests asked

/-- The images, to be read in pieces of a size that is no number. -/
def wordedImages : World Unit :=
  { images with settings := [("io_buffer_size", .text "many")] }

theorem verification_of_setting_worded :
    (∃ number : Int, Settings.integer wordedImages.settings "io_buffer_size" (.int 512)
        = .ok (.int number) ∧
      Settings.ReadsAs wordedImages.settings "io_buffer_size" 512 number) ∧
    ∃ text, ending (digest .obliging "a.img" none) wordedImages = .ok text := by
  have finite : ¬ HasInfiniteBuffer wordedImages.settings := by
    rintro ⟨value, held, x, negative, infinite, -⟩
    cases held
    cases infinite
  obtain ⟨-, verifies⟩ := verification_of_setting wordedImages .obliging
  obtain ⟨reads, -, buffer, -, digests⟩ := verifies finite
  exact ⟨reads 512, (digests "a.img" _ rfl).1⟩

/-- An image is not even the same as itself where the pieces are infinite. -/
theorem compare_infinite : (match ending (compare "a.img" "a.img")
      { images with settings := [("io_buffer_size", .float (1 / 0))] } with
    | .ok _ => ""
    | .error fault => fault.kind) = "OverflowError" := by
  decide +kernel

end Verify

end DiskFixture
