import DiskFixture.Proofs.Digest.Hex
import DiskFixture.Proofs.Digest.Reading
import DiskFixture.Proofs.Files.Reach
import DiskFixture.Proofs.Scene
import DiskFixture.Proofs.Settings.Integer
import DiskFixture.Verify

/-!
Comparing images. Main statement: whatever the size of the pieces, a comparison ends well if and
only if the digest of the first image is that of the second one cut to the same size, which is so in
particular if the first is a prefix of the second; any other verdict than that of being a prefix is
a collision of digests.
-/

namespace DiskFixture.Verify

variable {σ : Type} (world : World σ)

/-- Two contents that differ and have the same digest. -/
def Collide (a b : ByteArray) : Prop := a ≠ b ∧ Sha256.digest a = Sha256.digest b

/-- The part of a content that is compared with `size` bytes. -/
def cut (size : Nat) (content : ByteArray) : ByteArray := content.extract 0 size

theorem cut_size (content : ByteArray) : cut content.size content = content :=
  ByteArray.extract_zero_size

theorem cut_eq_iff {a b : ByteArray} : cut a.size b = a ↔ ∃ rest, b = a ++ rest := by
  constructor
  · intro same
    have size : a.size ≤ b.size := by
      have shorter := congrArg ByteArray.size same
      rw [cut, ByteArray.size_extract] at shorter
      omega
    refine ⟨b.extract a.size b.size, ?_⟩
    calc b = b.extract 0 b.size := ByteArray.extract_zero_size.symm
      _ = b.extract 0 a.size ++ b.extract a.size b.size :=
        ByteArray.extract_eq_extract_append_extract a.size (Nat.zero_le _) size
      _ = a ++ b.extract a.size b.size := by rw [← cut, same]
  · rintro ⟨rest, rfl⟩
    exact ByteArray.extract_append_eq_left rfl

section Steps

theorem ending_openFile (path : String) : ending (openFile path) world =
    ((world.files.read path).map Stream.ofContent).mapError .ofCall := by
  rw [openFile, ending_bind, ending_get]
  dsimp only [after_get]
  cases world.files.read path <;> rfl

@[simp] theorem after_openFile (path : String) : after (openFile path) world = world := by
  rw [openFile, after_bind, ending_get]
  dsimp only [after_get]
  cases world.files.read path <;> rfl

theorem ending_hash (length : Int) (stream : Stream) : ending (hash length stream) world =
    ((Settings.bufferSize world.settings).map fun buffer =>
      Reading.ofStream buffer length stream).mapError .ofMisuse := by
  rw [hash, ending_bind, ending_get]
  dsimp only [after_get]
  rw [ending_bind, Action.ending_ofExcept]
  cases Settings.bufferSize world.settings <;> rfl

@[simp] theorem after_hash (length : Int) (stream : Stream) :
    after (hash length stream) world = world := by
  rw [hash, after_bind, ending_get]
  dsimp only [after_get]
  rw [after_bind, Action.ending_ofExcept]
  cases Settings.bufferSize world.settings <;> simp

variable {buffer : Nat} {world}

theorem ending_hash_ofContent (sized : Settings.bufferSize world.settings = .ok buffer)
    (length : Int) (content : ByteArray) :
    ∃ reading : Reading, ending (hash length (.ofContent content)) world = .ok reading ∧
      reading.digest = Sha256.digest (cut length.toNat content) := by
  refine ⟨_, by rw [ending_hash, sized]; rfl, ?_⟩
  have bytes := Reading.bytes_ofStream (Settings.bufferSize_pos sized) length
    (Stream.generous_ofContent content)
  rw [Reading.digest, bytes]
  simp [Stream.ofContent, cut]

end Steps

section Digest

variable {world} {path : String} {content : ByteArray} {buffer : Nat} (host : Host σ)

/-- A file that can be read is one that holds all its bytes. -/
theorem holds_of_read {tree : FileTree} (readable : tree.read path = .ok content) {bytes : Nat}
    (within : bytes ≤ content.size) : tree.holds bytes = true := by
  unfold FileTree.read at readable
  split at readable
  · split at readable
    · next place found finds =>
      cases readable
      have stands := FileTree.at?_of_find finds
      unfold FileTree.at? at stands
      split at stands
      · cases stands
      · obtain ⟨entry, there, holds⟩ := Option.map_eq_some_iff.1 stands
        rw [FileTree.holds, List.any_eq_true]
        refine ⟨entry, List.mem_of_find?_eq_some there, ?_⟩
        rw [holds]
        exact decide_eq_true within
    · cases readable
    · cases readable
  · cases readable

theorem ending_checkRead (bytes : Nat) : ending (checkRead host bytes) world =
    if world.files.holds bytes then .ok ()
    else (Request.checkFile host.memory bytes).mapError .ofMisuse := by
  rw [checkRead, ending_bind, ending_get]
  dsimp only [after_get]
  split
  · rfl
  · exact Action.ending_ofExcept world _

@[simp] theorem after_checkRead (bytes : Nat) : after (checkRead host bytes) world = world := by
  rw [checkRead, after_bind, ending_get]
  dsimp only [after_get]
  split
  · rfl
  · exact Action.after_ofExcept world _

theorem measure_ofContent (content : ByteArray) :
    (Stream.ofContent content).measure = (content.size, .ofContent content) := rfl

theorem ending_openFile_of_ok (readable : world.files.read path = .ok content) :
    ending (openFile path) world = .ok (.ofContent content) := by
  rw [ending_openFile, readable]
  rfl

theorem ending_openFile_of_error {fault : CallFault}
    (unread : world.files.read path = .error fault) :
    ending (openFile path) world = .error (.ofCall fault) := by
  rw [ending_openFile, unread]
  rfl

theorem ending_digest_none (readable : world.files.read path = .ok content)
    (sized : Settings.bufferSize world.settings = .ok buffer) :
    ending (digest host path none) world = .ok (Sha256.digest content).hex := by
  obtain ⟨reading, reads, found⟩ := ending_hash_ofContent sized content.size content
  rw [Int.toNat_natCast, cut_size] at found
  rw [digest, ending_bind, ending_openFile_of_ok readable]
  simp only [measure_ofContent, after_openFile, ending_bind, reads, found]
  rfl

/-- The digest of so many bytes is there if they can be asked for. -/
theorem ending_digest_some (readable : world.files.read path = .ok content)
    (sized : Settings.bufferSize world.settings = .ok buffer) (length : Int) :
    ending (digest host path (some length)) world =
      (ending (checkRead host (Request.first buffer length)) world).map fun _ =>
        (Sha256.digest (cut length.toNat content)).hex := by
  obtain ⟨reading, reads, found⟩ := ending_hash_ofContent sized length content
  rw [digest, ending_bind, ending_openFile_of_ok readable]
  simp only [after_openFile, ending_bind, ending_get, after_get, Action.ending_ofExcept,
    Action.after_ofExcept, sized, mapError_ok]
  cases ending (checkRead host (Request.first buffer length)) world with
  | error fault => rfl
  | ok met =>
    simp only [after_checkRead, reads, found]
    rfl

end Digest

section Compare

variable {world} {first second : String} {a b : ByteArray} {buffer : Nat}

/-- The fault that says that two images differ. -/
def mismatch (first second : String) : Fault :=
  .ofProblem (.mismatch (.text first) (.text second))

theorem ending_compare_of_left {fault : CallFault}
    (unread : world.files.read first = .error fault) :
    ending (compare first second) world = .error (.ofCall fault) := by
  rw [compare, ending_bind, ending_openFile_of_error unread]

theorem ending_compare_of_right {fault : CallFault} (readable : world.files.read first = .ok a)
    (unread : world.files.read second = .error fault) :
    ending (compare first second) world = .error (.ofCall fault) := by
  rw [compare, ending_bind, ending_openFile_of_ok readable]
  simp only [ending_bind, after_openFile, ending_openFile_of_error unread]

theorem ending_compare (left : world.files.read first = .ok a)
    (right : world.files.read second = .ok b)
    (sized : Settings.bufferSize world.settings = .ok buffer) :
    ending (compare first second) world =
      if Sha256.digest a = Sha256.digest (cut a.size b) then .ok ()
      else .error (mismatch first second) := by
  rw [compare, ending_bind, ending_openFile_of_ok left]
  simp only [ending_bind, after_openFile, ending_openFile_of_ok right, measure_ofContent,
    Logger.ending_log, Logger.after_log]
  generalize noted : Logger.noted _ _ _ world = announced
  have sized : Settings.bufferSize announced.settings = .ok buffer := by
    rw [← noted]
    exact sized
  obtain ⟨expected, reads, wanted⟩ := ending_hash_ofContent sized a.size a
  obtain ⟨found, reads', obtained⟩ := ending_hash_ofContent sized a.size b
  rw [Int.toNat_natCast] at wanted obtained
  rw [cut_size] at wanted
  simp only [reads, reads', after_hash, wanted, obtained]
  split
  · rfl
  · rfl

theorem ending_compare_of_unsized {misuse : Misuse} (left : world.files.read first = .ok a)
    (right : world.files.read second = .ok b)
    (unsized : Settings.bufferSize world.settings = .error misuse) :
    ending (compare first second) world = .error (.ofMisuse misuse) := by
  rw [compare, ending_bind, ending_openFile_of_ok left]
  simp only [ending_bind, after_openFile, ending_openFile_of_ok right, measure_ofContent,
    Logger.ending_log, Logger.after_log, ending_hash, Logger.noted_settings, unsized]
  rfl

end Compare

section Verdict

variable (host : Host σ) (first second : String)

omit host in
theorem isNameable_of_read {tree : FileTree} {path : String} {fault : CallFault}
    (unread : tree.read path = .error fault) :
    if FileTree.isNameable path then ∃ error, fault = .system error else fault = .nullInPath := by
  unfold FileTree.read at unread
  split
  · next nameable =>
    rw [if_pos nameable] at unread
    split at unread
    · cases unread
    · exact ⟨_, (Except.error.inj unread).symm⟩
    · exact ⟨_, (Except.error.inj unread).symm⟩
  · next nameless =>
    rw [if_neg nameless] at unread
    exact (Except.error.inj unread).symm

/-- What a comparison of two images comes to, and what it does not depend on. -/
theorem compare_verdict :
    (∀ fault, world.files.read first = .error fault →
      ending (compare first second) world = .error (.ofCall fault) ∧
        if FileTree.isNameable first then ∃ error, fault = .system error
        else fault = .nullInPath) ∧
    (∀ a fault, world.files.read first = .ok a → world.files.read second = .error fault →
      ending (compare first second) world = .error (.ofCall fault) ∧
        if FileTree.isNameable second then ∃ error, fault = .system error
        else fault = .nullInPath) ∧
    ∀ a b, world.files.read first = .ok a → world.files.read second = .ok b →
      (Settings.integer world.settings "io_buffer_size"
        (.int Settings.bufferDefault)).isOk = true →
      (ending (compare first second) world = .ok () ↔
        Sha256.digest a = Sha256.digest (b.extract 0 a.size)) ∧
      (ending (compare first second) world ≠ .ok () →
        ending (compare first second) world
          = .error (.ofProblem (.mismatch (.text first) (.text second)))) ∧
      ((∃ rest, b = a ++ rest) → ending (compare first second) world = .ok ()) ∧
      ((¬ ∃ rest, b = a ++ rest) → ¬ Collide a (b.extract 0 a.size) →
        ending (compare first second) world ≠ .ok ()) ∧
      ending (compare first first) world = .ok () ∧
      (∃ text other, ending (digest host first none) world = .ok text ∧
        ending (digest host second (some a.size)) world = .ok other ∧
        (ending (compare first second) world = .ok () ↔ text = other)) ∧
      ∀ settings : Fields, (Settings.integer settings "io_buffer_size"
          (.int Settings.bufferDefault)).isOk = true →
        ending (compare first second) { world with settings }
          = ending (compare first second) world := by
  refine ⟨?_, ?_, ?_⟩
  · intro fault unread
    exact ⟨ending_compare_of_left unread, isNameable_of_read unread⟩
  · intro a fault left unread
    exact ⟨ending_compare_of_right left unread, isNameable_of_read unread⟩
  intro a b left right sized
  rw [← Settings.isOk_bufferSize_iff] at sized
  obtain ⟨buffer, sized⟩ := exists_ok_of_isOk sized
  have verdict := ending_compare left right sized
  have reflexive := ending_compare left left sized
  have returns : ending (compare first second) world = .ok () ↔
      Sha256.digest a = Sha256.digest (cut a.size b) := by
    rw [verdict]
    split <;> simp [*]
  refine ⟨returns, ?_, ?_, ?_, ?_, ?_, ?_⟩
  · intro fails
    rw [verdict] at fails ⊢
    split at fails
    · exact absurd rfl fails
    · next different => rw [if_neg different]; rfl
  · intro front
    rw [returns, cut_eq_iff.2 front]
  · intro noFront distinct matching
    refine distinct ⟨fun same => noFront (cut_eq_iff.1 same.symm), returns.1 matching⟩
  · rw [reflexive, cut_size, if_pos rfl]
  · -- no more is asked for than the first file has
    have asked : Request.first buffer a.size ≤ a.size := by
      simp only [Request.first, Int.toNat_natCast]
      omega
    have met : ending (checkRead host (Request.first buffer a.size)) world = .ok () := by
      rw [ending_checkRead, if_pos (holds_of_read left asked)]
    refine ⟨_, _, ending_digest_none host left sized,
      (ending_digest_some host right sized a.size).trans (by rw [met]; rfl), ?_⟩
    rw [returns, Sha256.Words.hex_inj, Int.toNat_natCast]
  · intro settings other
    rw [← Settings.isOk_bufferSize_iff] at other
    obtain ⟨size, other⟩ := exists_ok_of_isOk other
    have left : { world with settings }.files.read first = .ok a := left
    rw [verdict]
    exact ending_compare left right other

end Verdict

/-- Two images, the second of which starts with the first, to be read byte by byte. -/
def images : World Unit :=
  { World.holding [("a.img", ⟨#[1, 2]⟩), ("b.img", ⟨#[1, 2, 3]⟩)] with
    settings := [("io_buffer_size", .int 1)] }

theorem compare_verdict_images :
    ending (compare "a.img" "b.img") images = .ok () ∧
      ending (compare "b.img" "a.img") images
        = .error (.ofProblem (.mismatch (.text "b.img") (.text "a.img"))) := by
  have short : images.files.read "a.img" = .ok ⟨#[1, 2]⟩ := rfl
  have long : images.files.read "b.img" = .ok ⟨#[1, 2, 3]⟩ := rfl
  constructor
  · obtain ⟨-, -, verdict⟩ := compare_verdict images .obliging "a.img" "b.img"
    obtain ⟨-, -, front, -⟩ := verdict _ _ short long rfl
    exact front ⟨⟨#[3]⟩, rfl⟩
  · obtain ⟨-, -, verdict⟩ := compare_verdict images .obliging "b.img" "a.img"
    obtain ⟨returns, mismatch, -⟩ := verdict _ _ long short rfl
    refine mismatch fun same => ?_
    exact absurd (returns.1 same) (by decide +kernel)

/-- A path with a null character is no path that the operating system could not open. -/
theorem compare_nameless : (match ending (compare "a\x00b" "b.img") images with
    | .ok _ => ""
    | .error fault => fault.kind) = "ValueError" := by
  decide +kernel

end DiskFixture.Verify
