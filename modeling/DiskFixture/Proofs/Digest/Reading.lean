import DiskFixture.Digest.Stream

/-!
What a reading obtains. Main statement: from a stream that grants something as long as there is
something left, the bytes that were asked for are obtained as far as there are any, whatever the
sizes of the pieces.
-/

namespace DiskFixture

namespace Stream

/-- A stream that never grants nothing to a read that wants something. -/
def Generous (stream : Stream) : Prop :=
  ∀ reads wanted, 0 < wanted → 0 < stream.grant reads wanted

theorem generous_ofContent (content : ByteArray) : (ofContent content).Generous :=
  fun _ _ positive => positive

variable (stream : Stream) (reads wanted : Nat)

theorem read_eq : stream.read reads wanted = stream.content.extract stream.position
    (stream.position + min wanted (stream.grant reads wanted)) := by
  ext1
  simp only [read, ByteArray.data_extract, ← ByteArray.size_data]
  apply Array.ext
  · simp only [Array.size_extract]
    omega
  · intro index inside other
    simp only [Array.size_extract] at inside other
    simp only [Array.getElem_extract]
    congr 1
    omega

theorem size_read : (stream.read reads wanted).size
    = min (stream.position + min wanted (stream.grant reads wanted)) stream.content.size
      - stream.position := by
  rw [read_eq, ByteArray.size_extract]

theorem read_eq_extract : stream.read reads wanted = stream.content.extract stream.position
    (stream.position + (stream.read reads wanted).size) := by
  have size := size_read stream reads wanted
  generalize (stream.read reads wanted).size = count at *
  ext1
  rw [read_eq, ByteArray.data_extract, ByteArray.data_extract, Array.extract_eq_extract_right,
    ByteArray.size_data]
  omega

/-- What a read gives is the front of what is to be read, and the rest of it stands behind. -/
theorem read_append {remaining : Nat} (enough : wanted ≤ remaining) :
    let read := stream.read reads wanted
    let behind := stream.position + read.size
    read ++ stream.content.extract behind (behind + (remaining - read.size))
      = stream.content.extract stream.position (stream.position + remaining) := by
  dsimp only
  have front := read_eq_extract stream reads wanted
  have size := size_read stream reads wanted
  generalize (stream.read reads wanted).size = count at *
  have stop : stream.position + count + (remaining - count) = stream.position + remaining := by
    omega
  rw [front, stop]
  exact (ByteArray.extract_eq_extract_append_extract _ (by omega) (by omega)).symm

/-- A read of a generous stream gives nothing only where there is nothing left. -/
theorem extract_of_read_empty (generous : stream.Generous) (positive : 0 < wanted)
    (empty : (stream.read reads wanted).size = 0) (stop : Nat) :
    stream.content.extract stream.position stop = .empty := by
  have granted := generous reads wanted positive
  rw [size_read] at empty
  rw [ByteArray.extract_eq_empty_iff]
  omega

end Stream

namespace Reading

/-- The bytes obtained do not depend on the size of the pieces. -/
theorem bytes_advance {buffer : Nat} (positive : 0 < buffer) (remaining : Nat) (reading : Reading)
    (generous : reading.stream.Generous) :
    (advance buffer remaining reading).bytes = reading.bytes ++
      reading.stream.content.extract reading.stream.position
        (reading.stream.position + remaining) := by
  fun_induction advance buffer remaining reading with
  | case1 reading => simp
  | case2 remaining reading more wanted chunk requests empty =>
    have wants : 0 < wanted := by omega
    rw [Stream.extract_of_read_empty _ _ _ generous wants empty, ByteArray.append_empty]
  | case3 remaining reading more wanted chunk requests some ih =>
    have enough : wanted ≤ remaining := Nat.min_le_right _ _
    rw [ih generous, ByteArray.append_assoc, Stream.read_append _ _ _ enough]

theorem bytes_ofStream {buffer : Nat} (positive : 0 < buffer) (length : Int) {stream : Stream}
    (generous : stream.Generous) :
    (ofStream buffer length stream).bytes
      = stream.content.extract stream.position (stream.position + length.toNat) := by
  rw [ofStream, bytes_advance positive _ _ generous]
  exact ByteArray.empty_append

end Reading

end DiskFixture
