import DiskFixture.Proofs.Verify

/-!
The rounds in which a stream is hashed. Main statement: whatever the buffer and however little the
stream grants to each read, exactly the bytes that were asked for are hashed; each round asks for
what is missing, as far as it fits into the buffer, from where the round before ended.
-/

namespace DiskFixture

namespace Stream

/-- The stream moved on by a number of bytes. -/
def advanced (stream : Stream) (bytes : Nat) : Stream :=
  { stream with position := stream.position + bytes }

@[simp] theorem advanced_zero (stream : Stream) : stream.advanced 0 = stream := rfl

theorem advanced_advanced (stream : Stream) (first second : Nat) :
    (stream.advanced first).advanced second = stream.advanced (first + second) := by
  simp only [advanced, Nat.add_assoc]

theorem size_read_le (stream : Stream) (reads wanted : Nat) :
    (stream.read reads wanted).size ≤ wanted := by
  rw [size_read]
  omega

end Stream

namespace Reading

/-- One read: how many bytes it asks for, and those that it obtains. -/
structure Round where
  wanted : Nat
  chunk : ByteArray

/-- The bytes that rounds obtain, one after the other. -/
def joined : List Round → ByteArray
  | [] => .empty
  | round :: rest => round.chunk ++ joined rest

/-- The rounds of a reading of `remaining` more bytes, before which the stream was read `reads`
times. A round that obtains nothing is the last one. -/
inductive Rounds (buffer : Nat) : (reads remaining : Nat) → Stream → List Round → Prop where
  | full {reads : Nat} {stream : Stream} : Rounds buffer reads 0 stream []
  | dry {reads remaining : Nat} {stream : Stream} (missing : 0 < remaining)
      (nothing : stream.read reads (min buffer remaining) = .empty) :
      Rounds buffer reads remaining stream [⟨min buffer remaining, .empty⟩]
  | more {reads remaining : Nat} {stream : Stream} {chunk : ByteArray} {rest : List Round}
      (obtained : stream.read reads (min buffer remaining) = chunk) (some : 0 < chunk.size)
      (later : Rounds buffer (reads + 1) (remaining - chunk.size) (stream.advanced chunk.size)
        rest) :
      Rounds buffer reads remaining stream (⟨min buffer remaining, chunk⟩ :: rest)

/-- What a reading does from some point on, it does in rounds. -/
theorem exists_rounds_advance (buffer remaining : Nat) (reading : Reading) :
    ∃ rounds, Rounds buffer reading.requests.size remaining reading.stream rounds ∧
      advance buffer remaining reading =
        ⟨reading.requests ++ (rounds.map (·.wanted)).toArray, reading.bytes ++ joined rounds,
          reading.stream.advanced (joined rounds).size⟩ := by
  fun_induction advance buffer remaining reading with
  | case1 reading => exact ⟨[], .full, by simp [joined]⟩
  | case2 remaining reading more wanted chunk requests empty =>
    have nothing : chunk = .empty := ByteArray.size_eq_zero_iff.1 empty
    exact ⟨_, .dry (Nat.pos_of_ne_zero more) nothing, by simp [joined, requests, wanted]⟩
  | case3 remaining reading more wanted chunk requests some ih =>
    obtain ⟨rounds, later, goesOn⟩ := ih
    have count : requests.size = reading.requests.size + 1 := by simp [requests]
    rw [count] at later
    refine ⟨⟨wanted, chunk⟩ :: rounds, .more rfl (Nat.pos_of_ne_zero some) later, ?_⟩
    rw [goesOn]
    simp only [joined, ByteArray.size_append, ByteArray.append_assoc, requests]
    rw [← Stream.advanced_advanced]
    simp [Stream.advanced]

namespace Rounds

variable {buffer reads remaining : Nat} {stream : Stream} {rounds : List Round}

/-- No more reads are made than bytes are missing. -/
theorem length_le (course : Rounds buffer reads remaining stream rounds) :
    rounds.length ≤ remaining := by
  induction course with
  | full => exact Nat.le_refl 0
  | dry missing nothing => exact missing
  | @more reads remaining stream chunk rest obtained some later ih =>
    have size : chunk.size ≤ min buffer remaining := obtained ▸ stream.size_read_le reads _
    simp only [List.length_cons]
    omega

/-- The round at a position, behind what the rounds in front of it obtained. -/
theorem at_position (course : Rounds buffer reads remaining stream rounds) {i : Nat}
    (within : i < rounds.length) :
    let done := (joined (rounds.take i)).size
    done < remaining ∧ rounds[i].wanted = min buffer (remaining - done) ∧
      rounds[i].chunk = (stream.advanced done).read (reads + i) rounds[i].wanted ∧
      (rounds[i].chunk.size = 0 → i + 1 = rounds.length) := by
  induction course generalizing i with
  | full => cases within
  | dry missing nothing =>
    obtain rfl : i = 0 := Nat.lt_one_iff.1 within
    exact ⟨missing, rfl, nothing.symm, fun _ => rfl⟩
  | @more reads remaining stream chunk rest obtained some later ih =>
    have size : chunk.size ≤ min buffer remaining := obtained ▸ stream.size_read_le reads _
    cases i with
    | zero =>
      refine ⟨?_, rfl, obtained.symm, ?_⟩
      · show 0 < remaining
        omega
      · intro empty
        exact absurd empty (Nat.ne_of_gt some)
    | succ i =>
      obtain ⟨missing, wanted, found, last⟩ := ih (Nat.lt_of_succ_lt_succ within)
      have done : (joined ((⟨min buffer remaining, chunk⟩ :: rest).take (i + 1))).size
          = chunk.size + (joined (rest.take i)).size := ByteArray.size_append
      rw [Stream.advanced_advanced, Nat.add_right_comm, Nat.add_assoc] at found
      dsimp only
      rw [done]
      refine ⟨by omega, ?_, found, fun empty => congrArg (· + 1) (last empty)⟩
      rw [List.getElem_cons_succ, wanted, Nat.sub_sub]

end Rounds

end Reading

namespace Settings

theorem exists_integer_of_isOk {settings : Fields} {key : String} {otherwise : Int}
    (readable : (integer settings key (.int otherwise)).isOk = true) :
    ∃ number, integer settings key (.int otherwise) = .ok (.int number) := by
  unfold integer at readable ⊢
  split
  · next number stands => exact ⟨number, rfl⟩
  · exact ⟨otherwise, rfl⟩
  · next infinite =>
    rw [infinite] at readable
    cases readable

theorem bufferSize_of_integer {settings : Fields} {size : Int}
    (read : integer settings "io_buffer_size" (.int bufferDefault) = .ok (.int size)) :
    bufferSize settings = .ok (if 0 < size then size.toNat else bufferDefault) := by
  rw [bufferSize, read]
  by_cases positive : 0 < size
  · simp only [if_pos positive, if_neg (Int.not_le.2 positive)]
  · simp only [if_neg positive, if_pos (Int.not_lt.1 positive)]

end Settings

namespace Verify

variable {σ : Type} {world : World σ} {stream : Stream}

/-- A stream that grants something to every read is hashed from where it stands up to the length,
and left there. It is read in rounds, no more of them than bytes are wanted; each asks for what is
missing, as far as it fits into the buffer, reads on where the round before ended, and is the last
if it obtains nothing. -/
theorem hash_in_rounds (generous : stream.Generous)
    (readable : (Settings.integer world.settings "io_buffer_size"
      (.int Settings.bufferDefault)).isOk = true) (length : Int) :
    ∃ (size : Int) (rounds : List Reading.Round) (reading : Reading),
      let buffer := if 0 < size then size.toNat else Settings.bufferDefault
      let slice := stream.content.extract stream.position (stream.position + length.toNat)
      Settings.integer world.settings "io_buffer_size" (.int Settings.bufferDefault)
        = .ok (.int size) ∧
      ending (hash length stream) world = .ok reading ∧
      reading.digest = Sha256.digest slice ∧
      reading.bytes = slice ∧ Reading.joined rounds = slice ∧
      reading.requests.toList = rounds.map (·.wanted) ∧ rounds.length ≤ length.toNat ∧
      reading.stream = stream.advanced slice.size ∧ slice.size ≤ length.toNat ∧
      ∀ (i : Nat) (within : i < rounds.length),
        let done := (Reading.joined (rounds.take i)).size
        0 < rounds[i].wanted ∧ rounds[i].wanted = min buffer (length.toNat - done) ∧
        rounds[i].chunk = (stream.advanced done).read i rounds[i].wanted ∧
        (rounds[i].chunk.size = 0 → i + 1 = rounds.length) := by
  obtain ⟨size, read⟩ := Settings.exists_integer_of_isOk readable
  have sized := Settings.bufferSize_of_integer read
  have positive := Settings.bufferSize_pos sized
  generalize buffer_eq : (if 0 < size then size.toNat else Settings.bufferDefault) = buffer at *
  have bytes := Reading.bytes_ofStream positive length generous
  obtain ⟨rounds, course, reads⟩ :=
    Reading.exists_rounds_advance buffer length.toNat (Reading.start stream)
  have hashes : ending (hash length stream) world
      = .ok (Reading.ofStream buffer length stream) := by
    rw [ending_hash, sized]
    rfl
  have joined : Reading.joined rounds
      = stream.content.extract stream.position (stream.position + length.toNat) := by
    rw [← bytes, Reading.ofStream, reads]
    exact ByteArray.empty_append.symm
  refine ⟨size, rounds, Reading.ofStream buffer length stream, read, hashes, ?_, bytes, joined, ?_,
    course.length_le, ?_, ?_, fun i within => ?_⟩
  · rw [Reading.digest, bytes]
  · rw [Reading.ofStream, reads]
    simp [Reading.start]
  · rw [Reading.ofStream, reads, joined]
    rfl
  · rw [ByteArray.size_extract]
    omega
  · obtain ⟨missing, wanted, found, last⟩ := course.at_position within
    have count : (Reading.start stream).requests.size + i = i := Nat.zero_add i
    rw [count] at found
    dsimp only
    rw [buffer_eq]
    exact ⟨by omega, wanted, found, last⟩

/-- Eight bytes, of which the first has been read; the reads get one or two of them by turns. -/
def sparing : Stream := ⟨⟨#[0, 10, 20, 30, 40, 50, 60, 70]⟩, 1, fun reads _ => 1 + reads % 2⟩

theorem hash_in_rounds_sparing :
    let world := { World.untouched with settings := [("io_buffer_size", .text "3")] }
    sparing.Generous ∧
      (Settings.integer world.settings "io_buffer_size" (.int Settings.bufferDefault)).isOk = true ∧
      ∃ reading, ending (hash 5 sparing) world = .ok reading ∧
        reading.bytes = ⟨#[10, 20, 30, 40, 50]⟩ ∧
        reading.digest = Sha256.digest ⟨#[10, 20, 30, 40, 50]⟩ ∧ reading.stream.position = 6 := by
  intro world
  have generous : sparing.Generous := fun reads wanted _ => Nat.lt_add_right _ Nat.one_pos
  have readable : (Settings.integer world.settings "io_buffer_size"
      (.int Settings.bufferDefault)).isOk = true := by
    decide +kernel
  obtain ⟨size, rounds, reading, -, hashes, digest, bytes, -, -, -, left, -⟩ :=
    hash_in_rounds generous readable 5
  exact ⟨generous, readable, reading, hashes, bytes, digest, by rw [left]; rfl⟩

end Verify

end DiskFixture
