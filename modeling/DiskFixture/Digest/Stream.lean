import DiskFixture.Digest.Sha256

/-!
Hashing a stream piece by piece. A stream may grant less than a read asks for. Reading stops when
enough bytes have been read or when a read grants nothing.
-/

namespace DiskFixture

/-- Bytes with a position. The number of bytes granted may depend on how many reads came before and
on how many bytes are wanted. -/
structure Stream where
  content : ByteArray
  position : Nat
  grant : Nat → Nat → Nat

namespace Stream

/-- A stream at the start of its bytes that grants what is wanted. -/
def ofContent (content : ByteArray) : Stream := ⟨content, 0, fun _ wanted => wanted⟩

/-- The bytes of the next read, after `reads` of them. Behind the end there are none, however many
are wanted. -/
def read (stream : Stream) (reads wanted : Nat) : ByteArray :=
  let size := stream.content.size
  let stop := stream.position + min wanted (stream.grant reads wanted)
  stream.content.extract (min stream.position size) (min stop size)

/-- The size of the stream's content. To find it, the stream is moved to its end and back to its
start. -/
def measure (stream : Stream) : Nat × Stream :=
  (stream.content.size, { stream with position := 0 })

end Stream

/-- What reading a stream gave: the sizes asked for, the bytes obtained and the stream behind
them. -/
structure Reading where
  requests : Array Nat
  bytes : ByteArray
  stream : Stream

namespace Reading

def start (stream : Stream) : Reading := ⟨#[], ByteArray.empty, stream⟩

/-- Reads on until `remaining` bytes have been read, at most `buffer` at a time. -/
def advance (buffer remaining : Nat) (reading : Reading) : Reading :=
  if remaining = 0 then reading
  else
    let wanted := min buffer remaining
    let chunk := reading.stream.read reading.requests.size wanted
    let requests := reading.requests.push wanted
    if chunk.size = 0 then { reading with requests }
    else
      advance buffer (remaining - chunk.size)
        ⟨requests, reading.bytes ++ chunk,
          { reading.stream with position := reading.stream.position + chunk.size }⟩
  termination_by remaining
  decreasing_by show remaining - chunk.size < remaining; omega

/-- Reads up to `length` bytes, none if the length is negative. -/
def ofStream (buffer : Nat) (length : Int) (stream : Stream) : Reading :=
  advance buffer length.toNat (start stream)

def digest (reading : Reading) : Sha256.Words :=
  Sha256.digest reading.bytes

end Reading

end DiskFixture
