import DiskFixture.Digest.Stream
import DiskFixture.Misuse

/-!
Requests for bytes that cannot be met. A number of bytes must fit into a machine word, and a file
sets memory for the whole request aside before it is read. Of the requests of a reading the first
one is the largest, so it alone is checked.
-/

namespace DiskFixture.Request

/-- The largest number in a word. -/
def wordLimit : Nat := 9223372036854775807

/-- The bytes around the content of a block of memory. -/
def blockOverhead : Nat := 33

/-- The first number of bytes that a reading asks for. -/
def first (buffer : Nat) (length : Int) : Nat := min buffer length.toNat

/-- The position in a stream that a number stands for. -/
def position (number : Int) : Except Misuse Nat :=
  if number < -wordLimit - 1 || wordLimit < number then .error .positionTooLarge
  else if number < 0 then .error (.negativePosition number)
  else .ok number.toNat

/-- Whether a stream in memory can be asked for so many bytes. -/
def check (bytes : Nat) : Except Misuse Unit :=
  if wordLimit < bytes then .error .requestTooLarge else .ok ()

/-- Whether a file can be asked for so many bytes where there is memory for `memory` of them. -/
def checkFile (memory bytes : Nat) : Except Misuse Unit := do
  check bytes
  if wordLimit - blockOverhead < bytes then throw .blockTooLarge
  if memory < bytes then throw .outOfMemory

end DiskFixture.Request
