import DiskFixture.Misuse
import DiskFixture.Text.Blank
import DiskFixture.Text.Integer
import DiskFixture.Text.Search

/-!
Partition identifiers, numbers of 128 bits. The canonical text groups the thirty-two hexadecimal
digits by hyphens. Reading is more liberal: it takes out markers and hyphens wherever they stand and
braces at the ends, and reads what is left as a hexadecimal number of thirty-two characters.
-/

namespace DiskFixture

structure Identifier where
  bits : BitVec 128
  deriving DecidableEq, Repr

namespace Identifier

def digits (identifier : Identifier) : List Char :=
  Text.hexDigits 32 identifier.bits.toNat

def text (identifier : Identifier) : String :=
  let digits := identifier.digits
  let group (start length : Nat) : List Char := (digits.drop start).take length
  String.ofList (group 0 8 ++ '-' :: group 8 4 ++ '-' :: group 12 4 ++ '-' :: group 16 4
    ++ '-' :: group 20 12)

def isBrace (c : Char) : Bool := c == '\x7b' || c == '\x7d'

/-- What is left of a text without markers, braces and hyphens. -/
def core (cs : List Char) : List Char :=
  let unmarked := Text.takeOut "uuid:".toList (Text.takeOut "urn:".toList cs)
  (Text.trim isBrace unmarked).filter (· != '-')

def parse (text : String) : Except Misuse Identifier :=
  let core := core text.toList
  if core.length = 32 then
    match Text.readInteger 16 (String.ofList core) with
    | .ok number => .ok ⟨BitVec.ofInt 128 number⟩
    | .error _ => .error (.identifierDigits (String.ofList core))
  else .error .identifierLength

/-- The tag that comes before an identifier. -/
def tag : String := "PARTUUID="

/-- The value of a field that starts with the tag, without the quotes around it. -/
def tagged? (field : String) : Option String :=
  let cs := field.toList
  if tag.toList.isPrefixOf cs then
    some (String.ofList (Text.trim (· == '"') (cs.drop tag.toList.length)))
  else none

/-- The value of the first field of a text that starts with the tag. -/
def find? (output : String) : Option String :=
  (Text.fields output).findSome? tagged?

end Identifier

end DiskFixture
