import DiskFixture.Value
import DiskFixture.Text.Integer
import DiskFixture.Decimal.Double

/-!
The integer that a value stands for: truth values are 0 and 1, floats are cut to their integral
part, text is read as a decimal number. Null, lists, objects, other text and what is not a number
have none; for infinity the question itself is an error. The other way round, a value can be written
unless an integer in it has too many digits.
-/

namespace DiskFixture

/-- Why a value stands for no integer. -/
inductive IntegerReading where
  | integer (number : Int)
  | absent
  | infinite
  deriving DecidableEq, Repr

def Value.toInteger : Value → IntegerReading
  | .bool holds => .integer (if holds then 1 else 0)
  | .int number => .integer number
  | .float number =>
    match Decimal.Double.ofFloat number with
    | .infinite _ => .infinite
    | double =>
      match double.truncate? with
      | some whole => .integer whole
      | none => .absent
  | .text content =>
    match Text.readInteger 10 content with
    | .ok number => .integer number
    | .error _ => .absent
  | _ => .absent

mutual

/-- Whether a value can be written as text. -/
def Value.isWritable : Value → Bool
  | .int number => Text.isWritable number
  | .list items => areWritable items
  | .object fields => areWritableFields fields
  | _ => true

def areWritable : List Value → Bool
  | [] => true
  | item :: rest => item.isWritable && areWritable rest

def areWritableFields : List (String × Value) → Bool
  | [] => true
  | (_, value) :: rest => value.isWritable && areWritableFields rest

end

end DiskFixture
