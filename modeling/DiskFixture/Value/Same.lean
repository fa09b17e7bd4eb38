import DiskFixture.Value
import DiskFixture.Decimal.Double

/-!
Equality across kinds: truth values count as the integers 0 and 1, numbers are compared by their
exact value, lists in order, and objects by key whatever the order of their keys.
-/

namespace DiskFixture

def floatIsInteger (x : Float) (number : Int) : Bool :=
  match Decimal.Double.ofFloat x with
  | .finite negative significand exponent =>
    let signed (magnitude : Nat) : Int := if negative then -(magnitude : Int) else magnitude
    signed (significand <<< exponent.toNat) == number * ((1 <<< (-exponent).toNat : Nat) : Int)
  | _ => false

/-- The integer that a truth value or an integer counts as. -/
def Value.asInteger? : Value → Option Int
  | .bool holds => some (if holds then 1 else 0)
  | .int number => some number
  | _ => none

mutual

def Value.same : Value → Value → Bool
  | .null, other =>
    match other with
    | .null => true
    | _ => false
  | .bool holds, other => sameInteger (if holds then 1 else 0) other
  | .int number, other => sameInteger number other
  | .float x, other =>
    match other with
    | .float y => x == y
    | other => other.asInteger?.any (floatIsInteger x)
  | .text content, other =>
    match other with
    | .text other => content == other
    | _ => false
  | .list items, other =>
    match other with
    | .list others => sameItems items others
    | _ => false
  | .object fields, other =>
    match other with
    | .object others => fields.length == others.length && sameFields fields others
    | _ => false
where
  sameInteger (number : Int) : Value → Bool
    | .float x => floatIsInteger x number
    | other => other.asInteger? == some number

def sameItems : List Value → List Value → Bool
  | [], others => others.isEmpty
  | item :: rest, others =>
    match others with
    | [] => false
    | other :: more => item.same other && sameItems rest more

def sameFields : List (String × Value) → Fields → Bool
  | [], _ => true
  | (name, value) :: rest, others =>
    (match others.get? name with
      | some other => value.same other
      | none => false) && sameFields rest others

end

end DiskFixture
