import DiskFixture.Decimal.Shortest

/-!
Digits of a double to a given precision: up to a place behind the point, or a number of leading
digits. The exact value is rounded, ties going to the even digit.
-/

namespace DiskFixture.Decimal

/-- No double has a digit other than zero this far behind its point or its first digit. -/
def digitReach : Nat := 1100

/-- `significand * 2 ^ exponent` to `places` digits behind the point. -/
def fixedDigits (places significand : Nat) (exponent : Int) : Digits :=
  let places := min places digitReach
  let written := Nat.toDigits 10 (decimalUnits places significand exponent)
  ⟨written, written.length - places⟩

def leadingDigits (count significand : Nat) (exponent : Int) : Digits :=
  let count := min count digitReach
  if significand = 0 then ⟨List.replicate count '0', 1⟩
  else
    let interval := Interval.around significand exponent
    let place := interval.point - count
    let up := Nat.pow 10 place.toNat
    let down := Nat.pow 10 (-place).toNat
    let written :=
      Nat.toDigits 10 (roundDiv (interval.value * down) (up * interval.scale))
    ⟨written.take count, interval.point + (written.length - count)⟩

/-- How a number is laid out: with a number of places, with a power of ten and a number of places,
with a number of digits and whatever is shorter, or with the fewest digits. A general layout that
is `pointed` always shows a point or a power of ten. -/
inductive Style where
  | fixed (places : Nat)
  | scientific (places : Nat)
  | general (count : Nat) (pointed : Bool)
  | shortest
  deriving DecidableEq, Repr

namespace Style

/-- The digits that a style shows of `significand * 2 ^ exponent`. -/
def digits (style : Style) (significand : Nat) (exponent : Int) : Digits :=
  match style with
  | .fixed places => fixedDigits places significand exponent
  | .scientific places => leadingDigits (places + 1) significand exponent
  | .general count _ => leadingDigits (max count 1) significand exponent
  | .shortest => plainDigits significand exponent

/-- The text of a number in a style. With `full`, zeros at the end and a final point stay. -/
def layout (style : Style) (full : Bool) (number : Digits) : List Char :=
  match style with
  | .fixed places => number.positional places full
  | .scientific places => number.scientific places full
  | .general count pointed =>
    let count := max count 1
    let shown := if full then number else number.stripped
    let reach : Int := if pointed then count - 1 else count
    if pointRange.1 ≤ number.point && number.point ≤ reach then
      let places := if full then (count - number.point).toNat else 0
      shown.positional (if pointed then max places 1 else places) full
    else shown.scientific (if full then count - 1 else 0) full
  | .shortest => number.plain full

end Style

end DiskFixture.Decimal
