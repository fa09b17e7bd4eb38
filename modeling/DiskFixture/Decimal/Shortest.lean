import DiskFixture.Decimal.Double
import DiskFixture.Decimal.Layout

/-!
The shortest decimal text of a double: the fewest digits that read back as the same double, the
nearest of those, an even last digit where two are equally near. Small and large numbers are
written with an exponent, all others with a point.
-/

namespace DiskFixture.Decimal

/-- A positive number and the ends of the interval that rounds to it, all over `scale`; `closed`
tells whether the ends belong to it. -/
structure Interval where
  low : Nat
  value : Nat
  high : Nat
  scale : Nat
  closed : Bool

/-- The interval around `significand * 2 ^ exponent`. Below a power of two the gap is half as
wide. -/
def Interval.around (significand : Nat) (exponent : Int) : Interval :=
  let gap := if significand = hiddenBit && exponent != -1074 then 1 else 2
  let shift := exponent - 2
  { low := (4 * significand - gap) <<< shift.toNat
    value := (4 * significand) <<< shift.toNat
    high := (4 * significand + 2) <<< shift.toNat
    scale := 1 <<< (-shift).toNat
    closed := significand % 2 == 0 }

/-- The least `point ≥ -fuel` with `value < scale * 10 ^ point`, for a positive value below `scale`
times ten to its digit count. -/
def pointBelowOne (value scale : Nat) : Nat → Nat
  | 0 => 0
  | fuel + 1 => if value * 10 < scale then pointBelowOne (value * 10) scale fuel + 1 else 0

/-- The place of the decimal point: the number lies between `10 ^ (point - 1)` and `10 ^ point`. -/
def Interval.point (interval : Interval) : Int :=
  if interval.scale ≤ interval.value then
    (Nat.toDigits 10 (interval.value / interval.scale)).length
  else -(pointBelowOne interval.value interval.scale 400 : Nat)

def Interval.holds (interval : Interval) (digits : Nat) (place : Int) : Bool :=
  let up := Nat.pow 10 place.toNat
  let down := Nat.pow 10 (-place).toNat
  let candidate := digits * up * interval.scale
  if interval.closed then interval.low * down ≤ candidate && candidate ≤ interval.high * down
  else interval.low * down < candidate && candidate < interval.high * down

/-- The candidate with `count` digits, if one of the two neighbours of the number on that grid
lies in the interval: the nearer one, of two equally near ones the even one. -/
def Interval.candidate? (interval : Interval) (point : Int) (count : Nat) : Option Nat :=
  let place := point - count
  let up := Nat.pow 10 place.toNat
  let down := Nat.pow 10 (-place).toNat
  let below := interval.value * down / (up * interval.scale)
  match interval.holds below place, interval.holds (below + 1) place with
  | true, true => some (roundDiv (interval.value * down) (up * interval.scale))
  | true, false => some below
  | false, true => some (below + 1)
  | false, false => none

def shortest (significand : Nat) (exponent : Int) : Digits :=
  let interval := Interval.around significand exponent
  let point := interval.point
  match (List.range 17).findSome? fun count =>
      (interval.candidate? point (count + 1)).map (·, count + 1) with
  | some (digits, count) =>
    let written := Nat.toDigits 10 digits
    Digits.stripped ⟨written, point + (written.length - count)⟩
  | none => ⟨Nat.toDigits 10 significand, exponent⟩

/-- Numbers are written with a point as long as it stands at most this far to the left of the
first digit, and at most this far to its right. -/
def pointRange : Int × Int := (-3, 16)

/-- The shortest digits, laid out with a fraction or with a power of ten. -/
def Digits.plain (number : Digits) (keepsPoint : Bool) : List Char :=
  if pointRange.1 ≤ number.point && number.point ≤ pointRange.2 then number.positional 1 keepsPoint
  else number.scientific 0 keepsPoint

/-- The digits of `significand * 2 ^ exponent` that its text shows. -/
def plainDigits (significand : Nat) (exponent : Int) : Digits :=
  if significand = 0 then ⟨['0'], 1⟩ else shortest significand exponent

def Double.text : Double → String
  | .nan => "nan"
  | .infinite negative => if negative then "-inf" else "inf"
  | .finite negative significand exponent =>
    let body := (plainDigits significand exponent).plain false
    String.ofList (if negative then '-' :: body else body)

def floatText (x : Float) : String :=
  (Double.ofFloat x).text

end DiskFixture.Decimal
