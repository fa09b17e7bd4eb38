import DiskFixture.Decimal.RoundDiv

/-!
Doubles as exact numbers. A finite double is taken apart into sign, significand and exponent, and a
quotient of naturals is turned into the nearest double. All arithmetic in between is on naturals.
-/

namespace DiskFixture.Decimal

/-- What a double stands for: a finite one is `significand * 2 ^ exponent` with a sign. -/
inductive Double where
  | nan
  | infinite (negative : Bool)
  | finite (negative : Bool) (significand : Nat) (exponent : Int)
  deriving DecidableEq, Repr

/-- The bit that is not stored: the leading one of a significand. -/
def hiddenBit : Nat := 1 <<< 52

/-- The exact meaning of `x`. -/
def Double.ofFloat (x : Float) : Double :=
  let bits := x.toBits.toNat
  let negative := bits >>> 63 == 1
  let field : Nat := (bits >>> 52) % 2048
  let fraction : Nat := bits % hiddenBit
  if field = 2047 then (if fraction = 0 then .infinite negative else .nan)
  else if field = 0 then .finite negative fraction (-1074)
  else .finite negative (hiddenBit + fraction) ((field : Int) - 1075)

/-- The exponent of the last binary place that the double nearest to `num / den` can keep. -/
def lastPlace (num den : Nat) : Int :=
  let guess : Int := (num.log2 : Int) - den.log2 - 52
  let tooCoarse :=
    if 0 ≤ guess then num < hiddenBit * (den <<< guess.toNat)
    else num <<< (-guess).toNat < hiddenBit * den
  max (if tooCoarse then guess - 1 else guess) (-1074)

/-- The double nearest to `num / den`, ties to the even significand; infinity beyond the range. -/
def nearest (negative : Bool) (num den : Nat) : Float :=
  let place := lastPlace num den
  let significand :=
    if 0 ≤ place then roundDiv num (den <<< place.toNat)
    else roundDiv (num <<< (-place).toNat) den
  let magnitude := min ((place + 1074).toNat * hiddenBit + significand) (2047 * hiddenBit)
  let bits := if num = 0 then 0 else magnitude
  Float.ofBits (UInt64.ofNat (if negative then 1 <<< 63 + bits else bits))

/-- The double nearest to `digits * 10 ^ exponent`. Exponents far outside the range of doubles are
answered without computing the power. -/
def nearestScaled (negative : Bool) (digits : Nat) (exponent : Int) : Float :=
  let width : Int := (Nat.toDigits 10 digits).length
  if digits = 0 || width + exponent < -400 then nearest negative 0 1
  else if 400 < width + exponent then nearest negative (1 <<< 1024) 1
  else if 0 ≤ exponent then nearest negative (digits * Nat.pow 10 exponent.toNat) 1
  else nearest negative digits (Nat.pow 10 (-exponent).toNat)

/-- `x` cut to an integer; none for infinities and for what is not a number. -/
def Double.truncate? : Double → Option Int
  | .finite negative significand exponent =>
    let magnitude :=
      if 0 ≤ exponent then significand <<< exponent.toNat
      else significand >>> (-exponent).toNat
    some (if negative then -(magnitude : Int) else magnitude)
  | _ => none

/-- `significand * 2 ^ exponent` as the nearest multiple of the last of `places` decimals, ties to
the even one. -/
def decimalUnits (places significand : Nat) (exponent : Int) : Nat :=
  let scaled := significand * Nat.pow 10 places
  if 0 ≤ exponent then scaled <<< exponent.toNat
  else roundDiv scaled (1 <<< (-exponent).toNat)

/-- `x` rounded to `places` decimals: the nearest such decimal, ties to the even last digit, and
then the double nearest to it. -/
def roundPlaces (places : Nat) (x : Float) : Float :=
  match Double.ofFloat x with
  | .finite negative significand exponent =>
    nearest negative (decimalUnits places significand exponent) (Nat.pow 10 places)
  | _ => x

end DiskFixture.Decimal
