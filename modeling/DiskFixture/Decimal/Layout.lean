/-!
Writing digits down. A positive number is given by its decimal digits and the place of the point:
`digits` and `point` stand for `0.digits * 10 ^ point`. It is written with the point at its place,
or with the point after the first digit and a power of ten behind.
-/

namespace DiskFixture.Decimal

structure Digits where
  digits : List Char
  point : Int
  deriving DecidableEq, Repr

def padRight (width : Nat) (cs : List Char) : List Char :=
  cs ++ List.replicate (width - cs.length) '0'

def padLeft (width : Nat) (cs : List Char) : List Char :=
  List.replicate (width - cs.length) '0' ++ cs

namespace Digits

def isZero (number : Digits) : Bool :=
  number.digits.all (· == '0')

def stripped (number : Digits) : Digits :=
  { number with digits := (number.digits.reverse.dropWhile (· == '0')).reverse }

/-- The number with its point in place and at least `places` digits behind it. A point that no digit
follows is written only with `keepsPoint`. -/
def positional (number : Digits) (places : Nat) (keepsPoint : Bool) : List Char :=
  let before := number.point.toNat
  let whole := if before = 0 then ['0'] else padRight before (number.digits.take before)
  let gap := List.replicate (-number.point).toNat '0'
  let fraction := padRight places (gap ++ number.digits.drop before)
  whole ++ if fraction.isEmpty && !keepsPoint then [] else '.' :: fraction

/-- The number with the point after its first digit, at least `places` digits behind it, and a power
of ten of at least two digits. -/
def scientific (number : Digits) (places : Nat) (keepsPoint : Bool) : List Char :=
  let power := number.point - 1
  positional { number with point := 1 } places keepsPoint
    ++ 'e' :: (if power < 0 then '-' else '+') :: padLeft 2 (Nat.toDigits 10 power.natAbs)

example : positional ⟨['1', '5'], 0⟩ 1 false = ['0', '.', '1', '5'] := by decide
example : positional ⟨['1'], 3⟩ 1 false = ['1', '0', '0', '.', '0'] := by decide
example : scientific ⟨['1', '5'], -4⟩ 0 false = ['1', '.', '5', 'e', '-', '0', '5'] := by
  decide +kernel

end Digits

end DiskFixture.Decimal
