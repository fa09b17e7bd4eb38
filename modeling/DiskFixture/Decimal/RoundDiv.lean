/-!
Rounding a quotient of naturals to the nearest natural, ties going to the even neighbour. Main
statement: the result is never more than half a unit away.
-/

namespace DiskFixture.Decimal

/-- The natural nearest to `num / den`, the even one of two that are equally near. -/
def roundDiv (num den : Nat) : Nat :=
  let whole := num / den
  let rest := 2 * (num % den)
  if rest < den then whole
  else if den < rest then whole + 1
  else whole + whole % 2

theorem roundDiv_error (num den : Nat) (positive : 0 < den) :
    2 * num ≤ 2 * (roundDiv num den * den) + den ∧
      2 * (roundDiv num den * den) ≤ 2 * num + den := by
  have parts : den * (num / den) + num % den = num := Nat.div_add_mod num den
  have bound : num % den < den := Nat.mod_lt num positive
  rw [Nat.mul_comm den] at parts
  simp only [roundDiv]
  generalize num / den = whole at *
  generalize num % den = rest at *
  split
  · omega
  · split
    · rw [Nat.add_mul]; omega
    · rcases Nat.mod_two_eq_zero_or_one whole with even | odd
      · simp only [even, Nat.add_zero]; omega
      · rw [odd, Nat.add_mul]; omega

example : [roundDiv 5 2, roundDiv 7 2, roundDiv 9 4] = [2, 4, 2] := by decide

end DiskFixture.Decimal
