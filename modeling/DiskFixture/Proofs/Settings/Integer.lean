import Mathlib.Algebra.Order.Field.Power
import Mathlib.Data.Rat.Floor
import DiskFixture.Settings

/-!
Settings as integers. Main statements: a finite float stands for its value cut toward zero, and a
setting is read as the integer that it stands for, or as the default if it stands for none; only an
infinite float cannot be asked.
-/

namespace DiskFixture

namespace Decimal.Double

/-- The exact value of a double that has one. -/
def value? : Double → Option ℚ
  | .finite negative significand exponent =>
    some (if negative then -(significand * 2 ^ exponent) else significand * 2 ^ exponent)
  | _ => none

/-- The integral part of a rational number. -/
def towardZero (x : ℚ) : Int := if x < 0 then ⌈x⌉ else ⌊x⌋

theorem floor_scaled (significand : Nat) (exponent : Int) :
    ⌊(significand * 2 ^ exponent : ℚ)⌋ = ((if 0 ≤ exponent then significand <<< exponent.toNat
      else significand >>> (-exponent).toNat : Nat) : Int) := by
  split
  · next nonneg =>
    lift exponent to Nat using nonneg
    rw [zpow_natCast, Int.toNat_natCast, Nat.shiftLeft_eq]
    exact_mod_cast Int.floor_natCast (R := ℚ) (significand * 2 ^ exponent)
  · next negative =>
    obtain ⟨places, rfl⟩ : ∃ places : Nat, exponent = -places := ⟨(-exponent).toNat, by omega⟩
    rw [zpow_neg, zpow_natCast, neg_neg, Int.toNat_natCast, Nat.shiftRight_eq_div_pow,
      ← div_eq_mul_inv]
    exact_mod_cast Rat.floor_natCast_div_natCast significand (2 ^ places)

theorem truncate?_eq (double : Double) : double.truncate? = double.value?.map towardZero := by
  cases double with
  | nan => rfl
  | infinite negative => rfl
  | finite negative significand exponent =>
    have size : (0 : ℚ) ≤ significand * 2 ^ exponent := by positivity
    have floor := floor_scaled significand exponent
    simp only [truncate?, value?, Option.map_some, Option.some.injEq, ← floor, towardZero]
    cases negative with
    | false => simp [size.not_gt]
    | true =>
      rcases size.eq_or_lt with zero | positive
      · simp [← zero]
      · simp [positive, Int.ceil_neg]

end Decimal.Double

namespace Value

/-- The integer that a value stands for. -/
inductive StandsFor : Value → Int → Prop
  | bool (holds : Bool) : StandsFor (.bool holds) (if holds then 1 else 0)
  | int (number : Int) : StandsFor (.int number) number
  | float {x : Float} {exact : ℚ} (exactly : (Decimal.Double.ofFloat x).value? = some exact) :
    StandsFor (.float x) (Decimal.Double.towardZero exact)
  | text {content : String} {number : Int} (reads : Text.readInteger 10 content = .ok number) :
    StandsFor (.text content) number

def IsInfinite (value : Value) : Prop :=
  ∃ x negative, value = .float x ∧ Decimal.Double.ofFloat x = .infinite negative

theorem toInteger_float (x : Float) : (Value.float x).toInteger =
    match Decimal.Double.ofFloat x with
    | .infinite _ => .infinite
    | double =>
      match double.value? with
      | some exact => .integer (Decimal.Double.towardZero exact)
      | none => .absent := by
  rw [toInteger]
  cases Decimal.Double.ofFloat x <;> simp [Decimal.Double.truncate?_eq, Decimal.Double.value?]

theorem toInteger_eq_infinite_iff {value : Value} :
    value.toInteger = .infinite ↔ value.IsInfinite := by
  cases value with
  | float x =>
    rw [toInteger_float]
    cases double : Decimal.Double.ofFloat x <;>
      simp [IsInfinite, double, Decimal.Double.value?]
  | text content =>
    simp only [toInteger, IsInfinite]
    split <;> simp
  | _ => simp [toInteger, IsInfinite]

theorem toInteger_eq_integer_iff {value : Value} {number : Int} :
    value.toInteger = .integer number ↔ value.StandsFor number := by
  constructor
  · intro reads
    cases value with
    | bool holds =>
      cases reads
      exact .bool holds
    | int =>
      cases reads
      exact .int number
    | float x =>
      rw [toInteger_float] at reads
      split at reads
      · cases reads
      split at reads
      · next exact exactly =>
        cases reads
        exact .float exactly
      · cases reads
    | text content =>
      simp only [toInteger] at reads
      split at reads
      · next held =>
        cases reads
        exact .text held
      · cases reads
    | _ => cases reads
  · intro stands
    cases stands with
    | bool holds => rfl
    | int => rfl
    | float exactly =>
      rw [toInteger_float]
      split
      · next double =>
        rw [double] at exactly
        cases exactly
      · rw [exactly]
    | text reads => simp only [toInteger, reads]

end Value

namespace Settings

variable (settings : Fields) (key : String) (otherwise : Int)

/-- What a setting is read as: it stands for the integer, or for none and the integer is the
default. -/
def ReadsAs (number : Int) : Prop :=
  let value := lookup settings key (.int otherwise)
  value.StandsFor number ∨ (∀ other, ¬ value.StandsFor other) ∧ number = otherwise

theorem integer_of_isInfinite (infinite : (lookup settings key (.int otherwise)).IsInfinite) :
    integer settings key (.int otherwise) = .error .infiniteInteger := by
  rw [integer, Value.toInteger_eq_infinite_iff.2 infinite]

theorem integer_of_not_isInfinite
    (finite : ¬ (lookup settings key (.int otherwise)).IsInfinite) :
    ∃ number, integer settings key (.int otherwise) = .ok (.int number) ∧
      ReadsAs settings key otherwise number := by
  rw [integer]
  cases reading : (lookup settings key (.int otherwise)).toInteger with
  | integer number => exact ⟨number, rfl, .inl (Value.toInteger_eq_integer_iff.1 reading)⟩
  | absent =>
    refine ⟨otherwise, rfl, .inr ⟨fun other stands => ?_, rfl⟩⟩
    rw [Value.toInteger_eq_integer_iff.2 stands] at reading
    cases reading
  | infinite => exact absurd (Value.toInteger_eq_infinite_iff.1 reading) finite

theorem isOk_bufferSize_iff : (bufferSize settings).isOk =
    (integer settings "io_buffer_size" (.int bufferDefault)).isOk := by
  unfold bufferSize
  split <;> next read => rw [read]; rfl

theorem bufferSize_pos {settings : Fields} {buffer : Nat}
    (sized : bufferSize settings = .ok buffer) :
    0 < buffer := by
  unfold bufferSize at sized
  split at sized
  · cases sized
  · next size read =>
    rw [← Except.ok.inj sized]
    split
    · decide
    · omega
  · rw [← Except.ok.inj sized]
    decide

end Settings

end DiskFixture
