import DiskFixture.Digest.Sha256

/-!
Digests as text. Main statement: the hexadecimal text of a digest determines the digest.
-/

namespace DiskFixture

namespace Text

theorem hexDigit_inj {a b : Nat} (small : a < 16) (other : b < 16)
    (same : hexDigit a = hexDigit b) : a = b := by
  have read := alphanumericValue?_hexDigit small
  rw [same, alphanumericValue?_hexDigit other] at read
  exact (Option.some.inj read).symm

/-- Digits of one width are the same only if the numbers are. -/
theorem hexDigits_inj {width a b : Nat} (small : a < Nat.pow 16 width)
    (other : b < Nat.pow 16 width)
    (same : hexDigits width a = hexDigits width b) : a = b := by
  induction width generalizing a b with
  | zero =>
    have none : Nat.pow 16 0 = 1 := rfl
    omega
  | succ width ih =>
    have wider : Nat.pow 16 (width + 1) = Nat.pow 16 width * 16 := rfl
    rw [wider] at small other
    obtain ⟨front, last⟩ := List.append_inj same (by simp)
    have high : a / 16 = b / 16 := ih (by omega) (by omega) front
    have low : a % 16 = b % 16 :=
      hexDigit_inj (Nat.mod_lt a (by decide)) (Nat.mod_lt b (by decide)) (List.cons.inj last).1
    omega

theorem hexDigits_word_inj {a b : UInt32}
    (same : hexDigits 8 a.toNat = hexDigits 8 b.toNat) : a = b := by
  have range (word : UInt32) : word.toNat < Nat.pow 16 8 := word.toNat_lt
  exact UInt32.toNat_inj.1 (hexDigits_inj (range a) (range b) same)

end Text

namespace Sha256

/-- The eight words in the order in which they are written. -/
def Words.list (w : Words) : List UInt32 := [w.a, w.b, w.c, w.d, w.e, w.f, w.g, w.h]

/-- Words of eight digits each, written one after the other, can be told apart. -/
theorem eq_of_flatMap_hexDigits {words others : List UInt32} (length : words.length = others.length)
    (same : words.flatMap (fun word => Text.hexDigits 8 word.toNat)
      = others.flatMap fun word => Text.hexDigits 8 word.toNat) : words = others := by
  induction words generalizing others with
  | nil => exact (List.eq_nil_of_length_eq_zero length.symm).symm
  | cons word words ih =>
    cases others with
    | nil => cases length
    | cons other others =>
      obtain ⟨first, rest⟩ := List.append_inj same (by simp)
      rw [Text.hexDigits_word_inj first, ih (Nat.succ.inj length) rest]

theorem Words.hex_inj {w v : Words} : w.hex = v.hex ↔ w = v := by
  constructor
  · intro same
    have digits := String.ofList_injective same
    have list : w.list = v.list := eq_of_flatMap_hexDigits rfl digits
    cases w
    cases v
    simpa [Words.list] using list
  · exact congrArg _

end Sha256

end DiskFixture
