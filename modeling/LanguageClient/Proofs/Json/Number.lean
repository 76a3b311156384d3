import Mathlib.Algebra.Group.Nat.Defs
import LanguageClient.Json.Shape

/-! Integers up to 2^53 keep their value as binary64 numbers. A significand of exactly 53
bits holds such an integer, so that rounding changes nothing and reading gives it back.
-/

namespace LanguageClient.Json.Number

/-- A quotient without remainder is not rounded. -/
theorem roundQuotient_mul (quotient denominator : Nat) (positive : 0 < denominator)
    : roundQuotient (quotient * denominator) denominator = quotient := by
  simp [roundQuotient, Nat.mul_div_cancel _ positive, positive]

/-- A sign and a magnitude below the sign bit are kept by the encoding. -/
theorem bits_ofMagnitude (negative : Bool) {magnitude : Nat} (small : magnitude < 2 ^ 63)
    : (ofMagnitude negative magnitude).bits.toNat
      = (if negative then 2 ^ 63 else 0) + magnitude := by
  rw [ofMagnitude, UInt64.toNat_ofNat', Nat.pow_eq]
  apply Nat.mod_eq_of_lt
  split <;> omega

theorem magnitude_ofMagnitude (negative : Bool) {magnitude : Nat} (small : magnitude < 2 ^ 63)
    : (ofMagnitude negative magnitude).magnitude = magnitude := by
  rw [Number.magnitude, bits_ofMagnitude negative small, Nat.pow_eq]
  split <;> omega

theorem isNegative_ofMagnitude (negative : Bool) {magnitude : Nat} (small : magnitude < 2 ^ 63)
    : (ofMagnitude negative magnitude).isNegative = negative := by
  rw [isNegative, bits_ofMagnitude negative small, Nat.pow_eq]
  cases negative with
  | false => exact decide_eq_false (by simpa using small)
  | true => exact decide_eq_true (Nat.le_add_right _ _)

/-- A significand of 53 bits and an order make up a finite number of that many steps. -/
theorem steps_ofMagnitude {order significand : Nat} (low : 2 ^ 52 ≤ significand)
    (high : significand < 2 ^ 53) (bounded : order < 2000)
    : (ofMagnitude false (order * 2 ^ 52 + significand)).steps
      = significand * 2 ^ order := by
  have small : order * 2 ^ 52 + significand < 2 ^ 63 := by omega
  have exponent : (order * 2 ^ 52 + significand) / 2 ^ 52 = order + 1 := by omega
  have fraction : (order * 2 ^ 52 + significand) % 2 ^ 52 = significand - 2 ^ 52 := by omega
  have restored : 2 ^ 52 + (significand - 2 ^ 52) = significand := by omega
  unfold steps
  rw [magnitude_ofMagnitude false small]
  simp only [Nat.pow_eq, exponent, fraction, restored, Nat.add_eq_zero_iff,
    Nat.add_one_sub_one]
  simp

/-- A multiple of a power of two has its logarithm raised by the exponent. -/
theorem log2_mul_two_pow {value : Nat} (positive : 0 < value) (exponent : Nat)
    : (value * 2 ^ exponent).log2 = value.log2 + exponent := by
  induction exponent with
  | zero => simp
  | succ exponent ih =>
      have nonzero : value * 2 ^ exponent ≠ 0 :=
        Nat.mul_ne_zero (by omega) (Nat.ne_of_gt (Nat.two_pow_pos exponent))
      rw [Nat.pow_succ, ← Nat.mul_assoc, Nat.mul_comm _ 2, Nat.log2_two_mul nonzero, ih,
        Nat.add_assoc]

/-- A positive integer up to a power of two splits, at any scale, into a significand of
exactly that many bits and a power of two. Only the largest integer, which is a power of
two itself, has to be shifted down.
-/
theorem exists_significand {value bits : Nat} (scale : Nat) (positive : 0 < value)
    (small : value ≤ 2 ^ (bits + 1)) (room : bits ≤ scale)
    : ∃ significand,
        2 ^ bits ≤ significand
        ∧ significand < 2 ^ (bits + 1)
        ∧ significand * 2 ^ (value.log2 + scale - bits) = value * 2 ^ scale := by
  have lower : 2 ^ value.log2 ≤ value := Nat.log2_self_le (by omega)
  have upper : value < 2 ^ (value.log2 + 1) := Nat.lt_log2_self
  by_cases fits : value.log2 ≤ bits
  · refine ⟨value * 2 ^ (bits - value.log2), ?_, ?_, ?_⟩
    · calc
        2 ^ bits = 2 ^ value.log2 * 2 ^ (bits - value.log2) := by
          rw [← Nat.pow_add, Nat.add_sub_cancel' fits]
        _ ≤ value * 2 ^ (bits - value.log2) := Nat.mul_le_mul_right _ lower
    · calc
        value * 2 ^ (bits - value.log2)
            < 2 ^ (value.log2 + 1) * 2 ^ (bits - value.log2) :=
          Nat.mul_lt_mul_of_pos_right upper (Nat.two_pow_pos _)
        _ = 2 ^ (bits + 1) := by
          rw [← Nat.pow_add]
          congr 1
          omega
    · rw [Nat.mul_assoc, ← Nat.pow_add]
      congr 2
      omega
  · have above : 2 ^ (bits + 1) ≤ value :=
      Nat.le_trans (Nat.pow_le_pow_right Nat.two_pos (by omega)) lower
    obtain rfl : value = 2 ^ (bits + 1) := Nat.le_antisymm small above
    refine ⟨2 ^ bits, Nat.le_refl _, Nat.pow_lt_pow_succ (by decide), ?_⟩
    rw [Nat.log2_two_pow, ← Nat.pow_add, ← Nat.pow_add]
    congr 1
    omega

/-- A whole number of steps that is a significand of 53 bits times a power of two is
encoded as it is, at whatever scale the quotient is given.
-/
theorem magnitudeOfQuotient_exact {steps significand scale : Nat}
    (low : 2 ^ 52 ≤ significand) (high : significand < 2 ^ 53) (large : 2 ^ 53 ≤ steps)
    (bounded : steps.log2 < 2098) (exact : significand * 2 ^ (steps.log2 - 52) = steps)
    (positive : 0 < scale)
    : magnitudeOfQuotient (steps * scale) scale
      = (steps.log2 - 52) * 2 ^ 52 + significand := by
  have rounded
      : roundQuotient (steps * scale) (scale * 2 ^ (steps.log2 - 52)) = significand := by
    have unrounded := roundQuotient_mul significand (scale * 2 ^ (steps.log2 - 52))
      (Nat.mul_pos positive (Nat.two_pow_pos _))
    rwa [Nat.mul_left_comm, exact, Nat.mul_comm scale] at unrounded
  unfold magnitudeOfQuotient infinityMagnitude
  simp only [Nat.pow_eq, Nat.mul_div_cancel _ positive, if_neg (Nat.not_lt.mpr large), rounded]
  omega

theorem ofNat_zero : ofNat 0 = ofMagnitude false 0 := by
  simp [ofNat, ofQuotient, magnitudeOfQuotient, roundQuotient]

/-- The steps of one as a power of two, with the exponent kept apart: arithmetic on the
power itself would write its digits out.
-/
theorem stepsPerUnit_eq_two_pow : ∃ scale, scale = 1074 ∧ stepsPerUnit = 2 ^ scale := by
  refine ⟨_, rfl, ?_⟩
  unfold stepsPerUnit
  exact Nat.pow_eq

theorem stepsPerUnit_pos : 0 < stepsPerUnit := by
  obtain ⟨scale, _, unit⟩ := stepsPerUnit_eq_two_pow
  exact unit ▸ Nat.two_pow_pos scale

/-- An integer up to 2^53 is a finite number of exactly its own steps. -/
theorem ofNat_steps {value : Nat} (small : value ≤ 2 ^ 53)
    : (ofNat value).steps = value * stepsPerUnit
      ∧ (ofNat value).isFinite = true
      ∧ (ofNat value).isNegative = false := by
  rcases Nat.eq_zero_or_pos value with rfl | positive
  · rw [ofNat_zero, Nat.zero_mul]
    decide
  obtain ⟨scale, scaleEq, unit⟩ := stepsPerUnit_eq_two_pow
  obtain ⟨significand, low, high, exact⟩ :=
    exists_significand scale positive small (by omega)
  have log : (value * 2 ^ scale).log2 = value.log2 + scale := log2_mul_two_pow positive scale
  have logSmall : value.log2 < 54 := (Nat.log2_lt (by omega)).mpr (by omega)
  have large : 2 ^ 53 ≤ value * 2 ^ scale :=
    Nat.le_trans (Nat.pow_le_pow_right Nat.two_pos (by omega))
      (Nat.le_mul_of_pos_left _ positive)
  have encoded :=
    magnitudeOfQuotient_exact low high large (by omega) (by rw [log, exact]) Nat.one_pos
  rw [log, Nat.mul_one] at encoded
  have magnitude
      : ofNat value
        = ofMagnitude false ((value.log2 + scale - 52) * 2 ^ 52 + significand) := by
    rw [ofNat, ofQuotient, unit, encoded]
  have finite : (value.log2 + scale - 52) * 2 ^ 52 + significand < infinityMagnitude := by
    unfold infinityMagnitude
    simp only [Nat.pow_eq]
    omega
  have encodable : (value.log2 + scale - 52) * 2 ^ 52 + significand < 2 ^ 63 := by omega
  refine ⟨?_, ?_, ?_⟩
  · rw [magnitude, steps_ofMagnitude low high (by omega), exact, unit]
  · rw [magnitude, isFinite, magnitude_ofMagnitude false encodable]
    exact decide_eq_true finite
  · rw [magnitude, isNegative_ofMagnitude false encodable]

/-- An integer up to 2^53 is read back from its number. -/
theorem toNat?_ofNat {value : Nat} (small : value ≤ 2 ^ 53)
    : (ofNat value).toNat? = some value := by
  obtain ⟨steps, finite, sign⟩ := ofNat_steps small
  have whole : (ofNat value).wholePart = value := by
    rw [wholePart, steps, Nat.mul_div_cancel _ stepsPerUnit_pos]
  have integral : (ofNat value).isIntegral = true := by
    rw [isIntegral, finite, steps, Nat.mul_mod_left]
    rfl
  have within : value ≤ largestExactInteger := small
  simp [toNat?, integral, whole, within, sign]

end Number

/-- An integer up to 2^53 is read back from its document value. -/
theorem Value.asNat?_ofNat {value : Nat} (small : value ≤ 2 ^ 53)
    : (Value.ofNat value).asNat? = some value := by
  -- Unfolding by evaluation would count up to 2^53 one by one.
  have view : (Value.ofNat value).asNumber? = some (Number.ofNat value) := rfl
  rw [asNat?, view, Option.bind_some, Number.toNat?_ofNat small]

theorem Value.expectNat_ofNat {value : Nat} (small : value ≤ 2 ^ 53)
    : (Value.ofNat value).expectNat = .ok value := by
  rw [expectNat, expect, asNat?_ofNat small]

end LanguageClient.Json
