import LanguageClient.Proofs.Json.Number
import LanguageClient.Proofs.Json.NumberTokens

/-! Every finite number reads back from its spelling. A decimal that has been found by search
reads back because the search asks for that, and the exact decimal, which is tried last, because
a quotient without remainder is not rounded.
-/

namespace LanguageClient.Json

-----------------------------------------------------------------------------------------
-- Decimals as they are written
-----------------------------------------------------------------------------------------

namespace Decimal

/-- The digits of a decimal, with zeros in front that fill the places behind the point and one
before it.
-/
def padded (decimal : Decimal) : List Char :=
  List.replicate ((-decimal.exponent).toNat + 1 - (digits decimal.coefficient).length) '0'
    ++ digits decimal.coefficient

/-- The parts of a decimal as it is written, which has no exponent. -/
def token (decimal : Decimal) : NumberToken where
  sign := if decimal.negative then ['-'] else []
  whole :=
    decimal.padded.take (decimal.padded.length - (-decimal.exponent).toNat)
      ++ List.replicate decimal.exponent.toNat '0'
  point :=
    if (decimal.padded.drop (decimal.padded.length - (-decimal.exponent).toNat)).isEmpty then []
    else ['.']
  fraction := decimal.padded.drop (decimal.padded.length - (-decimal.exponent).toNat)
  exponentMark := []
  exponentSign := []
  exponent := []

theorem chars_token (decimal : Decimal) : decimal.token.chars = decimal.chars := by
  have pointed (fraction : List Char)
      : (if fraction.isEmpty then [] else ['.']) ++ fraction
        = if fraction.isEmpty then [] else '.' :: fraction := by
    cases fraction <;> rfl
  unfold NumberToken.chars token chars padded
  simp only [List.append_nil, List.append_assoc, pointed]

/-- There is a digit before the point, and as many behind it as there are places. -/
theorem length_padded (decimal : Decimal)
    : (-decimal.exponent).toNat + 1 ≤ decimal.padded.length := by
  rw [padded, List.length_append, List.length_replicate]
  omega

theorem padded_isDigit (decimal : Decimal)
    : ∀ char ∈ decimal.padded, char ∈ decimalDigits := by
  intro char member
  rcases List.mem_append.mp member with zero | digit
  · rw [(List.mem_replicate.mp zero).2]
    decide
  · have isDigit := Nat.isDigit_of_mem_toDigits (by decide) (by decide) digit
    rw [← isDigit_iff]
    simpa [Char.isDigit, Decimal.isDigit, Char.le_def, UInt32.le_iff_toNat_le] using isDigit

theorem token_written (decimal : Decimal) : decimal.token.Written where
  sign := by
    unfold token
    split
    · exact Or.inr rfl
    · exact Or.inl rfl
  whole := by
    have long := decimal.length_padded
    refine ⟨?_, fun char member => ?_⟩
    · refine List.append_ne_nil_of_left_ne_nil (List.ne_nil_of_length_pos ?_) _
      rw [List.length_take]
      omega
    · rcases List.mem_append.mp member with digit | zero
      · exact decimal.padded_isDigit char (List.mem_of_mem_take digit)
      · rw [(List.mem_replicate.mp zero).2]
        decide
  fraction := by
    unfold token WrittenFraction
    dsimp only
    split
    · rename_i none
      exact Or.inl ⟨rfl, List.isEmpty_iff.mp none⟩
    · rename_i some
      refine Or.inr ⟨rfl, fun none => some (List.isEmpty_iff.mpr none), fun char member => ?_⟩
      exact decimal.padded_isDigit char (List.mem_of_mem_drop member)
  exponent := Or.inl ⟨rfl, rfl, rfl⟩

/-- A number other than zero is written without zeros in front, by induction on its digits. -/
theorem head?_digits {value : Nat} (positive : value ≠ 0)
    : (digits value).head? ≠ some '0' := by
  induction value using Nat.strongRecOn with
  | ind value ih =>
      by_cases single : value < 10
      · have first : ∀ value < 10, value ≠ 0 → Nat.digitChar value ≠ '0' := by decide
        simpa [digits, Nat.toDigits_of_lt_base single] using first value single positive
      · have before := ih (value / 10) (by omega) (by omega)
        obtain ⟨first, rest, starts⟩ :=
          List.exists_cons_of_ne_nil (Nat.toDigits_ne_nil (b := 10) (n := value / 10))
        rw [digits, starts] at before
        rw [digits, Nat.toDigits_of_base_le (by decide) (by omega), starts]
        exact before

/-- A zero before other digits is not written. -/
theorem token_leading {decimal : Decimal}
    (plain : decimal.coefficient ≠ 0 ∨ decimal.exponent ≤ 0)
    (zero : decimal.token.whole.head? = some '0')
    : decimal.token.whole = ['0'] := by
  have some : (digits decimal.coefficient).length ≠ 0 := fun none =>
    Nat.toDigits_ne_nil (List.length_eq_zero_iff.mp none)
  by_cases short : (digits decimal.coefficient).length < (-decimal.exponent).toNat + 1
  · have fraction : decimal.exponent.toNat = 0 := by omega
    obtain ⟨zeros, count⟩ :
        ∃ zeros, (-decimal.exponent).toNat + 1 - (digits decimal.coefficient).length = zeros + 1 :=
      ⟨(-decimal.exponent).toNat - (digits decimal.coefficient).length, by omega⟩
    have length : decimal.padded.length - (-decimal.exponent).toNat = 1 := by
      rw [padded, List.length_append, List.length_replicate]
      omega
    have first : decimal.padded.take 1 = ['0'] := by simp [padded, count, List.replicate_succ]
    simp [token, length, fraction, first]
  · have padding : (-decimal.exponent).toNat + 1 - (digits decimal.coefficient).length = 0 := by
      omega
    have unpadded : decimal.padded = digits decimal.coefficient := by simp [padded, padding]
    by_cases none : decimal.coefficient = 0
    · have integral := plain.resolve_left (not_not_intro none)
      have digit : digits decimal.coefficient = ['0'] := by rw [none]; rfl
      rw [digit, List.length_singleton] at short
      have places : (-decimal.exponent).toNat = 0 := by omega
      simp [token, unpadded, digit, places, Int.toNat_of_nonpos integral]
    · obtain ⟨first, rest, starts⟩ := List.exists_cons_of_length_pos (Nat.pos_of_ne_zero some)
      obtain ⟨count, kept⟩ :
          ∃ count, decimal.padded.length - (-decimal.exponent).toNat = count + 1 :=
        ⟨decimal.padded.length - (-decimal.exponent).toNat - 1, by rw [unpadded]; omega⟩
      have taken
          : decimal.padded.take (decimal.padded.length - (-decimal.exponent).toNat)
            = first :: rest.take count := by
        rw [kept, unpadded, starts, List.take_succ_cons]
      have head := head?_digits none
      simp only [starts, List.head?_cons] at head
      simp only [token, taken, List.cons_append, List.head?_cons] at zero
      exact absurd zero head

theorem digitsValue_padded (decimal : Decimal)
    : digitsValue decimal.padded = decimal.coefficient := by
  change Nat.ofDigitChars 10 (_ ++ Nat.toDigits 10 decimal.coefficient) 0 = decimal.coefficient
  rw [Nat.ofDigitChars_append, Nat.ofDigitChars_replicate_zero, Nat.mul_zero,
    Nat.ofDigitChars_ten_toDigits]

/-- What is written spells the digits of the decimal, with zeros behind them for a positive
exponent.
-/
theorem toDecimal_token (decimal : Decimal)
    : decimal.token.toDecimal
      = ⟨
          decimal.negative,
          decimal.coefficient * 10 ^ decimal.exponent.toNat,
          -(-decimal.exponent).toNat
        ⟩ := by
  have long := decimal.length_padded
  have places : decimal.token.fraction.length = (-decimal.exponent).toNat := by
    unfold token
    rw [List.length_drop]
    omega
  have value
      : digitsValue (decimal.token.whole ++ decimal.token.fraction)
        = decimal.coefficient * 10 ^ decimal.exponent.toNat := by
    unfold token
    dsimp only
    by_cases fraction : decimal.exponent ≤ 0
    · rw [Int.toNat_of_nonpos fraction, List.replicate_zero, List.append_nil,
        List.take_append_drop, digitsValue_padded, Nat.pow_zero, Nat.mul_one]
    · rw [Int.toNat_of_nonpos (show -decimal.exponent ≤ 0 by omega), Nat.sub_zero,
        List.take_length, List.drop_length, List.append_nil]
      change Nat.ofDigitChars 10 _ 0 = _
      rw [Nat.ofDigitChars_append, Nat.ofDigitChars_replicate_zero, Nat.mul_comm]
      exact congrArg (· * _) decimal.digitsValue_padded
  have sign : (!decimal.token.sign.isEmpty) = decimal.negative := by
    unfold token
    cases decimal.negative <;> rfl
  unfold NumberToken.toDecimal
  rw [value, places, sign]
  congr 1
  have none : digitsValue decimal.token.exponent = 0 := rfl
  have unsigned : (decimal.token.exponentSign == ['-']) = false := rfl
  rw [none, unsigned]
  simp

/-- A decimal that reads back as a finite number is written as one that does. -/
theorem toNumber_token {decimal : Decimal} (finite : decimal.toNumber.isFinite)
    : decimal.token.toDecimal.toNumber = decimal.toNumber := by
  rw [toDecimal_token]
  obtain ⟨negative, coefficient, exponent⟩ := decimal
  dsimp only
  by_cases zero : coefficient = 0
  · simp [toNumber, zero]
  by_cases fraction : exponent ≤ 0
  · rw [Int.toNat_of_nonpos fraction, Nat.pow_zero, Nat.mul_one]
    congr 2
    omega
  have places : (-exponent).toNat = 0 := Int.toNat_of_nonpos (by omega)
  have bounded : ¬ exponent > 400 := by
    intro large
    have infinite
        : toNumber ⟨negative, coefficient, exponent⟩
          = Number.ofMagnitude negative Number.infinityMagnitude := by
      unfold toNumber
      rw [if_neg zero, if_pos large]
    rw [infinite, Number.isFinite, Number.magnitude_ofMagnitude negative (by decide)] at finite
    exact absurd (of_decide_eq_true finite) (Nat.lt_irrefl _)
  have scaled : coefficient * 10 ^ exponent.toNat ≠ 0 :=
    Nat.mul_ne_zero zero (Nat.ne_of_gt (Nat.pow_pos (by decide)))
  unfold toNumber
  dsimp only
  rw [if_neg zero, if_neg scaled, if_neg bounded, places]
  rw [if_neg (by omega), if_neg (by omega), if_neg (by omega)]
  simp only [Nat.pow_eq]
  simp

end Decimal

namespace Number

-----------------------------------------------------------------------------------------
-- Numbers of whole steps
-----------------------------------------------------------------------------------------

theorem magnitude_lt (number : Number) : number.magnitude < 2 ^ 63 :=
  Nat.mod_lt _ (by decide)

/-- A number is made up of its sign and its magnitude. -/
theorem ofMagnitude_magnitude (number : Number)
    : ofMagnitude number.isNegative number.magnitude = number := by
  obtain ⟨bits⟩ := number
  have bounded : bits.toNat < 2 ^ 64 := bits.toNat_lt
  have same : (ofMagnitude (isNegative ⟨bits⟩) (magnitude ⟨bits⟩)).bits.toNat = bits.toNat := by
    rw [bits_ofMagnitude _ (magnitude_lt _)]
    unfold isNegative magnitude
    simp only [Nat.pow_eq, decide_eq_true_eq]
    split <;> omega
  exact congrArg Number.mk (UInt64.toNat_inj.mp same)

/-- A number of few steps is encoded by their number, and every other one by a significand of
53 bits and an order.
-/
theorem steps_cases (number : Number)
    : (number.steps = number.magnitude ∧ number.steps < 2 ^ 53)
      ∨ ∃ order significand,
          2 ^ 52 ≤ significand
          ∧ significand < 2 ^ 53
          ∧ 0 < order
          ∧ number.steps = significand * 2 ^ order
          ∧ number.magnitude = order * 2 ^ 52 + significand := by
  unfold steps
  simp only [Nat.pow_eq]
  generalize number.magnitude = magnitude
  by_cases few : magnitude < 2 ^ 53
  · left
    split
    · omega
    · rw [show magnitude / 2 ^ 52 - 1 = 0 by omega]
      omega
  · right
    refine ⟨magnitude / 2 ^ 52 - 1, 2 ^ 52 + magnitude % 2 ^ 52, ?_⟩
    rw [if_neg (by omega)]
    refine ⟨by omega, by omega, by omega, rfl, by omega⟩

/-- A whole number of steps is not rounded, at whatever scale the quotient is given. -/
theorem magnitudeOfQuotient_steps {number : Number} (finite : number.isFinite) {scale : Nat}
    (positive : 0 < scale)
    : magnitudeOfQuotient (number.steps * scale) scale = number.magnitude := by
  rcases number.steps_cases with
    ⟨same, few⟩ | ⟨order, significand, low, high, ordered, steps, magnitude⟩
  · rw [← same]
    unfold magnitudeOfQuotient
    rw [Nat.mul_div_cancel _ positive, roundQuotient_mul _ _ positive]
    exact if_pos few
  · have log : number.steps.log2 = 52 + order := by
      rw [steps, log2_mul_two_pow (by omega),
        (Nat.log2_eq_iff (by omega)).mpr ⟨low, high⟩]
    have below : number.magnitude < 2047 * 2 ^ 52 := of_decide_eq_true finite
    have large : 2 ^ 53 ≤ number.steps := by
      rw [steps]
      calc
        2 ^ 53 = 2 ^ 52 * 2 ^ 1 := by decide
        _ ≤ significand * 2 ^ order :=
          Nat.mul_le_mul low (Nat.pow_le_pow_right Nat.two_pos ordered)
    rw [magnitudeOfQuotient_exact low high large (by omega) (by rw [log, steps]; simp) positive,
      log, magnitude]
    simp

-----------------------------------------------------------------------------------------
-- Reading back
-----------------------------------------------------------------------------------------

/-- A number that has been given by its steps at some scale reads back. -/
theorem ofQuotient_steps {number : Number} (finite : number.isFinite) {numerator scale : Nat}
    (positive : 0 < scale) (given : numerator * stepsPerUnit = number.steps * scale)
    : ofQuotient number.isNegative numerator scale = number := by
  rw [ofQuotient, given, magnitudeOfQuotient_steps finite positive, ofMagnitude_magnitude]

theorem steps_eq_zero_iff (number : Number) : number.steps = 0 ↔ number.magnitude = 0 := by
  rcases number.steps_cases with
    ⟨same, _⟩ | ⟨order, significand, low, _, ordered, steps, magnitude⟩
  · rw [same]
  · have := Nat.mul_pos (show 0 < significand by omega) (Nat.two_pow_pos order)
    omega

/-- The exact decimal of a finite number reads back. -/
theorem toNumber_exactDecimal {number : Number} (finite : number.isFinite)
    : number.exactDecimal.toNumber = number := by
  obtain ⟨scale, scaleEq, unit⟩ := stepsPerUnit_eq_two_pow
  have exact
      : number.exactDecimal = ⟨number.isNegative, number.steps * 5 ^ scale, -(scale : Int)⟩ := by
    rw [scaleEq]
    rfl
  rw [exact]
  unfold Decimal.toNumber
  dsimp only
  split
  · rename_i zero
    have none : number.steps = 0 := by
      rcases Nat.mul_eq_zero.mp zero with none | five
      · exact none
      · exact absurd five (Nat.ne_of_gt (Nat.pow_pos (by decide)))
    rw [← (steps_eq_zero_iff number).mp none, ofMagnitude_magnitude]
  · rename_i nonzero
    have large : 2 * scale ≤ (number.steps * 5 ^ scale).log2 := by
      rw [Nat.le_log2 nonzero, Nat.pow_mul]
      calc
        (2 ^ 2) ^ scale ≤ 5 ^ scale := Nat.pow_le_pow_left (by decide) scale
        _ ≤ number.steps * 5 ^ scale :=
          Nat.le_mul_of_pos_left _ (Nat.pos_of_ne_zero (Nat.ne_zero_of_mul_ne_zero_left nonzero))
    rw [if_neg (by omega), if_neg (by omega), Int.toNat_of_nonpos (by omega), Int.neg_neg,
      Int.toNat_natCast]
    refine ofQuotient_steps finite (Nat.pow_pos (by decide)) ?_
    rw [unit, Nat.pow_eq, Nat.pow_eq, Nat.pow_zero, Nat.mul_one, Nat.mul_assoc, ← Nat.mul_pow]

/-- A decimal that is found by search reads back, by induction on the bound of the search. -/
theorem toNumber_firstDecimal? {number : Number} {count : Nat} {exponent : Int}
    {decimal : Decimal} (found : number.firstDecimal? count exponent = some decimal)
    : decimal.toNumber = number := by
  induction count generalizing exponent with
  | zero =>
      rw [firstDecimal?] at found
      cases found
  | succ count ih =>
      rw [firstDecimal?] at found
      split at found
      · rename_i first rest candidates
        obtain rfl := Option.some.inj found
        have member : first ∈ number.neighbours exponent := by
          rw [candidates]
          exact List.mem_cons_self
        unfold neighbours at member
        exact of_decide_eq_true (List.mem_filter.mp member).2
      · exact ih found

theorem toNumber_toDecimal {number : Number} (finite : number.isFinite)
    : number.toDecimal.toNumber = number := by
  have reads (found : Option Decimal)
      (searched : ∀ decimal, found = some decimal → decimal.toNumber = number)
      : (found.getD number.exactDecimal).toNumber = number := by
    cases found with
    | none =>
        rw [Option.getD_none]
        exact toNumber_exactDecimal finite
    | some decimal => exact searched decimal rfl
  unfold toDecimal
  exact reads _ fun decimal found => toNumber_firstDecimal? found

/-- The number, or zero without a sign. -/
def unsignedZero (number : Number) : Number :=
  if number.magnitude = 0 then .ofMagnitude false 0 else number

theorem isFinite_unsignedZero {number : Number} (finite : number.isFinite)
    : number.unsignedZero.isFinite := by
  unfold unsignedZero
  split
  · decide
  · exact finite

/-- A whole number reads back from its digits, except that zero has lost its sign. -/
theorem toNumber_whole {number : Number} (integral : number.isIntegral)
    : Decimal.toNumber ⟨number.isNegative && number.magnitude != 0, number.wholePart, 0⟩
      = number.unsignedZero := by
  obtain ⟨finite, whole⟩ : number.isFinite ∧ number.steps % stepsPerUnit = 0 := by
    simpa [isIntegral] using integral
  have steps : number.wholePart * stepsPerUnit = number.steps :=
    Nat.div_mul_cancel (Nat.dvd_of_mod_eq_zero whole)
  have zero : number.wholePart = 0 ↔ number.magnitude = 0 := by
    rw [← steps_eq_zero_iff, ← steps, Nat.mul_eq_zero]
    exact ⟨Or.inl, fun none => none.resolve_right (Nat.ne_of_gt stepsPerUnit_pos)⟩
  unfold Decimal.toNumber unsignedZero
  dsimp only
  by_cases none : number.magnitude = 0
  · rw [if_pos (zero.mpr none), if_pos none, none]
    simp
  · rw [if_neg (mt zero.mp none), if_neg none, if_neg (by decide), if_neg (by omega)]
    have signed : (number.isNegative && number.magnitude != 0) = number.isNegative := by
      simp [none]
    rw [signed]
    refine ofQuotient_steps finite (by decide) ?_
    simpa using steps

/-- A decimal that reads back as something other than zero has digits other than zero. -/
theorem coefficient_ne_zero {decimal : Decimal} {number : Number}
    (reads : decimal.toNumber = number) (nonzero : number.magnitude ≠ 0)
    : decimal.coefficient ≠ 0 := by
  intro zero
  refine nonzero ?_
  rw [← reads, Decimal.toNumber, if_pos zero]
  exact magnitude_ofMagnitude decimal.negative (by decide)

/-- Every finite number is written as a decimal that reads back, except that zero has lost its
sign, and with no zeros in front of other digits.
-/
theorem exists_decimal {number : Number} (finite : number.isFinite)
    : ∃ decimal : Decimal,
        number.chars = decimal.chars
        ∧ decimal.toNumber = number.unsignedZero
        ∧ (decimal.coefficient ≠ 0 ∨ decimal.exponent ≤ 0) := by
  have notNull : ¬ (!number.isFinite) = true := by simp [finite]
  by_cases whole : (number.isIntegral && number.wholePart < largestExactInteger) = true
  · refine ⟨⟨number.isNegative && number.magnitude != 0, number.wholePart, 0⟩, ?_, ?_, ?_⟩
    · rw [Number.chars, if_neg notNull, if_pos whole]
    · exact toNumber_whole (Bool.and_eq_true_iff.mp whole).1
    · exact .inr (Int.le_refl 0)
  · have nonzero : number.magnitude ≠ 0 := by
      intro zero
      -- Zero is a whole number, and a small one.
      have none := (steps_eq_zero_iff number).mpr zero
      have unit := stepsPerUnit_pos
      refine whole ?_
      rw [isIntegral, finite, wholePart, none, Nat.zero_mod, Nat.zero_div]
      decide
    have reads := toNumber_toDecimal finite
    refine ⟨number.toDecimal, ?_, ?_, .inl (coefficient_ne_zero reads nonzero)⟩
    · rw [Number.chars, if_neg notNull, if_neg whole]
    · rw [reads, unsignedZero, if_neg nonzero]

/-- Every finite number is written as a number that reads back, except that zero has lost its
sign.
-/
theorem exists_token {number : Number} (finite : number.isFinite)
    : ∃ token : NumberToken,
        token.Written
        ∧ number.chars = token.chars
        ∧ token.toDecimal.toNumber = number.unsignedZero := by
  obtain ⟨decimal, written, reads, _⟩ := exists_decimal finite
  refine ⟨decimal.token, decimal.token_written, written.trans decimal.chars_token.symm, ?_⟩
  rw [Decimal.toNumber_token (reads ▸ isFinite_unsignedZero finite), reads]

end Number

end LanguageClient.Json
