import LanguageClient.Proofs.Json.Decimals

/-! Numbers that stand for a natural number. A number is read as an integer exactly if it stands
for one up to 2^53, and then it is read as that one.
-/

namespace LanguageClient.Json

namespace Number

/-- A number is equal to a natural number. Zero has an encoding with either sign. -/
structure StandsFor (number : Number) (value : Nat) : Prop where
  finite : number.isFinite = true
  steps : number.steps = value * stepsPerUnit
  unsigned : number.isNegative = true → value = 0

/-- A number stands for one natural number at most. -/
theorem StandsFor.unique {number : Number} {left right : Nat} (hl : number.StandsFor left)
    (hr : number.StandsFor right)
    : left = right :=
  Nat.eq_of_mul_eq_mul_right stepsPerUnit_pos (hl.steps.symm.trans hr.steps)

theorem standsFor_ofNat {value : Nat} (small : value ≤ 2 ^ 53)
    : (ofNat value).StandsFor value := by
  obtain ⟨steps, finite, sign⟩ := ofNat_steps small
  exact ⟨finite, steps, fun negative => absurd negative (by simp [sign])⟩

theorem StandsFor.magnitude_eq_zero_iff {number : Number} {value : Nat}
    (stands : number.StandsFor value)
    : number.magnitude = 0 ↔ value = 0 := by
  rw [← steps_eq_zero_iff, stands.steps, Nat.mul_eq_zero]
  exact ⟨fun zero => zero.resolve_right (Nat.ne_of_gt stepsPerUnit_pos), Or.inl⟩

/-- The integers that are read off numbers. -/
theorem toNat?_eq_some_iff {number : Number} {value : Nat}
    : number.toNat? = some value ↔ number.StandsFor value ∧ value ≤ largestExactInteger := by
  constructor
  · intro read
    unfold toNat? at read
    split at read
    · rename_i accepted
      simp only [isIntegral, Bool.and_eq_true, Bool.or_eq_true, Bool.not_eq_true', beq_iff_eq,
        decide_eq_true_eq] at accepted
      obtain ⟨⟨⟨finite, integral⟩, small⟩, sign⟩ := accepted
      obtain rfl : number.wholePart = value := Option.some.inj read
      have steps : number.steps = number.wholePart * stepsPerUnit :=
        (Nat.div_mul_cancel (Nat.dvd_of_mod_eq_zero integral)).symm
      refine ⟨⟨finite, steps, fun negative => ?_⟩, small⟩
      have zero : number.magnitude = 0 := sign.resolve_left (by simp [negative])
      rw [wholePart, (steps_eq_zero_iff number).mpr zero, Nat.zero_div]
    · cases read
  · rintro ⟨stands, small⟩
    have whole : number.wholePart = value := by
      rw [wholePart, stands.steps, Nat.mul_div_cancel _ stepsPerUnit_pos]
    have integral : number.isIntegral = true := by
      rw [isIntegral, stands.finite, stands.steps, Nat.mul_mod_left]
      rfl
    have sign : (!number.isNegative || number.magnitude == 0) = true := by
      cases negative : number.isNegative with
      | false => rfl
      | true => simpa using stands.magnitude_eq_zero_iff.mpr (stands.unsigned negative)
    simp [toNat?, integral, whole, small, sign]

end Number

namespace Value

/-- A value is a number that stands for a natural number. -/
def StandsFor (value : Value) (count : Nat) : Prop :=
  ∃ number, value = .number number ∧ number.StandsFor count

theorem StandsFor.unique {value : Value} {left right : Nat} (hl : value.StandsFor left)
    (hr : value.StandsFor right)
    : left = right := by
  obtain ⟨number, rfl, stands⟩ := hl
  obtain ⟨_, same, other⟩ := hr
  cases same
  exact stands.unique other

theorem standsFor_ofNat {count : Nat} (small : count ≤ 2 ^ 53) : (ofNat count).StandsFor count :=
  ⟨_, rfl, Number.standsFor_ofNat small⟩

/-- The values that are accepted where an integer from zero up is expected. -/
theorem expectNat_eq_ok_iff {value : Value} {count : Nat}
    : value.expectNat = .ok count
      ↔ value.StandsFor count ∧ count ≤ Number.largestExactInteger := by
  have accepted : value.expectNat = .ok count ↔ value.asNat? = some count := by
    unfold expectNat expect
    cases value.asNat? with
    | none => simp
    | some read => simp
  rw [accepted, asNat?, Option.bind_eq_some_iff]
  constructor
  · rintro ⟨number, view, read⟩
    obtain ⟨stands, small⟩ := Number.toNat?_eq_some_iff.mp read
    cases value with
    | number =>
        cases view
        exact ⟨⟨number, rfl, stands⟩, small⟩
    | _ => cases view
  · rintro ⟨⟨number, rfl, stands⟩, small⟩
    exact ⟨number, rfl, Number.toNat?_eq_some_iff.mpr ⟨stands, small⟩⟩

end Value

end LanguageClient.Json
