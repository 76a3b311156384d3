import LanguageClient.Proofs.Text.Utf8

/-! The order of texts by their bytes. Characters that come later have greater bytes where the
bytes first differ, so texts are in the order of their characters.
-/

namespace LanguageClient.Text.Utf8

/-- Bytes are in order if the first ones are, or if they are equal and the others are in order. -/
theorem cons_lt_cons {value value' : Nat} (small : value' < 256) (least : value ≤ value')
    {rest rest' : List UInt8} (later : value = value' → rest < rest')
    : UInt8.ofNat value :: rest < UInt8.ofNat value' :: rest' := by
  rw [List.cons_lt_cons_iff, UInt8.lt_iff_toNat_lt, toNat_byte small,
    toNat_byte (Nat.lt_of_le_of_lt least small)]
  rcases Nat.lt_or_eq_of_le least with less | same
  · exact Or.inl less
  · exact Or.inr ⟨congrArg UInt8.ofNat same, later same⟩

/-- The bytes of a character are before those of a later one, whatever follows them: a shorter
spelling starts with a lesser byte, and spellings of one length are numbers in base 64.
-/
theorem utf8EncodeChar_append_lt {left right : Char} (less : left < right)
    (rest rest' : List UInt8)
    : String.utf8EncodeChar left ++ rest < String.utf8EncodeChar right ++ rest' := by
  have codes : left.val.toNat < right.val.toNat := UInt32.lt_iff_toNat_lt.mp less
  have valid : right.val.toNat < 0xD800 ∨ 0xDFFF < right.val.toNat ∧ right.val.toNat < 0x110000 :=
    right.valid
  unfold String.utf8EncodeChar
  generalize left.val.toNat = code at codes
  generalize right.val.toNat = code' at codes valid
  dsimp only
  split
  next isOne =>
    split
    next => exact cons_lt_cons (by omega) (by omega) fun same => absurd same (by omega)
    next =>
      split
      next => exact cons_lt_cons (by omega) (by omega) fun same => absurd same (by omega)
      next =>
        split <;> exact cons_lt_cons (by omega) (by omega) fun same => absurd same (by omega)
  next =>
    rw [if_neg (show ¬ code' ≤ 0x7F by omega)]
    split
    next isTwo =>
      split
      next =>
        exact cons_lt_cons (by omega) (by omega) fun first =>
          cons_lt_cons (by omega) (by omega) fun second => absurd second (by omega)
      next =>
        split <;> exact cons_lt_cons (by omega) (by omega) fun same => absurd same (by omega)
    next =>
      rw [if_neg (show ¬ code' ≤ 0x7FF by omega)]
      split
      next isThree =>
        split
        next =>
          exact cons_lt_cons (by omega) (by omega) fun first =>
            cons_lt_cons (by omega) (by omega) fun second =>
              cons_lt_cons (by omega) (by omega) fun third => absurd third (by omega)
        next => exact cons_lt_cons (by omega) (by omega) fun same => absurd same (by omega)
      next isFour =>
        rw [if_neg (show ¬ code' ≤ 0xFFFF by omega)]
        exact cons_lt_cons (by omega) (by omega) fun first =>
          cons_lt_cons (by omega) (by omega) fun second =>
            cons_lt_cons (by omega) (by omega) fun third =>
              cons_lt_cons (by omega) (by omega) fun fourth => absurd fourth (by omega)

theorem flatMap_lt_of_lt {left right : List Char} (less : left < right)
    : left.flatMap String.utf8EncodeChar < right.flatMap String.utf8EncodeChar := by
  induction left generalizing right with
  | nil =>
      cases right with
      | nil => exact absurd less (List.lt_irrefl [])
      | cons char right =>
          obtain ⟨byte, bytes, spelled⟩ :=
            List.exists_cons_of_ne_nil (String.utf8EncodeChar_ne_nil (c := char))
          rw [List.flatMap_cons, spelled]
          exact List.nil_lt_cons byte _
  | cons char left ih =>
      cases right with
      | nil => exact absurd less (List.not_lt_nil _)
      | cons char' right =>
          rw [List.flatMap_cons, List.flatMap_cons]
          rcases List.cons_lt_cons_iff.mp less with less | ⟨rfl, later⟩
          · exact utf8EncodeChar_append_lt less _ _
          · exact List.append_left_lt (ih later)

/-- Texts are in the order of their bytes. -/
theorem encode_le_iff (left right : String) : encode left ≤ encode right ↔ left ≤ right := by
  constructor
  · intro ordered
    refine String.not_lt.mp fun less => ordered ?_
    exact flatMap_lt_of_lt less
  · intro ordered less
    by_cases less' : left < right
    · exact List.lt_asymm less (flatMap_lt_of_lt less')
    · obtain rfl := String.le_antisymm ordered (String.not_lt.mp less')
      exact List.lt_irrefl _ less

end LanguageClient.Text.Utf8
