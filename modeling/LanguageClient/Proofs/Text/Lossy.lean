import LanguageClient.Proofs.Json.Strings
import LanguageClient.Proofs.Text.Utf8

/-! Texts of bytes that need not be text. A byte from 1 to 127 is a character of its own wherever
it stands: it goes on with no other character, and no other bytes spell that character.
-/

namespace LanguageClient.Text.Utf8

/-- What is known of a character while its first bytes have been read: the next byte is none
below 128, and the code comes to 128 or more with what is owed.
-/
structure Partial.Begun (begun : Partial) : Prop where
  low : 128 ≤ begun.low.toNat
  high : begun.high.toNat ≤ 191
  short : begun.code = 0 → 1 < begun.owed ∧ 130 ≤ begun.low.toNat
  last : begun.owed ≤ 1 → 2 ≤ begun.code

/-- What a byte between characters is: one below 128 is a character, and no other byte is. -/
def Lead.Of (byte : UInt8) : Lead → Prop
  | .char read => byte.toNat < 128 ∧ read = Char.ofNat byte.toNat
  | .first begun => 128 ≤ byte.toNat ∧ begun.Begun
  | .malformed => 128 ≤ byte.toNat

theorem lead_of (byte : UInt8) : (lead byte).Of byte := by
  have small : byte.toNat < 256 := byte.toNat_lt
  have announced := lead_eq small
  rw [UInt8.ofNat_toNat] at announced
  rw [announced]
  -- The ranges of first bytes, from below.
  split
  next one => exact ⟨one, rfl⟩
  next one =>
    have above := Nat.not_lt.mp one
    split
    next => exact above
    next =>
      split
      next =>
        refine ⟨above, ?_, ?_, ?_, ?_⟩ <;> simp
        · omega
        · omega
      next =>
        split
        next =>
          refine ⟨above, ?_, ?_, ?_, ?_⟩ <;> simp
          · split <;> decide
          · split <;> decide
          · intro least
            rw [if_pos (by omega)]
            decide
        next =>
          split
          next =>
            refine ⟨above, ?_, ?_, ?_, ?_⟩ <;> simp
            · split <;> decide
            · split <;> decide
            · intro least
              rw [if_pos (by omega)]
              decide
          next => exact above

/-- A byte that goes on with a character leaves it going on or ends it at 128 or more. -/
theorem Partial.Begun.next {begun : Partial} (underway : begun.Begun) {byte : UInt8}
    (low : begun.low ≤ byte) (high : byte ≤ begun.high)
    : 128 ≤ byte.toNat
      ∧ (begun.owed ≤ 1 → 128 ≤ begun.code * 64 + byte.toNat % 64)
      ∧ (¬ begun.owed ≤ 1
        → Partial.Begun { code := begun.code * 64 + byte.toNat % 64, owed := begun.owed - 1 }) := by
  have least := underway.low
  have most := underway.high
  have short := underway.short
  rw [UInt8.le_iff_toNat_le] at low high
  refine ⟨by omega, fun ends => ?_, fun more => ⟨Nat.le_refl 128, Nat.le_refl 191, ?_, ?_⟩⟩
  · have := underway.last ends
    omega
  · simp only
    omega
  · simp only
    omega

variable {char : Char} (ascii : char.toNat < 128) (positive : 0 < char.toNat)
include ascii

/-- A byte below 128 stands for the character whose code it is. -/
theorem ofNat_toNat_eq_iff {byte : UInt8} (small : byte.toNat < 128)
    : Char.ofNat byte.toNat = char ↔ byte = .ofNat char.toNat := by
  have code : (Char.ofNat byte.toNat).toNat = byte.toNat :=
    Json.toNat_ofNat (Or.inl (by omega))
  rw [← Char.toNat_inj, code, ← UInt8.toNat_inj, toNat_byte (by omega)]

theorem byte_ne {byte : UInt8} (large : 128 ≤ byte.toNat) : byte ≠ .ofNat char.toNat := by
  rintro rfl
  rw [toNat_byte (by omega)] at large
  omega

include positive

/-- No number from 128 up is the code of a character from 1 to 127. -/
theorem ofNat_ne {code : Nat} (large : 128 ≤ code) : Char.ofNat code ≠ char := by
  rintro rfl
  by_cases valid : code < 0xD800 ∨ 0xDFFF < code ∧ code < 0x110000
  · rw [Json.toNat_ofNat valid] at ascii
    omega
  · rw [Char.ofNat, dif_neg valid] at positive
    exact Nat.lt_irrefl 0 positive

/-- A character from 1 to 127 is read as often as its byte is there, by induction on the bytes. -/
theorem count_decodeAfter (bytes : List UInt8) {state : Option Partial}
    (underway : ∀ begun, state = some begun → begun.Begun)
    : ((decodeAfter state bytes).map (·.getD replacement)).count char
      = bytes.count (.ofNat char.toNat) := by
  have replaced : replacement ≠ char := ofNat_ne ascii positive (by decide)
  induction bytes generalizing state with
  | nil => cases state <;> simp [decodeAfter, replaced]
  | cons byte rest ih =>
      have between
          : ((decodeAfter none rest).map (·.getD replacement)).count char
            = rest.count (.ofNat char.toNat) :=
        ih fun _ none => absurd none (by simp)
      have within {begun : Partial} (begins : begun.Begun)
          : ((decodeAfter (some begun) rest).map (·.getD replacement)).count char
            = rest.count (.ofNat char.toNat) :=
        ih fun _ same => Option.some.inj same ▸ begins
      have afresh
          : ((decodeAfter none (byte :: rest)).map (·.getD replacement)).count char
            = (byte :: rest).count (.ofNat char.toNat) := by
        have known := lead_of byte
        rw [decodeAfter]
        generalize lead byte = what at known
        cases what with
        | char read =>
            obtain ⟨small, rfl⟩ := known
            simp [List.count_cons, between, ofNat_toNat_eq_iff ascii small]
        | first begun =>
            obtain ⟨large, begins⟩ := known
            simp [within begins, byte_ne ascii large]
        | malformed => simp [between, replaced, byte_ne ascii known]
      cases state with
      | none => exact afresh
      | some begun =>
          rw [decodeAfter]
          split
          next range =>
            obtain ⟨low, high⟩ := Bool.and_eq_true_iff.mp range
            obtain ⟨large, ends, goesOn⟩ :=
              (underway begun rfl).next (of_decide_eq_true low) (of_decide_eq_true high)
            dsimp only
            split
            next last =>
              simp [between, byte_ne ascii large, ofNat_ne ascii positive (ends last)]
            next more => simp [within (goesOn more), byte_ne ascii large]
          next =>
            rw [List.map_cons, Option.getD_none, List.count_cons_of_ne replaced]
            exact afresh

/-- A character from 1 to 127 is in the text of bytes as often as its byte is among them. -/
theorem count_decodeLossy (bytes : List UInt8)
    : (decodeLossy bytes).toList.count char = bytes.count (.ofNat char.toNat) := by
  rw [decodeLossy, String.toList_ofList]
  exact count_decodeAfter ascii positive bytes fun _ none => absurd none (by simp)

end LanguageClient.Text.Utf8
