import LanguageClient.Proofs.Json.Strings
import LanguageClient.Proofs.Text.Utf8
import LanguageClient.Uri

/-! The URIs of a file. A path can be written in many ways, all of which are read as the path, and
one of them is the client's own.
-/

namespace LanguageClient

open Json (HexDigit)

-----------------------------------------------------------------------------------------
-- Known starts
-----------------------------------------------------------------------------------------

namespace Text

theorem withoutStart?_append (start rest : List Char)
    : withoutStart? start (start ++ rest) = some rest := by
  induction start with
  | nil => rfl
  | cons char start ih => rw [List.cons_append, withoutStart?, if_pos rfl, ih]

/-- Another first character is not the known start. -/
theorem withoutStart?_of_head {expected char : Char} (differs : char ≠ expected)
    (start rest : List Char)
    : withoutStart? (expected :: start) (char :: rest) = none :=
  if_neg differs

end Text

namespace Uri

-----------------------------------------------------------------------------------------
-- Spellings
-----------------------------------------------------------------------------------------

/-- Whether a byte of a path may stand for itself. Besides plain bytes these are the marks that
separate nothing in a path.
-/
def mayStand (byte : UInt8) : Bool :=
  isPlain byte || byte == 33 || byte == 36 || (38 ≤ byte && byte ≤ 44) || byte == 58
    || byte == 59 || byte == 61 || byte == 64

/-- Bytes of a path and how they are written: each as itself, if it may be, or by its value in
hexadecimal digits of either case.
-/
inductive Writes : List UInt8 → List Char → Prop where
  | none : Writes [] []
  | itself {byte : UInt8} {bytes : List UInt8} {written : List Char}
      (stands : mayStand byte = true) (more : Writes bytes written)
      : Writes (byte :: bytes) (Char.ofNat byte.toNat :: written)
  | value {byte : UInt8} {bytes : List UInt8} {written : List Char} {high low : Char}
      (first : HexDigit high (byte.toNat / 16)) (second : HexDigit low (byte.toNat % 16))
      (more : Writes bytes written)
      : Writes (byte :: bytes) ('%' :: high :: low :: written)

/-- A URI spells a path from the root: the host is left out or is this one, and the path is
written in some way.
-/
def Spells (uri path : String) : Prop :=
  Path.isAbsolute path = true
  ∧ ∃ host written,
      (host = [] ∨ host = localHost)
      ∧ uri.toList = scheme ++ host ++ written
      ∧ Writes (Text.Utf8.encode path) written

-----------------------------------------------------------------------------------------
-- Reading
-----------------------------------------------------------------------------------------

/-- Two digits give the byte whose value they spell. -/
theorem encodedByte?_of_digits {byte : UInt8} {high low : Char}
    (first : HexDigit high (byte.toNat / 16)) (second : HexDigit low (byte.toNat % 16))
    : encodedByte? high low = some byte := by
  have unsigned : (high == '+') = false := by
    refine beq_eq_false_iff_ne.mpr ?_
    rintro rfl
    exact absurd ((Json.hexDigit?_eq_some_iff _ _).mpr first) (by simp [Text.hexDigit?])
  have value : 16 * (byte.toNat / 16) + byte.toNat % 16 = byte.toNat := Nat.div_add_mod _ 16
  rw [encodedByte?, unsigned, if_neg Bool.false_ne_true,
    (Json.hexDigit?_eq_some_iff _ _).mpr first, (Json.hexDigit?_eq_some_iff _ _).mpr second,
    Option.bind_some, Option.map_some, value, UInt8.ofNat_toNat]

/-- A byte that may stand for itself is a character of its own, and no percent sign. -/
theorem mayStand_ascii {byte : UInt8} (stands : mayStand byte = true)
    : byte.toNat < 128 ∧ byte.toNat ≠ 37 := by
  simp only [mayStand, isPlain, Bool.or_eq_true, Bool.and_eq_true, decide_eq_true_eq, beq_iff_eq,
    UInt8.le_iff_toNat_le, ← UInt8.toNat_inj, UInt8.reduceToNat] at stands
  omega

/-- The character of a small byte is that byte. -/
theorem utf8EncodeChar_ofNat {byte : UInt8} (ascii : byte.toNat < 128)
    : (Char.ofNat byte.toNat).toNat = byte.toNat
      ∧ String.utf8EncodeChar (Char.ofNat byte.toNat) = [byte] := by
  have code : (Char.ofNat byte.toNat).toNat = byte.toNat :=
    Json.toNat_ofNat (Or.inl (by omega))
  refine ⟨code, ?_⟩
  have value : (Char.ofNat byte.toNat).val.toNat = byte.toNat := code
  simp [String.utf8EncodeChar, value, show byte.toNat ≤ 127 by omega]

/-- The bytes of a path are read from however they are written. -/
theorem Writes.decodeBytes_eq {bytes : List UInt8} {written : List Char}
    (writes : Writes bytes written)
    : decodeBytes written = bytes := by
  induction writes with
  | none => rfl
  | value first second more ih => rw [decodeBytes, encodedByte?_of_digits first second, ih]
  | itself stands more ih =>
      obtain ⟨ascii, unescaped⟩ := mayStand_ascii stands
      obtain ⟨code, alone⟩ := utf8EncodeChar_ofNat ascii
      rw [decodeBytes, alone, ih, List.singleton_append]
      intro first second rest percent
      rw [percent] at code
      exact absurd code.symm unescaped

/-- A path from the root starts with a byte that is written as itself or by its value. -/
theorem Writes.head {path : String} (absolute : Path.isAbsolute path = true)
    {written : List Char} (writes : Writes (Text.Utf8.encode path) written)
    : ∃ first rest, written = first :: rest ∧ first ≠ 'l' := by
  obtain ⟨rest, starts⟩ : ∃ rest, Text.Utf8.encode path = 47 :: rest := by
    obtain ⟨chars, same⟩ := List.head?_eq_some_iff.mp (beq_iff_eq.mp absolute)
    exact ⟨chars.flatMap String.utf8EncodeChar, by rw [Text.Utf8.encode, same]; rfl⟩
  rw [starts] at writes
  cases writes with
  | itself stands more => exact ⟨_, _, rfl, by decide⟩
  | value first second more => exact ⟨_, _, rfl, by decide⟩

/-- A host that is left out or is this one is passed over. -/
theorem toPath?_of_host {uri : String} {host written : List Char}
    (either : host = [] ∨ host = localHost)
    (head : ∃ first rest, written = first :: rest ∧ first ≠ 'l')
    (same : uri.toList = scheme ++ host ++ written)
    : toPath? uri = some (Text.Utf8.decodeLossy (decodeBytes written)) := by
  have rest
      : (Text.withoutStart? localHost (host ++ written)).getD (host ++ written) = written := by
    rcases either with rfl | rfl
    · obtain ⟨first, rest, rfl, differs⟩ := head
      have none : Text.withoutStart? localHost ([] ++ first :: rest) = none :=
        Text.withoutStart?_of_head differs _ rest
      rw [none]
      rfl
    · rw [Text.withoutStart?_append]
      rfl
  rw [toPath?, same, List.append_assoc, Text.withoutStart?_append, Option.map_some, rest]

/-- Whatever spells a path is read as the path. -/
theorem Spells.toPath?_eq {uri path : String} (spells : Spells uri path)
    : toPath? uri = some path := by
  obtain ⟨absolute, host, written, either, same, writes⟩ := spells
  rw [toPath?_of_host either (writes.head absolute) same, writes.decodeBytes_eq,
    Text.Utf8.decodeLossy_encode]

-----------------------------------------------------------------------------------------
-- Writing
-----------------------------------------------------------------------------------------

theorem hexDigit_upperHexDigit {value : Nat} (small : value < 16)
    : HexDigit (upperHexDigit value) value := by
  have all : ∀ value < 16, HexDigit (upperHexDigit value) value := by decide
  exact all value small

theorem writes_encodeByte (byte : UInt8) {bytes : List UInt8} {written : List Char}
    (writes : Writes bytes written)
    : Writes (byte :: bytes) (encodeByte byte ++ written) := by
  unfold encodeByte
  split
  · rename_i plain
    exact .itself (by rw [mayStand, plain]; rfl) writes
  · have small := byte.toNat_lt
    exact .value (hexDigit_upperHexDigit (by omega)) (hexDigit_upperHexDigit (by omega)) writes

/-- The client's own URI of a path spells it. -/
theorem spells_ofAbsolutePath {path : String} (absolute : Path.isAbsolute path = true)
    : Spells (ofAbsolutePath path) path := by
  refine ⟨absolute, [], (Text.Utf8.encode path).flatMap encodeByte, Or.inl rfl, ?_, ?_⟩
  · rw [ofAbsolutePath, String.toList_ofList, List.append_nil]
  · induction Text.Utf8.encode path with
    | nil => exact .none
    | cons byte bytes ih => exact writes_encodeByte byte ih

end Uri

end LanguageClient
