import LanguageClient.Text.Utf8

/-! The text of the bytes of a text is that text: every character is read off the bytes that it
takes, whatever follows them.
-/

namespace LanguageClient.Text.Utf8

theorem toNat_byte {value : Nat} (small : value < 256) : (UInt8.ofNat value).toNat = value := by
  rw [UInt8.toNat_ofNat']
  exact Nat.mod_eq_of_lt small

/-- A byte that may come next ends a character of which one byte is owed. -/
theorem decodeAfter_last {begun : Partial} {value : Nat} (small : value < 256)
    (low : begun.low.toNat ≤ value) (high : value ≤ begun.high.toNat) (owed : begun.owed ≤ 1)
    (rest : List UInt8)
    : decodeAfter (some begun) (.ofNat value :: rest)
      = some (Char.ofNat (begun.code * 64 + value % 64)) :: decodeAfter none rest := by
  have between : (decide (begun.low ≤ .ofNat value) && decide (.ofNat value ≤ begun.high)) = true := by
    rw [Bool.and_eq_true, decide_eq_true_eq, decide_eq_true_eq, UInt8.le_iff_toNat_le,
      UInt8.le_iff_toNat_le, toNat_byte small]
    exact ⟨low, high⟩
  rw [decodeAfter, if_pos between, toNat_byte small]
  exact if_pos owed

/-- A byte that may come next goes on with a character of which more bytes are owed. -/
theorem decodeAfter_next {begun : Partial} {value : Nat} (small : value < 256)
    (low : begun.low.toNat ≤ value) (high : value ≤ begun.high.toNat) (owed : ¬ begun.owed ≤ 1)
    (rest : List UInt8)
    : decodeAfter (some begun) (.ofNat value :: rest)
      = decodeAfter (some { code := begun.code * 64 + value % 64, owed := begun.owed - 1 })
          rest := by
  have between : (decide (begun.low ≤ .ofNat value) && decide (.ofNat value ≤ begun.high)) = true := by
    rw [Bool.and_eq_true, decide_eq_true_eq, decide_eq_true_eq, UInt8.le_iff_toNat_le,
      UInt8.le_iff_toNat_le, toNat_byte small]
    exact ⟨low, high⟩
  rw [decodeAfter, if_pos between, toNat_byte small]
  exact if_neg owed

/-- What a first byte announces, by its value. -/
theorem lead_eq {value : Nat} (small : value < 256)
    : lead (.ofNat value)
      = if value < 0x80 then
          .char (Char.ofNat value)
        else if value < 0xC2 then
          .malformed
        else if value < 0xE0 then
          .first { code := value - 0xC0, owed := 1 }
        else if value < 0xF0 then
          .first
            {
              code := value - 0xE0
              owed := 2
              low := if value = 0xE0 then 0xA0 else 0x80
              high := if value = 0xED then 0x9F else 0xBF
            }
        else if value < 0xF5 then
          .first
            {
              code := value - 0xF0
              owed := 3
              low := if value = 0xF0 then 0x90 else 0x80
              high := if value = 0xF4 then 0x8F else 0xBF
            }
        else
          .malformed := by
  simp only [lead, UInt8.lt_iff_toNat_lt, beq_iff_eq, ← UInt8.toNat_inj, toNat_byte small]
  rfl

/-- A character of two bytes is read off them. -/
theorem decodeAfter_two {first second : Nat} (low : 0xC2 ≤ first) (high : first < 0xE0)
    (next : 0x80 ≤ second ∧ second ≤ 0xBF) (rest : List UInt8)
    : decodeAfter none (.ofNat first :: .ofNat second :: rest)
      = some (Char.ofNat ((first - 0xC0) * 64 + second % 64)) :: decodeAfter none rest := by
  rw [decodeAfter, lead_eq (by omega), if_neg (by omega), if_neg (by omega), if_pos high]
  exact decodeAfter_last (by omega) next.1 next.2 (Nat.le_refl 1) rest

/-- A character of three bytes is read off them. -/
theorem decodeAfter_three {first second third : Nat} (low : 0xE0 ≤ first) (high : first < 0xF0)
    (next : 0x80 ≤ second ∧ second ≤ 0xBF) (longest : first = 0xE0 → 0xA0 ≤ second)
    (scalar : first = 0xED → second ≤ 0x9F) (last : 0x80 ≤ third ∧ third ≤ 0xBF)
    (rest : List UInt8)
    : decodeAfter none (.ofNat first :: .ofNat second :: .ofNat third :: rest)
      = some (Char.ofNat (((first - 0xE0) * 64 + second % 64) * 64 + third % 64))
        :: decodeAfter none rest := by
  rw [decodeAfter, lead_eq (by omega), if_neg (by omega), if_neg (by omega), if_neg (by omega),
    if_pos high]
  dsimp only
  rw [decodeAfter_next (by omega) ?low ?high (show ¬ 2 ≤ 1 by omega)]
  · exact decodeAfter_last (by omega) last.1 last.2 (Nat.le_refl 1) rest
  case low =>
    dsimp only
    split
    next isLeast => exact longest isLeast
    next => exact next.1
  case high =>
    dsimp only
    split
    next isSurrogate => exact scalar isSurrogate
    next => exact next.2

/-- A character of four bytes is read off them. -/
theorem decodeAfter_four {first second third fourth : Nat} (low : 0xF0 ≤ first)
    (high : first < 0xF5) (next : 0x80 ≤ second ∧ second ≤ 0xBF)
    (longest : first = 0xF0 → 0x90 ≤ second) (scalar : first = 0xF4 → second ≤ 0x8F)
    (inner : 0x80 ≤ third ∧ third ≤ 0xBF) (last : 0x80 ≤ fourth ∧ fourth ≤ 0xBF)
    (rest : List UInt8)
    : decodeAfter none (.ofNat first :: .ofNat second :: .ofNat third :: .ofNat fourth :: rest)
      = some
          (Char.ofNat
            ((((first - 0xF0) * 64 + second % 64) * 64 + third % 64) * 64 + fourth % 64))
        :: decodeAfter none rest := by
  rw [decodeAfter, lead_eq (by omega), if_neg (by omega), if_neg (by omega), if_neg (by omega),
    if_neg (by omega), if_pos high]
  dsimp only
  rw [decodeAfter_next (by omega) ?low ?high (show ¬ 3 ≤ 1 by omega),
    decodeAfter_next (by omega) inner.1 inner.2 (show ¬ 3 - 1 ≤ 1 by omega)]
  · exact decodeAfter_last (by omega) last.1 last.2 (Nat.le_refl 1) rest
  case low =>
    dsimp only
    split
    next isLeast => exact longest isLeast
    next => exact next.1
  case high =>
    dsimp only
    split
    next isLast => exact scalar isLast
    next => exact next.2

/-- A character is read off its bytes. -/
theorem decodeAfter_char (char : Char) (rest : List UInt8)
    : decodeAfter none (String.utf8EncodeChar char ++ rest)
      = some char :: decodeAfter none rest := by
  have valid : char.val.toNat < 0xD800 ∨ 0xDFFF < char.val.toNat ∧ char.val.toNat < 0x110000 :=
    char.valid
  have same : Char.ofNat char.val.toNat = char := Char.ofNat_toNat char
  unfold String.utf8EncodeChar
  generalize char.val.toNat = code at valid same
  rw [← same]
  dsimp only
  -- The lengths of a character, by its code point.
  split
  next isOne =>
    rw [List.singleton_append, decodeAfter, lead_eq (by omega), if_pos (by omega)]
  next =>
    split
    next isTwo =>
      refine (decodeAfter_two (by omega) (by omega) (by omega) rest).trans ?_
      congr 3
      omega
    next =>
      split
      next isThree =>
        refine (decodeAfter_three (by omega) (by omega) (by omega) (by omega) (by omega)
          (by omega) rest).trans ?_
        congr 3
        omega
      next isFour =>
        refine (decodeAfter_four (by omega) (by omega) (by omega) (by omega) (by omega)
          (by omega) (by omega) rest).trans ?_
        congr 3
        omega

theorem decodeAfter_flatMap (chars : List Char)
    : decodeAfter none (chars.flatMap String.utf8EncodeChar) = chars.map some := by
  induction chars with
  | nil => rfl
  | cons char rest inductionHypothesis =>
      rw [List.flatMap_cons, decodeAfter_char, inductionHypothesis, List.map_cons]

theorem decodeAfter_encode (text : String)
    : decodeAfter none (encode text) = text.toList.map some :=
  decodeAfter_flatMap text.toList

theorem splitValid_map_some (chars : List Char)
    : splitValid (chars.map some) = (chars, true) := by
  induction chars with
  | nil => rfl
  | cons char rest inductionHypothesis =>
      rw [List.map_cons, splitValid, inductionHypothesis]

/-- The bytes of a text are text throughout, and the text is the one they are of. -/
theorem decode_encode (text : String)
    : decode (encode text) = .ok text := by
  rw [decode, decodeAfter_encode, splitValid_map_some]
  exact congrArg Except.ok String.ofList_toList

theorem decodeLossy_encode (text : String)
    : decodeLossy (encode text) = text := by
  rw [decodeLossy, decodeAfter_encode, List.map_map]
  have unread : (fun char : Option Char => char.getD replacement) ∘ some = id := rfl
  rw [unread, List.map_id, String.ofList_toList]

@[simp]
theorem size_append (front back : List Char) : size (front ++ back) = size front + size back := by
  induction front with
  | nil => exact (Nat.zero_add _).symm
  | cons char rest ih => rw [List.cons_append, size, size, ih, Nat.add_assoc]

/-- A text takes as many bytes as its characters. -/
theorem length_encode (text : String)
    : (encode text).length = size text.toList := by
  unfold encode
  induction text.toList with
  | nil => rfl
  | cons char rest inductionHypothesis =>
      rw [List.flatMap_cons, List.length_append, inductionHypothesis, size,
        String.length_utf8EncodeChar]

end LanguageClient.Text.Utf8

namespace LanguageClient.Text

theorem utf8ByteSize_ofList (chars : List Char)
    : (String.ofList chars).utf8ByteSize = Utf8.size chars := by
  induction chars with
  | nil => rfl
  | cons char rest ih => simp [String.ofList_cons, Utf8.size, ih]

theorem utf8ByteSize_eq (text : String) : text.utf8ByteSize = Utf8.size text.toList := by
  rw [← utf8ByteSize_ofList, String.ofList_toList]

end LanguageClient.Text
