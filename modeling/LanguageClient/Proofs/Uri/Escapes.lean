import LanguageClient.Proofs.Text.Lossy
import LanguageClient.Proofs.Uri

/-! Escapes in URIs. A percent sign and two hexadecimal digits stand for a byte and every other
byte for itself. That is how a path is read, unless a plus sign stands where the first of the
digits should: then the sign passes for a digit.
-/

namespace LanguageClient.Uri

open Json (HexDigit)
open Text.Utf8 (decodeLossy encode)

-----------------------------------------------------------------------------------------
-- Percent decoding
-----------------------------------------------------------------------------------------

/-- The value of a byte that is a hexadecimal digit, in either case. -/
def digitOfByte? (byte : UInt8) : Option Nat :=
  if 48 ≤ byte.toNat ∧ byte.toNat ≤ 57 then
    some (byte.toNat - 48)
  else if 97 ≤ byte.toNat ∧ byte.toNat ≤ 102 then
    some (byte.toNat - 97 + 10)
  else if 65 ≤ byte.toNat ∧ byte.toNat ≤ 70 then
    some (byte.toNat - 65 + 10)
  else
    none

/-- The byte that two digits spell. -/
def escaped? (high low : UInt8) : Option UInt8 :=
  (digitOfByte? high).bind fun first =>
    (digitOfByte? low).map fun second => .ofNat (16 * first + second)

/-- Bytes with their escapes resolved: a percent sign and two digits are the byte that the digits
spell, and every other byte is itself.
-/
def percentDecode : List UInt8 → List UInt8
  | 37 :: high :: low :: rest =>
    match escaped? high low with
    | some byte => byte :: percentDecode rest
    | none => 37 :: percentDecode (high :: low :: rest)
  | byte :: rest => byte :: percentDecode rest
  | [] => []

theorem percentDecode_cons {byte : UInt8} (differs : byte ≠ 37) (rest : List UInt8)
    : percentDecode (byte :: rest) = byte :: percentDecode rest :=
  percentDecode.eq_2 byte rest fun _ _ _ percent => absurd percent differs

theorem percentDecode_append {bytes : List UInt8} (differ : ∀ byte ∈ bytes, byte ≠ 37)
    (rest : List UInt8)
    : percentDecode (bytes ++ rest) = bytes ++ percentDecode rest := by
  induction bytes with
  | nil => rfl
  | cons byte bytes ih =>
      obtain ⟨first, others⟩ := List.forall_mem_cons.mp differ
      simp [percentDecode_cons first, ih others]

/-- A percent sign without two digits behind it is itself. -/
theorem percentDecode_percent {rest : List UInt8}
    (bare : ∀ high low more, rest = high :: low :: more → escaped? high low = none)
    : percentDecode (37 :: rest) = 37 :: percentDecode rest := by
  match rest with
  | [] => rfl
  | [_] => rfl
  | high :: low :: more => rw [percentDecode, bare high low more rfl]

-----------------------------------------------------------------------------------------
-- Digits and their bytes
-----------------------------------------------------------------------------------------

theorem utf8EncodeChar_ascii {char : Char} (ascii : char.toNat < 128)
    : String.utf8EncodeChar char = [.ofNat char.toNat] := by
  have small : char.toNat < 256 := by omega
  have code : (UInt8.ofNat char.toNat).toNat = char.toNat := Text.Utf8.toNat_byte small
  have alone := (utf8EncodeChar_ofNat (code.symm ▸ ascii)).2
  rwa [code, Char.ofNat_toNat] at alone

/-- The bytes of a character from 128 up are from 128 up. -/
theorem le_of_mem_utf8EncodeChar {char : Char} (large : 128 ≤ char.toNat) {byte : UInt8}
    (member : byte ∈ String.utf8EncodeChar char)
    : 128 ≤ byte.toNat := by
  have valid : char.val.toNat < 0xD800 ∨ 0xDFFF < char.val.toNat ∧ char.val.toNat < 0x110000 :=
    char.valid
  have large : 128 ≤ char.val.toNat := large
  have atLeast {value : Nat} (least : 128 ≤ value) (small : value < 256)
      : 128 ≤ (UInt8.ofNat value).toNat :=
    (Text.Utf8.toNat_byte small).symm ▸ least
  unfold String.utf8EncodeChar at member
  dsimp only at member
  -- The lengths of a character, by its code point.
  split at member
  · omega
  · split at member
    · simp only [List.mem_cons, List.not_mem_nil, or_false] at member
      rcases member with rfl | rfl <;> exact atLeast (by omega) (by omega)
    · split at member
      · simp only [List.mem_cons, List.not_mem_nil, or_false] at member
        rcases member with rfl | rfl | rfl <;> exact atLeast (by omega) (by omega)
      · simp only [List.mem_cons, List.not_mem_nil, or_false] at member
        rcases member with rfl | rfl | rfl | rfl <;> exact atLeast (by omega) (by omega)

/-- The byte of a character is a digit if the character is one. -/
theorem digitOfByte?_ascii {char : Char} (ascii : char.toNat < 128)
    : digitOfByte? (.ofNat char.toNat) = Text.hexDigit? char := by
  have within (first last : Char)
      : (first ≤ char && char ≤ last) = true
        ↔ first.toNat ≤ char.toNat ∧ char.toNat ≤ last.toNat := by
    simp [Char.le_def, UInt32.le_iff_toNat_le]
  have small : (UInt8.ofNat char.toNat).toNat = char.toNat := Text.Utf8.toNat_byte (by omega)
  simp only [digitOfByte?, Text.hexDigit?, within, small]
  rfl

theorem digitOfByte?_of_large {byte : UInt8} (large : 128 ≤ byte.toNat)
    : digitOfByte? byte = none := by
  unfold digitOfByte?
  rw [if_neg (by omega), if_neg (by omega), if_neg (by omega)]

/-- A digit is a character below 128, and neither a percent sign nor a plus sign. -/
theorem ascii_of_hexDigit {char : Char} {value : Nat} (digit : HexDigit char value)
    : char.toNat < 128 ∧ char ≠ '%' ∧ char ≠ '+' := by
  have plain {digits : List Char} {position : Nat} (listed : digits[position]? = some char)
      (checked : digits.all fun char => char.toNat < 128 && char != '%' && char != '+')
      : char.toNat < 128 ∧ char ≠ '%' ∧ char ≠ '+' := by
    simpa [and_assoc] using List.all_eq_true.mp checked char (List.mem_of_getElem? listed)
  rcases digit with listed | listed
  · exact plain listed (by decide)
  · exact plain listed (by decide)

/-- A digit has one byte, which is a digit of the same value. -/
theorem bytes_of_hexDigit {char : Char} {value : Nat} (digit : HexDigit char value)
    : String.utf8EncodeChar char = [.ofNat char.toNat]
      ∧ digitOfByte? (.ofNat char.toNat) = some value := by
  have ascii := (ascii_of_hexDigit digit).1
  refine ⟨utf8EncodeChar_ascii ascii, ?_⟩
  rw [digitOfByte?_ascii ascii]
  exact (Json.hexDigit?_eq_some_iff char value).mpr digit

/-- The byte of a percent sign spells no other character, nor a part of one. -/
theorem ne_percent_of_mem {char : Char} (differs : char ≠ '%') {byte : UInt8}
    (member : byte ∈ String.utf8EncodeChar char)
    : byte ≠ 37 := by
  rintro rfl
  rcases Nat.lt_or_ge char.toNat 128 with ascii | large
  · rw [utf8EncodeChar_ascii ascii, List.mem_singleton, ← UInt8.toNat_inj,
      Text.Utf8.toNat_byte (by omega)] at member
    exact differs (Char.toNat_inj.mp member.symm)
  · exact absurd (le_of_mem_utf8EncodeChar large member) (by decide)

/-- A digit among the bytes of a text is the only byte of a character that is a digit. -/
theorem exists_digit_of_bytes {chars : List Char} {byte : UInt8} {more : List UInt8} {value : Nat}
    (spelled : chars.flatMap String.utf8EncodeChar = byte :: more)
    (digit : digitOfByte? byte = some value)
    : ∃ char rest,
        chars = char :: rest
        ∧ HexDigit char value
        ∧ rest.flatMap String.utf8EncodeChar = more := by
  cases chars with
  | nil => cases spelled
  | cons char rest =>
      rw [List.flatMap_cons] at spelled
      rcases Nat.lt_or_ge char.toNat 128 with ascii | large
      · rw [utf8EncodeChar_ascii ascii, List.singleton_append] at spelled
        obtain ⟨rfl, rfl⟩ := List.cons.inj spelled
        rw [digitOfByte?_ascii ascii, Json.hexDigit?_eq_some_iff] at digit
        exact ⟨char, rest, rfl, digit, rfl⟩
      · -- The first byte of such a character is no digit.
        obtain ⟨first, others, head⟩ :=
          List.exists_cons_of_ne_nil (String.utf8EncodeChar_ne_nil (c := char))
        rw [head, List.cons_append] at spelled
        obtain ⟨rfl, -⟩ := List.cons.inj spelled
        have above := le_of_mem_utf8EncodeChar large (head ▸ List.mem_cons_self)
        rw [digitOfByte?_of_large above] at digit
        cases digit

/-- The bytes of a text start with two digits only if the text does. -/
theorem exists_digits_of_escaped {chars : List Char} {high low : UInt8} {more : List UInt8}
    {byte : UInt8} (spelled : chars.flatMap String.utf8EncodeChar = high :: low :: more)
    (escape : escaped? high low = some byte)
    : ∃ first second rest firstValue secondValue,
        chars = first :: second :: rest
        ∧ HexDigit first firstValue
        ∧ HexDigit second secondValue := by
  simp only [escaped?, Option.bind_eq_some_iff, Option.map_eq_some_iff] at escape
  obtain ⟨firstValue, firstDigit, secondValue, secondDigit, -⟩ := escape
  obtain ⟨first, behind, rfl, isFirst, later⟩ := exists_digit_of_bytes spelled firstDigit
  obtain ⟨second, rest, rfl, isSecond, -⟩ := exists_digit_of_bytes later secondDigit
  exact ⟨first, second, rest, firstValue, secondValue, rfl, isFirst, isSecond⟩

/-- Two characters give a byte if both are digits, or if the second is a digit behind a sign. -/
theorem encodedByte?_eq_some {first second : Char} {byte : UInt8}
    (read : encodedByte? first second = some byte)
    : ∃ value,
        HexDigit second value
        ∧ (first = '+' ∧ byte = .ofNat value
          ∨ ∃ firstValue, HexDigit first firstValue ∧ byte = .ofNat (16 * firstValue + value)) := by
  simp only [encodedByte?, Option.bind_eq_some_iff, Option.map_eq_some_iff,
    Json.hexDigit?_eq_some_iff] at read
  obtain ⟨high, given, value, digit, rfl⟩ := read
  refine ⟨value, digit, ?_⟩
  split at given
  next sign =>
    obtain rfl := Option.some.inj given
    exact Or.inl ⟨beq_iff_eq.mp sign, by simp⟩
  next => exact Or.inr ⟨high, (Json.hexDigit?_eq_some_iff first high).mp given, rfl⟩

/-- Two digits give the byte that they spell. -/
theorem encodedByte?_of_hexDigits {first second : Char} {firstValue secondValue : Nat}
    (isFirst : HexDigit first firstValue) (isSecond : HexDigit second secondValue)
    : encodedByte? first second = some (.ofNat (16 * firstValue + secondValue)) := by
  simp [encodedByte?, (ascii_of_hexDigit isFirst).2.2,
    (Json.hexDigit?_eq_some_iff _ _).mpr isFirst, (Json.hexDigit?_eq_some_iff _ _).mpr isSecond]

-----------------------------------------------------------------------------------------
-- Reading and percent decoding side by side
-----------------------------------------------------------------------------------------

/-- A percent sign, a plus sign and a digit, which are no escape. -/
def Signed (text : List Char) : Prop :=
  ∃ digit value, HexDigit digit value ∧ text = ['%', '+', digit]

/-- A text with the bytes that are read from it and those that it percent decodes to. They differ
where a plus sign stands for a digit.
-/
inductive Decodes : List Char → List UInt8 → List UInt8 → Prop
  | nothing : Decodes [] [] []
  | escape {high low : Char} {first second : Nat} {rest : List Char} {read exact : List UInt8}
    (isFirst : HexDigit high first) (isSecond : HexDigit low second)
    (more : Decodes rest read exact)
    : Decodes ('%' :: high :: low :: rest) (.ofNat (16 * first + second) :: read)
        (.ofNat (16 * first + second) :: exact)
  | signed {digit : Char} {value : Nat} {rest : List Char} {read exact : List UInt8}
    (isDigit : HexDigit digit value) (more : Decodes rest read exact)
    : Decodes ('%' :: '+' :: digit :: rest) (.ofNat value :: read)
        (37 :: 43 :: .ofNat digit.toNat :: exact)
  | itself {char : Char} {rest : List Char} {read exact : List UInt8}
    (unsigned : ∀ text, Signed text → ¬ text <+: char :: rest) (more : Decodes rest read exact)
    : Decodes (char :: rest) (String.utf8EncodeChar char ++ read)
        (String.utf8EncodeChar char ++ exact)

theorem utf8EncodeChar_percent : String.utf8EncodeChar '%' = [37] :=
  rfl

/-- A percent sign is itself unless two characters behind it give a byte. -/
theorem Decodes.percent {rest : List Char}
    (bare : ∀ first second more, rest = first :: second :: more → encodedByte? first second = none)
    (more
      : Decodes rest (decodeBytes rest) (percentDecode (rest.flatMap String.utf8EncodeChar)))
    : Decodes ('%' :: rest) (37 :: decodeBytes rest)
        (percentDecode (('%' :: rest).flatMap String.utf8EncodeChar)) := by
  rw [List.flatMap_cons, utf8EncodeChar_percent, List.singleton_append, percentDecode_percent]
  · refine .itself ?_ more
    rintro text ⟨digit, value, isDigit, rfl⟩ ⟨more, starts⟩
    have plus := bare '+' digit more (List.cons.inj starts).2.symm
    simp [encodedByte?, (Json.hexDigit?_eq_some_iff _ _).mpr isDigit] at plus
  · intro high low bytes spelled
    apply Option.eq_none_iff_forall_ne_some.mpr
    intro byte escape
    obtain ⟨first, second, others, _, _, rfl, isFirst, isSecond⟩ :=
      exists_digits_of_escaped spelled escape
    have none := bare first second others rfl
    rw [encodedByte?_of_hexDigits isFirst isSecond] at none
    cases none

/-- What is read and what is decoded, by the cases of reading. -/
theorem decodes (chars : List Char)
    : Decodes chars (decodeBytes chars)
        (percentDecode (chars.flatMap String.utf8EncodeChar)) := by
  fun_induction decodeBytes chars with
  | case1 => exact .nothing
  | case2 first second rest byte read ih =>
      obtain ⟨value, isSecond, ⟨rfl, rfl⟩ | ⟨firstValue, isFirst, rfl⟩⟩ :=
        encodedByte?_eq_some read
      · obtain ⟨alone, -⟩ := bytes_of_hexDigit isSecond
        have plus : String.utf8EncodeChar '+' = [43] := rfl
        have unescaped : escaped? 43 (.ofNat second.toNat) = none := rfl
        have differs : UInt8.ofNat second.toNat ≠ 37 :=
          ne_percent_of_mem (ascii_of_hexDigit isSecond).2.1 (alone ▸ List.mem_singleton_self _)
        simp only [List.flatMap_cons, utf8EncodeChar_percent, plus, alone, List.singleton_append,
          percentDecode, unescaped]
        rw [percentDecode_cons (by decide), percentDecode_cons differs]
        exact .signed isSecond ih
      · obtain ⟨firstAlone, firstDigit⟩ := bytes_of_hexDigit isFirst
        obtain ⟨secondAlone, secondDigit⟩ := bytes_of_hexDigit isSecond
        have escape
            : escaped? (.ofNat first.toNat) (.ofNat second.toNat)
              = some (.ofNat (16 * firstValue + value)) := by
          simp [escaped?, firstDigit, secondDigit]
        simp only [List.flatMap_cons, utf8EncodeChar_percent, firstAlone, secondAlone,
          List.singleton_append, percentDecode, escape]
        exact .escape isFirst isSecond ih
  | case3 first second rest unread ih =>
      refine .percent ?_ ih
      rintro _ _ _ ⟨rfl, rfl⟩
      exact unread
  | case4 char rest short ih =>
      by_cases percent : char = '%'
      · subst percent
        exact .percent (fun first second more same => absurd same (short first second more rfl)) ih
      · rw [List.flatMap_cons, percentDecode_append fun _ => ne_percent_of_mem percent]
        refine .itself ?_ ih
        rintro text ⟨digit, value, -, rfl⟩ starts
        exact percent (List.cons_prefix_cons.mp starts).1.symm

/-- Without signs what is read is what is decoded. -/
theorem Decodes.eq {chars : List Char} {read exact : List UInt8} (both : Decodes chars read exact)
    (unsigned : ∀ text, Signed text → ¬ text <:+: chars)
    : read = exact := by
  induction both with
  | nothing => rfl
  | escape _ _ _ ih =>
      rw [ih fun text signed inside => unsigned text signed (inside.trans ?_)]
      exact (List.suffix_append ['%', _, _] _).isInfix
  | @signed digit value rest _ _ isDigit _ _ =>
      exact absurd (List.prefix_append ['%', '+', digit] rest).isInfix
        (unsigned _ ⟨digit, value, isDigit, rfl⟩)
  | itself _ _ ih =>
      rw [ih fun text signed inside => unsigned text signed (inside.trans ?_)]
      exact (List.suffix_cons _ _).isInfix

/-- A digit that is read for a sign and the digit is no percent sign. -/
theorem count_signed {digit : Char} {value : Nat} (isDigit : HexDigit digit value)
    {read exact : List UInt8} (counted : read.count 37 ≤ exact.count 37)
    : (UInt8.ofNat value :: read).count 37
      < (37 :: 43 :: UInt8.ofNat digit.toNat :: exact).count 37 := by
  have small := isDigit.lt
  have differs : UInt8.ofNat value ≠ 37 := by
    intro same
    have code := congrArg UInt8.toNat same
    rw [Text.Utf8.toNat_byte (by omega)] at code
    exact absurd code (Nat.ne_of_lt (Nat.lt_trans small (by decide)))
  have kept := List.count_le_count_cons (a := (37 : UInt8)) (b := .ofNat digit.toNat) (l := exact)
  rw [List.count_cons_of_ne differs, List.count_cons_self, List.count_cons_of_ne (by decide)]
  omega

/-- No percent sign is read that is not decoded. -/
theorem Decodes.count_le {chars : List Char} {read exact : List UInt8}
    (both : Decodes chars read exact)
    : read.count 37 ≤ exact.count 37 := by
  induction both with
  | nothing => exact Nat.le_refl _
  | escape _ _ _ ih => simpa [List.count_cons] using ih
  | signed isDigit _ ih => exact Nat.le_of_lt (count_signed isDigit ih)
  | itself _ _ ih => simpa using ih

/-- With a sign there is a percent sign less to be read than to be decoded. -/
theorem Decodes.count_lt {chars : List Char} {read exact : List UInt8}
    (both : Decodes chars read exact) {text : List Char} (signed : Signed text)
    (inside : text <:+: chars)
    : read.count 37 < exact.count 37 := by
  induction both with
  | nothing =>
      obtain ⟨digit, value, -, rfl⟩ := signed
      cases List.infix_nil.mp inside
  | escape isFirst isSecond _ ih =>
      obtain ⟨-, firstStands, unsigned⟩ := ascii_of_hexDigit isFirst
      obtain ⟨-, secondStands, -⟩ := ascii_of_hexDigit isSecond
      -- What starts with a percent sign and a plus sign starts behind the escape.
      have later := inside
      obtain ⟨digit, value, -, rfl⟩ := signed
      simp only [List.infix_cons_iff, List.cons_prefix_cons, unsigned.symm, firstStands.symm,
        secondStands.symm, false_and, and_false, false_or] at later
      simpa [List.count_cons] using ih later
  | signed isDigit more _ => exact count_signed isDigit more.count_le
  | itself unsigned _ ih =>
      rcases List.infix_cons_iff.mp inside with starts | later
      · exact absurd starts (unsigned text signed)
      · simpa using ih later

/-- A path is read as what its text percent decodes to exactly if no percent sign in it is followed
by a plus sign and a hexadecimal digit. Otherwise the digit alone is taken for the escape of a byte,
and the percent sign is lost.
-/
theorem escapes_resolved_iff (text : String)
    : decodeLossy (decodeBytes text.toList) = decodeLossy (percentDecode (encode text))
      ↔ ∀ digit value, HexDigit digit value → ¬ ['%', '+', digit] <:+: text.toList := by
  have both : Decodes text.toList (decodeBytes text.toList) (percentDecode (encode text)) :=
    decodes text.toList
  constructor
  · intro same digit value isDigit inside
    have fewer := both.count_lt ⟨digit, value, isDigit, rfl⟩ inside
    have percent : '%'.toNat < 128 ∧ 0 < '%'.toNat := by decide
    have percents (bytes : List UInt8) : (decodeLossy bytes).toList.count '%' = bytes.count 37 :=
      Text.Utf8.count_decodeLossy percent.1 percent.2 bytes
    rw [← percents, ← percents, same] at fewer
    exact Nat.lt_irrefl _ fewer
  · intro unsigned
    refine congrArg decodeLossy (both.eq ?_)
    rintro _ ⟨digit, value, isDigit, rfl⟩
    exact unsigned digit value isDigit

/-- A plus sign behind a percent sign passes for a digit. -/
theorem plus_sign_is_resolved
    : toPath? "file:///%+A" = some "/\n"
      ∧ decodeLossy (decodeBytes "/%+A".toList) = "/\n"
      ∧ decodeLossy (percentDecode (encode "/%+A")) = "/%+A" := by
  decide +kernel

end LanguageClient.Uri
