import LanguageClient.Proofs.Json.ByteCursor
import LanguageClient.Proofs.Json.Reading

/-! Numbers and words are read off their bytes as off their characters. The reader moves over the
parts of a number one after the other, back from an exponent that is none, and what it takes as the
number in the end are the characters that it has moved over.
-/

namespace LanguageClient.Json

open Text
open Decimal (isDigit)

theorem Input.position_skip_eq_iff {input : Input} {kind : Char → Bool}
    : (input.skip kind).position = input.position ↔ input.chars.takeWhile kind = [] := by
  rw [skip, after, Nat.add_eq_left]
  constructor
  · intro none
    have few := length_le_size (input.chars.takeWhile kind)
    exact List.length_eq_zero_iff.mp (by omega)
  · intro none
    rw [none]
    rfl

theorem isMinus_ascii (char : Char) (minus : (char == '-') = true) : char.toNat < 128 := by
  obtain rfl := beq_iff_eq.mp minus
  decide

theorem isMark_ascii (char : Char) (mark : (char == 'e' || char == 'E') = true)
    : char.toNat < 128 := by
  simp only [Bool.or_eq_true, beq_iff_eq] at mark
  rcases mark with rfl | rfl <;> decide

theorem isSign_ascii (char : Char) (sign : (char == '+' || char == '-') = true)
    : char.toNat < 128 := by
  simp only [Bool.or_eq_true, beq_iff_eq] at sign
  rcases sign with rfl | rfl <;> decide

namespace Faces

variable {source : Source} {input : Input} (faces : Faces source input) (depth : Nat)

include faces

-----------------------------------------------------------------------------------------
-- The parts of a number
-----------------------------------------------------------------------------------------

/-- The reader moves over the sign of a number. -/
theorem skipMinus_eq {sign unsigned : List Char} (split : input.chars = sign ++ unsigned)
    (signed : sign = ['-'] ∨ sign = [] ∧ ∀ rest, unsigned ≠ '-' :: rest)
    : source.skipOne (· == '-') (input.cursor depth)
      = .ok ((input.after sign unsigned).cursor depth) := by
  rw [faces.skipOne_eq depth isMinus_ascii]
  rcases signed with rfl | ⟨rfl, positive⟩
  · have next : input.chars.head?.any (· == '-') = true := by
      rw [split]
      rfl
    rw [if_pos next, Input.advance_of_cons split]
    rfl
  · have other : ¬ input.chars.head?.any (· == '-') = true := by
      intro next
      obtain ⟨char, first, minus⟩ := (Option.any_eq_true _ _).mp next
      obtain ⟨rest, starts⟩ := List.head?_eq_some_iff.mp first
      obtain rfl := beq_iff_eq.mp minus
      exact positive rest (split.symm.trans starts)
    rw [if_neg other]
    obtain rfl : unsigned = input.chars := split.symm
    rw [Input.after_nil]

/-- The reader moves over the sign of an exponent. -/
theorem skipSign_eq
    : source.skipOne (fun sign => sign == '+' || sign == '-') (input.cursor depth)
      = .ok ((input.after (scanSign input.chars).1 (scanSign input.chars).2).cursor depth) := by
  rw [faces.skipOne_eq depth isSign_ascii]
  obtain ⟨chars, position⟩ := input
  fun_cases scanSign chars with
  | case1 rest => rfl
  | case2 rest => rfl
  | case3 chars noPlus noMinus =>
      have other : ¬ chars.head?.any (fun sign => sign == '+' || sign == '-') = true := by
        intro next
        obtain ⟨char, first, sign⟩ := (Option.any_eq_true _ _).mp next
        obtain ⟨rest, starts⟩ := List.head?_eq_some_iff.mp first
        rcases (by simpa using sign : char = '+' ∨ char = '-') with rfl | rfl
        · exact noPlus rest starts
        · exact noMinus rest starts
      rw [if_neg other]
      rfl

/-- The reader moves over a point and the digits behind it. -/
theorem skipFraction_eq {text : List Char} (chars : input.chars = text)
    : source.skipFraction (input.cursor depth)
      = .ok ((input.after ((scanFraction text).1.1 ++ (scanFraction text).1.2)
          (scanFraction text).2).cursor depth) := by
  subst chars
  rcases scanFraction_cases input.chars with ⟨scanned, absent⟩ | ⟨rest, starts, some, scanned⟩
  · have none
        : ¬ (source.peek input.position = some '.'
            ∧ (source.peek (input.position + 1)).any isDigit = true) := by
      rintro ⟨point, digit⟩
      obtain ⟨rest, starts⟩ := (faces.peek_eq_some_iff (by decide)).mp point
      have behind := (faces.after (show _ = ['.'] ++ rest from starts)).any_peek isDigit_ascii
      have none := takeWhile_eq_nil_iff_head?.mp (absent rest starts)
      exact absurd (digit.symm.trans (behind.trans none)) (by decide)
    rw [scanned, Source.skipFraction, Input.position_cursor, if_neg none]
    rfl
  · have behind := faces.after (show _ = ['.'] ++ rest from starts)
    have digit : (source.peek (input.position + 1)).any isDigit = true := by
      refine (behind.any_peek isDigit_ascii).trans ?_
      exact Bool.not_eq_false _ ▸ fun none => some (takeWhile_eq_nil_iff_head?.mpr none)
    have point := (faces.peek_eq_some_iff (by decide)).mpr ⟨rest, starts⟩
    rw [scanned, Source.skipFraction, Input.position_cursor, if_pos ⟨point, digit⟩,
      faces.advance_one depth (by decide) starts]
    dsimp only [Bind.bind, Except.bind]
    rw [Input.advance_of_cons starts, behind.skipDigits_eq, Input.skip, Input.after_after]
    rfl

/-- The reader moves over the mark, the sign and the digits of an exponent, or back to where it
was.
-/
theorem skipExponent_eq {text : List Char} (chars : input.chars = text)
    : source.skipExponent (input.cursor depth)
      = .ok ((input.after
          ((scanExponent text).1.1 ++ (scanExponent text).1.2.1 ++ (scanExponent text).1.2.2)
          (scanExponent text).2).cursor depth) := by
  subst chars
  have named {mark : Char} : (mark == 'e' || mark == 'E') = true ↔ mark = 'e' ∨ mark = 'E' := by
    simp
  rw [Source.skipExponent, Input.position_cursor, faces.any_peek isMark_ascii]
  by_cases marked : input.chars.head?.any (fun mark => mark == 'e' || mark == 'E') = true
  · obtain ⟨mark, first, isMark⟩ := (Option.any_eq_true _ _).mp marked
    obtain ⟨rest, starts⟩ := List.head?_eq_some_iff.mp first
    have begun := faces.after (show _ = [mark] ++ rest from starts)
    have signed := begun.after (scanSign_written rest).2.symm
    rw [if_pos marked, faces.advance_one depth (isMark_ascii mark isMark) starts]
    dsimp only [Bind.bind, Except.bind]
    rw [Input.advance_of_cons starts, begun.skipSign_eq]
    dsimp only
    rw [show (input.after [mark] rest).chars = rest from rfl, signed.skipDigits_eq]
    dsimp only
    rw [Input.position_cursor, Input.position_cursor]
    rcases scanExponent_cases input.chars with
      ⟨scanned, absent⟩ | ⟨other, rest', starts', _, some, scanned⟩
    · have none := absent mark rest starts (named.mp isMark)
      rw [if_pos (Input.position_skip_eq_iff.mpr none), moveTo_eq faces, scanned]
      rfl
    · obtain ⟨rfl, rfl⟩ := List.cons.inj (starts.symm.trans starts')
      rw [if_neg fun same => some (Input.position_skip_eq_iff.mp same), scanned, Input.skip,
        Input.after_after, Input.after_after]
      rfl
  · rw [if_neg marked]
    rcases scanExponent_cases input.chars with ⟨scanned, _⟩ | ⟨mark, rest, starts, isMark, _⟩
    · rw [scanned]
      rfl
    · rw [starts] at marked
      exact absurd (named.mpr isMark) marked

-----------------------------------------------------------------------------------------
-- Numbers
-----------------------------------------------------------------------------------------

/-- Behind the sign and the digits of a number the reader moves to its end. -/
theorem skipParts_eq {sign unsigned : List Char} (split : input.chars = sign ++ unsigned)
    (signed : sign = ['-'] ∨ sign = [] ∧ ∀ rest, unsigned ≠ '-' :: rest)
    (some : unsigned.takeWhile isDigit ≠ [])
    : (source.skipFraction (((input.after sign unsigned).skip isDigit).cursor depth)
        >>= source.skipExponent)
      = .ok ((input.after (scanNumber input.chars).1.chars (scanNumber input.chars).2).cursor
          depth) := by
  have whole := (faces.after split).skip isDigit
  have fraction := whole.after (scanFraction_written (unsigned.dropWhile isDigit)).2.symm
  rw [whole.skipFraction_eq depth (show _ = unsigned.dropWhile isDigit from rfl)]
  refine (fraction.skipExponent_eq depth rfl).trans ?_
  rw [split, scanNumber_eq signed some, NumberToken.chars_eq, Input.after_after, Input.skip,
    Input.after_after, Input.after_after]
  simp only [List.append_assoc]
  rfl

/-- What is moved over as a number is taken and made one. -/
theorem finiteNumber_eq {token : NumberToken} {rest : List Char}
    (split : input.chars = token.chars ++ rest) (written : token.Written)
    : source.finiteNumber input.position ((input.after token.chars rest).cursor depth)
      = if token.toDecimal.toNumber.isFinite then
          .ok (.number token.toDecimal.toNumber, (input.after token.chars rest).cursor depth)
        else
          .error (.rejected (.invalidNumber (String.ofList token.chars) input.position)) := by
  have longest : token.Longest (token.chars ++ []) := by
    intro other _ starts
    rw [List.append_nil] at starts
    exact starts.length_le
  have alone := scanNumber_of_longest written longest
  rw [List.append_nil] at alone
  rw [Source.finiteNumber, Input.position_cursor, faces.slice_eq split]
  dsimp only [Bind.bind, Except.bind]
  rw [alone]
  rfl

/-- A number is read off its bytes as off its characters. -/
theorem agrees_number
    : Agrees source depth (source.number (input.cursor depth)) (readNumber input) := by
  obtain ⟨sign, unsigned, split, signed⟩ := exists_sign input.chars
  have begun := faces.after split
  have whole := begun.skip isDigit
  rw [Source.number, faces.skipMinus_eq depth split signed]
  dsimp only [Bind.bind, Except.bind]
  rw [begun.skipDigits_eq]
  dsimp only
  rw [Input.position_cursor, Input.position_cursor, Input.position_cursor]
  by_cases none : unsigned.takeWhile isDigit = []
  · have token : (scanNumber input.chars).1 = ⟨sign, [], [], [], [], [], []⟩ := by
      rw [split]
      exact scanNumber_none signed none
    have chars : (scanNumber input.chars).1.chars = sign := by
      rw [token]
      simp [NumberToken.chars]
    have same : (input.after sign unsigned).skip isDigit = input.after sign unsigned :=
      Input.skip_of_not (takeWhile_eq_nil_iff_head?.mp none)
    have rejected
        : readNumber input = .error (.invalidNumber (String.ofList sign) input.position) := by
      unfold readNumber
      dsimp only
      rw [chars, token]
      rfl
    rw [if_pos (Input.position_skip_eq_iff.mpr none), same, faces.slice_eq split, rejected]
    exact .rejects _
  · have digits : (scanNumber input.chars).1.whole ≠ [] := by
      rw [split, scanNumber_eq signed none]
      exact none
    obtain ⟨written, taken⟩ := scanNumber_written digits
    obtain ⟨point, fraction, exponent⟩ :=
      exists_of_bind_ok (faces.skipParts_eq depth split signed none)
    rw [if_neg fun same => none (Input.position_skip_eq_iff.mp same), fraction]
    dsimp only
    rw [exponent]
    dsimp only
    rw [faces.finiteNumber_eq depth taken.symm written, readNumber]
    dsimp only
    rw [List.isEmpty_eq_false_iff.mpr digits, Bool.false_or]
    cases (scanNumber input.chars).1.toDecimal.toNumber.isFinite with
    | true => exact .reads _ (faces.after taken.symm)
    | false => exact .rejects _

end Faces

-----------------------------------------------------------------------------------------
-- Words
-----------------------------------------------------------------------------------------

/-- The bytes of a text are read off in front of others, by induction on the text. -/
theorem decodeAfter_flatMap_append (chars : List Char) (bytes : List UInt8)
    : Utf8.decodeAfter none (chars.flatMap String.utf8EncodeChar ++ bytes)
      = chars.map some ++ Utf8.decodeAfter none bytes := by
  induction chars with
  | nil => rfl
  | cons char rest ih =>
      rw [List.flatMap_cons, List.append_assoc, Utf8.decodeAfter_char, ih, List.map_cons,
        List.cons_append]

/-- A text starts with a word exactly if its bytes do with those of the word. -/
theorem isPrefixOf_encode (word : String) (chars : List Char)
    : (Utf8.encode word).isPrefixOf (chars.flatMap String.utf8EncodeChar)
      = word.toList.isPrefixOf chars := by
  rw [Bool.eq_iff_iff, List.isPrefixOf_iff_prefix, List.isPrefixOf_iff_prefix]
  constructor
  · rintro ⟨more, same⟩
    have read := congrArg (Utf8.decodeAfter none) same
    rw [Utf8.encode, decodeAfter_flatMap_append, Utf8.decodeAfter_flatMap] at read
    have starts : word.toList.map some <+: chars.map some := ⟨_, read⟩
    simpa using starts.filterMap id
  · rintro ⟨rest, rfl⟩
    rw [List.flatMap_append]
    exact List.prefix_append _ _

/-- The word that comes next is the one that is found among those that are values. -/
theorem readLiteral_eq (input : Input)
    : readLiteral input
      = match Source.literals.find? fun named => named.1.toList.isPrefixOf input.chars with
        | some (word, value) =>
          .ok (value, input.after word.toList (input.chars.drop word.toList.length))
        | none => .error (.unknownLiteral input.position) := by
  unfold readLiteral
  split
  · rename_i rest word
    rw [word]
    rfl
  · rename_i rest word
    rw [word]
    rfl
  · rename_i rest word
    rw [word]
    rfl
  · rename_i noTrue noFalse noNull
    have none
        : (Source.literals.find? fun named => named.1.toList.isPrefixOf input.chars) = none := by
      refine List.find?_eq_none.mpr fun named member starts => ?_
      obtain ⟨rest, same⟩ := List.isPrefixOf_iff_prefix.mp starts
      simp only [Source.literals, List.mem_cons, List.not_mem_nil, or_false] at member
      rcases member with rfl | rfl | rfl
      · exact noTrue rest same.symm
      · exact noFalse rest same.symm
      · exact noNull rest same.symm
    rw [none]

/-- A word is read off its bytes as off its characters. -/
theorem Faces.agrees_literal {source : Source} {input : Input} (faces : Faces source input)
    (depth : Nat)
    : Agrees source depth (source.literal (input.cursor depth)) (readLiteral input) := by
  rw [Source.literal, Input.position_cursor, faces.bytesFrom_eq, readLiteral_eq]
  dsimp only [Bind.bind, Except.bind]
  simp only [isPrefixOf_encode]
  cases found : Source.literals.find? fun named => named.1.toList.isPrefixOf input.chars with
  | none => exact .rejects _
  | some named =>
      obtain ⟨word, value⟩ := named
      have starts := List.find?_some found
      have split := List.prefix_iff_eq_append.mp (List.isPrefixOf_iff_prefix.mp starts)
      dsimp only at split ⊢
      rw [Utf8.length_encode, faces.advance_eq depth split.symm]
      exact .reads value (faces.after split.symm)

end LanguageClient.Json
