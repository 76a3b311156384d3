import LanguageClient.Proofs.Json.ByteReader
import LanguageClient.Proofs.Json.Shifts
import LanguageClient.Proofs.Uri.Escapes

/-! A reader of bytes between characters. The byte in front of it is the next character, or is
of one that is no sign of a document, and a slice or a move from there to behind some of the
characters that come next keeps to the text.
-/

namespace LanguageClient.Json

open Text
open Uri (utf8EncodeChar_ascii le_of_mem_utf8EncodeChar)

-----------------------------------------------------------------------------------------
-- The bytes of characters
-----------------------------------------------------------------------------------------

theorem charOfByte_ofNat {char : Char} (ascii : char.toNat < 128)
    : charOfByte (.ofNat char.toNat) = char := by
  rw [charOfByte, Utf8.toNat_byte (by omega), Char.ofNat_toNat]

theorem toNat_charOfByte (byte : UInt8) : (charOfByte byte).toNat = byte.toNat := by
  have small := byte.toNat_lt
  exact toNat_ofNat (Or.inl (by omega))

theorem bytewise_cons (char : Char) (rest : List Char)
    : bytewise (char :: rest) = (String.utf8EncodeChar char).map charOfByte ++ bytewise rest := by
  rw [bytewise, List.flatMap_cons, List.map_append]
  rfl

theorem bytewise_append (front back : List Char)
    : bytewise (front ++ back) = bytewise front ++ bytewise back := by
  rw [bytewise, List.flatMap_append, List.map_append]
  rfl

theorem length_bytewise (chars : List Char) : (bytewise chars).length = Utf8.size chars := by
  induction chars with
  | nil => rfl
  | cons char rest ih =>
      rw [bytewise_cons, List.length_append, List.length_map, String.length_utf8EncodeChar, ih,
        Utf8.size]

theorem bytewise_ascii {char : Char} (ascii : char.toNat < 128) (rest : List Char)
    : bytewise (char :: rest) = char :: bytewise rest := by
  rw [bytewise_cons, utf8EncodeChar_ascii ascii, List.map_singleton, charOfByte_ofNat ascii]
  rfl

theorem bytewise_of_ascii {chars : List Char} (ascii : ∀ char ∈ chars, char.toNat < 128)
    : bytewise chars = chars := by
  induction chars with
  | nil => rfl
  | cons char rest ih =>
      obtain ⟨small, others⟩ := List.forall_mem_cons.mp ascii
      rw [bytewise_ascii small, ih others]

/-- The bytes of any other character are no characters of one byte. -/
theorem bytewise_large {char : Char} (large : 128 ≤ char.toNat) (rest : List Char)
    : ∃ first others,
        bytewise (char :: rest) = first :: others ++ bytewise rest
        ∧ (first :: others).length = char.utf8Size
        ∧ ∀ byte ∈ first :: others, 128 ≤ byte.toNat := by
  have size : ((String.utf8EncodeChar char).map charOfByte).length = char.utf8Size := by
    rw [List.length_map, String.length_utf8EncodeChar]
  have some := char.utf8Size_pos
  have each : ∀ byte ∈ (String.utf8EncodeChar char).map charOfByte, 128 ≤ byte.toNat := by
    intro byte member
    obtain ⟨number, inside, rfl⟩ := List.mem_map.mp member
    rw [toNat_charOfByte]
    exact le_of_mem_utf8EncodeChar large inside
  rw [bytewise_cons]
  cases bytes : (String.utf8EncodeChar char).map charOfByte with
  | nil =>
      rw [bytes, List.length_nil] at size
      omega
  | cons first others => exact ⟨first, others, rfl, bytes ▸ size, bytes ▸ each⟩

/-- Nothing is taken as long as it is of a kind exactly if the first character is not. -/
theorem takeWhile_eq_nil_iff_head? {kind : Char → Bool} {chars : List Char}
    : chars.takeWhile kind = [] ↔ chars.head?.any kind = false := by
  cases chars with
  | nil => simp
  | cons char rest =>
      rw [List.takeWhile_cons, List.head?_cons, Option.any_some]
      cases kind char <;> simp

/-- A byte that is a character is that character of the text. -/
theorem exists_of_bytewise_eq_cons {char : Char} (ascii : char.toNat < 128)
    {chars more : List Char} (starts : bytewise chars = char :: more)
    : ∃ rest, chars = char :: rest ∧ bytewise rest = more := by
  cases chars with
  | nil => cases starts
  | cons first rest =>
      by_cases small : first.toNat < 128
      · rw [bytewise_ascii small] at starts
        obtain ⟨rfl, same⟩ := List.cons.inj starts
        exact ⟨rest, rfl, same⟩
      · obtain ⟨byte, others, bytes, _, large⟩ := bytewise_large (Nat.not_lt.mp small) rest
        rw [bytes, List.cons_append] at starts
        obtain ⟨rfl, _⟩ := List.cons.inj starts
        exact absurd ascii (Nat.not_lt.mpr (large byte List.mem_cons_self))

/-- Bytes that are a word are that word of the text, by induction on the word. -/
theorem exists_of_bytewise_eq_append {word : List Char}
    (ascii : ∀ char ∈ word, char.toNat < 128) {chars more : List Char}
    (starts : bytewise chars = word ++ more)
    : ∃ rest, chars = word ++ rest ∧ bytewise rest = more := by
  induction word generalizing chars with
  | nil => exact ⟨chars, rfl, starts⟩
  | cons char word ih =>
      obtain ⟨small, others⟩ := List.forall_mem_cons.mp ascii
      obtain ⟨rest, rfl, behind⟩ := exists_of_bytewise_eq_cons small starts
      obtain ⟨last, rfl, same⟩ := ih others behind
      exact ⟨last, rfl, same⟩

/-- Whether a byte is of a kind of ASCII characters is whether its character is. -/
theorem any_head?_bytewise {kind : Char → Bool}
    (ascii : ∀ char, kind char = true → char.toNat < 128) (chars : List Char)
    : (bytewise chars).head?.any kind = chars.head?.any kind := by
  have otherwise {char : Char} (large : 128 ≤ char.toNat) : kind char = false :=
    Bool.eq_false_iff.mpr fun holds => absurd (ascii char holds) (Nat.not_lt.mpr large)
  cases chars with
  | nil => rfl
  | cons char rest =>
      by_cases small : char.toNat < 128
      · rw [bytewise_ascii small]
        rfl
      · have large := Nat.not_lt.mp small
        obtain ⟨byte, others, bytes, _, each⟩ := bytewise_large large rest
        rw [bytes, List.cons_append, List.head?_cons, List.head?_cons, Option.any_some,
          Option.any_some, otherwise large, otherwise (each byte List.mem_cons_self)]

/-- The bytes of a kind of ASCII characters that come first are those characters. -/
theorem takeWhile_bytewise {kind : Char → Bool}
    (ascii : ∀ char, kind char = true → char.toNat < 128) (chars : List Char)
    : (bytewise chars).takeWhile kind = chars.takeWhile kind := by
  induction chars with
  | nil => rfl
  | cons char rest ih =>
      have same := any_head?_bytewise ascii (char :: rest)
      rw [List.head?_cons, Option.any_some] at same
      cases holds : kind char with
      | true =>
          rw [bytewise_ascii (ascii char holds), List.takeWhile_cons_of_pos holds,
            List.takeWhile_cons_of_pos holds, ih]
      | false =>
          rw [takeWhile_eq_nil_iff_head?.mpr (same.trans holds), List.takeWhile_cons, holds]
          rfl

theorem isSpace_ascii (char : Char) (space : isSpace char = true) : char.toNat < 128 := by
  have listed : ∀ char ∈ [' ', '\t', '\n', '\r'], char.toNat < 128 := by simp
  exact listed char ((isSpace_iff char).mp space)

theorem isDigit_ascii (char : Char) (digit : Decimal.isDigit char = true) : char.toNat < 128 := by
  have within : 48 ≤ char.toNat ∧ char.toNat ≤ 57 := by
    simpa [Decimal.isDigit, Char.le_def, UInt32.le_iff_toNat_le] using digit
  omega

theorem size_of_ascii {chars : List Char} (ascii : ∀ char ∈ chars, char.toNat < 128)
    : Utf8.size chars = chars.length := by
  rw [← length_bytewise, bytewise_of_ascii ascii]

theorem size_ascii {char : Char} (ascii : char.toNat < 128) : Utf8.size [char] = 1 :=
  size_of_ascii (List.forall_mem_singleton.mpr ascii)

theorem length_le_size (chars : List Char) : chars.length ≤ Utf8.size chars := by
  induction chars with
  | nil => exact Nat.le_refl 0
  | cons char rest ih =>
      have some := char.utf8Size_pos
      rw [List.length_cons, Utf8.size]
      omega

-----------------------------------------------------------------------------------------
-- Slices between characters
-----------------------------------------------------------------------------------------

/-- What is found behind some bytes is behind the characters that take them. -/
theorem exists_front_of_charsFromByte? {chars rest : List Char} {byte : Nat}
    (found : charsFromByte? chars byte = some rest)
    : ∃ front, chars = front ++ rest ∧ Utf8.size front = byte := by
  fun_induction charsFromByte? chars byte with
  | case1 chars =>
      obtain rfl := Option.some.inj found
      exact ⟨[], rfl, rfl⟩
  | case2 => cases found
  | case3 char chars byte within ih =>
      obtain ⟨front, rfl, size⟩ := ih found
      refine ⟨char :: front, rfl, ?_⟩
      rw [Utf8.size, size]
      omega
  | case4 => cases found

/-- Of two starts of a text the one with fewer bytes is a start of the other. -/
theorem isPrefix_of_size_le {front front' text : List Char} (starts : front <+: text)
    (starts' : front' <+: text) (fewer : Utf8.size front ≤ Utf8.size front')
    : front <+: front' := by
  rcases List.prefix_or_prefix_of_prefix starts starts' with within | ⟨more, rfl⟩
  · exact within
  · rw [Utf8.size_append] at fewer
    have length := length_le_size more
    obtain rfl : more = [] := List.length_eq_zero_iff.mp (by omega)
    exact ⟨[], by rw [List.append_nil, List.append_nil]⟩

/-- A slice is taken exactly if it is a part of the text between two places between characters, in
their order.
-/
theorem Source.slice_eq_ok_iff {source : Source} {start stop : Nat} {run : List Char}
    : source.slice start stop = .ok run
      ↔ ∃ front back,
          source.chars = front ++ run ++ back
          ∧ Utf8.size front = start
          ∧ Utf8.size (front ++ run) = stop := by
  constructor
  · intro taken
    unfold slice at taken
    split at taken
    · rename_i rest back found found'
      obtain ⟨front, split, size⟩ := exists_front_of_charsFromByte? found
      obtain ⟨front', split', size'⟩ := exists_front_of_charsFromByte? found'
      split at taken
      · rename_i ordered
        obtain ⟨part, rfl⟩ :=
          isPrefix_of_size_le ⟨rest, split.symm⟩ ⟨back, split'.symm⟩ (by omega)
        have same : rest = part ++ back := by
          rw [split, List.append_assoc] at split'
          exact List.append_cancel_left split'
        rw [same, List.length_append, Nat.add_sub_cancel, List.take_left] at taken
        obtain rfl := Except.ok.inj taken
        exact ⟨front, back, split', size, size'⟩
      · cases taken
    · cases taken
  · rintro ⟨front, back, split, rfl, rfl⟩
    have found : charsFromByte? source.chars (Utf8.size front) = some (run ++ back) := by
      rw [split, List.append_assoc]
      exact charsFromByte?_append front (run ++ back)
    have found' : charsFromByte? source.chars (Utf8.size (front ++ run)) = some back := by
      rw [split]
      exact charsFromByte?_append (front ++ run) back
    have ordered : Utf8.size front ≤ Utf8.size (front ++ run) := by
      rw [Utf8.size_append]
      exact Nat.le_add_right _ _
    rw [slice, found, found']
    dsimp only
    rw [if_pos ordered, List.length_append, Nat.add_sub_cancel, List.take_left]

/-- The second byte of a character is in no slice without the first. -/
example : Source.slice ⟨['é', '"'], 0⟩ 0 1 = .error (.fault (.slice 0 1)) := rfl

-----------------------------------------------------------------------------------------
-- Positions between characters
-----------------------------------------------------------------------------------------

namespace Input

/-- The place where an input starts, inside some containers. -/
def cursor (input : Input) (depth : Nat) : Cursor where
  position := input.position
  depth

@[simp]
theorem position_cursor (input : Input) (depth : Nat)
    : (input.cursor depth).position = input.position :=
  rfl

/-- The input behind all characters of a kind that come next. -/
def skip (input : Input) (kind : Char → Bool) : Input :=
  input.after (input.chars.takeWhile kind) (input.chars.dropWhile kind)

theorem after_nil (input : Input) : input.after [] input.chars = input :=
  rfl

theorem after_after (input : Input) (taken rest more last : List Char)
    : (input.after taken rest).after more last = input.after (taken ++ more) last := by
  simp only [after, Utf8.size_append, Nat.add_assoc]

variable {input : Input} {char : Char} {rest : List Char}

theorem advance_of_cons (starts : input.chars = char :: rest)
    : input.advance = input.after [char] rest := by
  rw [advance, starts]
  rfl

theorem skip_of_not {kind : Char → Bool} (stops : input.chars.head?.any kind = false)
    : input.skip kind = input := by
  obtain ⟨chars, position⟩ := input
  cases chars with
  | nil => rfl
  | cons char rest =>
      have stop : kind char = false := stops
      rw [skip, List.takeWhile_cons, List.dropWhile_cons, stop]
      rfl

theorem skip_of_cons {kind : Char → Bool} (starts : input.chars = char :: rest)
    (holds : kind char = true)
    : input.skip kind = input.advance.skip kind := by
  rw [advance_of_cons starts, skip, skip, starts, List.takeWhile_cons_of_pos holds,
    List.dropWhile_cons_of_pos holds, after_after]
  rfl

end Input

/-- An input is the end of a text, from a place between characters that is not before the start. -/
structure Faces (source : Source) (input : Input) : Prop where
  suffix : input.chars <:+ source.chars
  stop : input.stop = source.size
  started : source.start ≤ input.position

namespace Faces

variable {source : Source} {input : Input} {depth : Nat} (faces : Faces source input)

include faces

theorem exists_front
    : ∃ front, source.chars = front ++ input.chars ∧ input.position = Utf8.size front := by
  obtain ⟨front, whole⟩ := faces.suffix
  have stop := faces.stop
  refine ⟨front, whole.symm, ?_⟩
  rw [Input.stop, Source.size, ← whole, Utf8.size_append] at stop
  omega

theorem position_le : input.position ≤ source.size := by
  rw [← faces.stop]
  exact Nat.le_add_right _ _

/-- The place behind some of the characters is one between characters too. -/
theorem after {taken rest : List Char} (split : input.chars = taken ++ rest)
    : Faces source (input.after taken rest) where
  suffix := (show rest <:+ input.chars from ⟨taken, split.symm⟩).trans faces.suffix
  stop := (Input.stop_after split).trans faces.stop
  started := Nat.le_trans faces.started (Nat.le_add_right _ _)

theorem skip (kind : Char → Bool) : Faces source (input.skip kind) :=
  faces.after List.takeWhile_append_dropWhile.symm

theorem skipSpaces : Faces source input.skipSpaces :=
  faces.skip isSpace

theorem advance : Faces source input.advance :=
  faces.after (List.take_append_drop 1 input.chars).symm

-----------------------------------------------------------------------------------------
-- What comes next
-----------------------------------------------------------------------------------------

theorem drop_bytewise : (bytewise source.chars).drop input.position = bytewise input.chars := by
  obtain ⟨front, whole, position⟩ := faces.exists_front
  rw [whole, bytewise_append, position, ← length_bytewise, List.drop_left]

theorem peek_add (count : Nat)
    : source.peek (input.position + count) = (bytewise input.chars)[count]? := by
  rw [Source.peek, ← faces.drop_bytewise, List.getElem?_drop]

theorem peek_eq : source.peek input.position = (bytewise input.chars).head? := by
  rw [List.head?_eq_getElem?]
  exact faces.peek_add 0

theorem any_peek {kind : Char → Bool} (ascii : ∀ char, kind char = true → char.toNat < 128)
    : (source.peek input.position).any kind = input.chars.head?.any kind := by
  rw [faces.peek_eq]
  exact any_head?_bytewise ascii input.chars

theorem peek_eq_some_iff {char : Char} (ascii : char.toNat < 128)
    : source.peek input.position = some char ↔ ∃ rest, input.chars = char :: rest := by
  rw [faces.peek_eq]
  constructor
  · intro next
    obtain ⟨more, starts⟩ := List.head?_eq_some_iff.mp next
    obtain ⟨rest, same, _⟩ := exists_of_bytewise_eq_cons ascii starts
    exact ⟨rest, same⟩
  · rintro ⟨rest, starts⟩
    rw [starts, bytewise_ascii ascii, List.head?_cons]

theorem charsFromByte?_eq : charsFromByte? source.chars input.position = some input.chars := by
  obtain ⟨front, whole, position⟩ := faces.exists_front
  rw [whole, position]
  exact charsFromByte?_append front input.chars

theorem charAt?_eq : source.charAt? input.position = input.chars.head? := by
  rw [Source.charAt?, faces.charsFromByte?_eq, Option.bind_some]

theorem bytesFrom_eq
    : source.bytesFrom input.position = .ok (input.chars.flatMap String.utf8EncodeChar) := by
  obtain ⟨front, whole, position⟩ := faces.exists_front
  have length : input.position = (front.flatMap String.utf8EncodeChar).length := by
    rw [position, ← length_bytewise, bytewise, List.length_map]
  rw [Source.bytesFrom, if_pos faces.position_le, Source.bytes, whole, List.flatMap_append,
    length, List.drop_left]

theorem unexpected_eq (expected : String)
    : source.unexpected expected (input.cursor depth)
      = .rejected (input.unexpected expected) := by
  have stop := faces.stop
  unfold Source.unexpected Input.unexpected Input.cursor
  dsimp only
  rw [faces.charAt?_eq]
  cases chars : input.chars with
  | nil =>
      rw [Input.stop, chars, Utf8.size, Nat.add_zero] at stop
      rw [if_pos (Nat.le_of_eq stop.symm)]
  | cons char rest =>
      have some := char.utf8Size_pos
      rw [Input.stop, chars, Utf8.size] at stop
      rw [if_neg (by omega)]
      rfl

-----------------------------------------------------------------------------------------
-- Slices and moves
-----------------------------------------------------------------------------------------

/-- The text up to a place further on is taken. -/
theorem slice_eq {taken rest : List Char} (split : input.chars = taken ++ rest)
    : source.slice input.position (input.after taken rest).position = .ok taken := by
  obtain ⟨front, whole, position⟩ := faces.exists_front
  refine Source.slice_eq_ok_iff.mpr ⟨front, rest, ?_, position.symm, ?_⟩
  · rw [whole, split, List.append_assoc]
  · rw [Utf8.size_append, ← position]
    rfl

omit faces in
theorem moveTo_eq {last : Input} (reached : Faces source last) (cursor : Cursor)
    : source.moveTo last.position cursor = .ok (last.cursor cursor.depth) :=
  if_pos ⟨reached.started, reached.position_le⟩

/-- The reader moves over some of the characters. -/
theorem advance_eq (depth : Nat) {taken rest : List Char} (split : input.chars = taken ++ rest)
    : source.advance (Utf8.size taken) (input.cursor depth)
      = .ok ((input.after taken rest).cursor depth) :=
  moveTo_eq (faces.after split) _

/-- The reader moves over a character of one byte. -/
theorem advance_one (depth : Nat) {char : Char} {rest : List Char} (ascii : char.toNat < 128)
    (starts : input.chars = char :: rest)
    : source.advance 1 (input.cursor depth) = .ok (input.advance.cursor depth) := by
  rw [Input.advance_of_cons starts, ← size_ascii ascii]
  exact faces.advance_eq depth starts

omit faces in
/-- The reader skips characters as long as they are of a kind, by induction on the bound of their
number.
-/
theorem skipWhile_eq {kind : Char → Bool}
    (ascii : ∀ char, kind char = true → char.toNat < 128) {fuel : Nat} {input : Input}
    (faces : Faces source input) (enough : input.chars.length < fuel)
    : source.skipWhile kind fuel (input.cursor depth) = .ok ((input.skip kind).cursor depth) := by
  induction fuel generalizing input with
  | zero => cases enough
  | succ fuel ih =>
      unfold Source.skipWhile
      rw [Input.position_cursor, faces.any_peek ascii]
      by_cases next : input.chars.head?.any kind = true
      · obtain ⟨char, first, holds⟩ := (Option.any_eq_true _ _).mp next
        obtain ⟨rest, starts⟩ := List.head?_eq_some_iff.mp first
        have shorter : input.advance.chars.length < fuel := by
          rw [Input.chars_advance, starts, List.drop_succ_cons, List.drop_zero]
          rw [starts, List.length_cons] at enough
          omega
        rw [if_pos next, faces.advance_one depth (ascii char holds) starts,
          Input.skip_of_cons starts holds]
        exact ih faces.advance shorter
      · rw [if_neg next, Input.skip_of_not (Bool.eq_false_iff.mpr next)]

theorem size_lt_fuel : Utf8.size input.chars < source.fuel := by
  have stop := faces.stop
  rw [Input.stop] at stop
  rw [Source.fuel]
  omega

theorem length_lt_fuel : input.chars.length < source.fuel :=
  Nat.lt_of_le_of_lt (length_le_size input.chars) faces.size_lt_fuel

theorem skipSpaces_eq
    : source.skipSpaces (input.cursor depth) = .ok (input.skipSpaces.cursor depth) :=
  skipWhile_eq isSpace_ascii faces faces.length_lt_fuel

theorem skipDigits_eq
    : source.skipDigits (input.cursor depth)
      = .ok ((input.skip Decimal.isDigit).cursor depth) :=
  skipWhile_eq isDigit_ascii faces faces.length_lt_fuel

/-- The reader moves over the next character if it is of a kind. -/
theorem skipOne_eq (depth : Nat) {kind : Char → Bool}
    (ascii : ∀ char, kind char = true → char.toNat < 128)
    : source.skipOne kind (input.cursor depth)
      = .ok ((if input.chars.head?.any kind then input.advance else input).cursor depth) := by
  rw [Source.skipOne, Input.position_cursor, faces.any_peek ascii]
  split
  · rename_i next
    obtain ⟨char, first, holds⟩ := (Option.any_eq_true _ _).mp next
    obtain ⟨rest, starts⟩ := List.head?_eq_some_iff.mp first
    exact faces.advance_one depth (ascii char holds) starts
  · rfl

end Faces

-----------------------------------------------------------------------------------------
-- Reading alike
-----------------------------------------------------------------------------------------

/-- Two ways of reading agree: both reject what they read for the same reason, or they read the
same and are at the same place, inside as many containers as are given.
-/
inductive Agrees {α : Type} (source : Source) (depth : Nat)
    : Except Failure (α × Cursor) → Except SyntaxError (α × Input) → Prop where
  | rejects (error : SyntaxError) : Agrees source depth (.error (.rejected error)) (.error error)
  | reads (value : α) {last : Input} (faces : Faces source last)
      : Agrees source depth (.ok (value, last.cursor depth)) (.ok (value, last))

/-- Readers agree wherever they stand between characters. -/
def AgreesFrom {α : Type} (source : Source) (depth : Nat) (checked : ByteReader α)
    (read : Input → Except SyntaxError (α × Input)) : Prop :=
  ∀ input, Faces source input → Agrees source depth (checked (input.cursor depth)) (read input)

/-- Where the first steps agree, and the second steps behind what is read, both together do. -/
theorem Agrees.bind {α β : Type} {source : Source} {depth depth' : Nat}
    {checked : Except Failure (α × Cursor)} {read : Except SyntaxError (α × Input)}
    {checkedNext : α × Cursor → Except Failure (β × Cursor)}
    {readNext : α × Input → Except SyntaxError (β × Input)}
    (first : Agrees source depth checked read)
    (next
      : ∀ value last,
          read = .ok (value, last)
          → Faces source last
          → Agrees source depth' (checkedNext (value, last.cursor depth)) (readNext (value, last)))
    : Agrees source depth' (checked >>= checkedNext) (read >>= readNext) := by
  cases first with
  | rejects error => exact .rejects error
  | reads value faces => exact next value _ rfl faces

end LanguageClient.Json
