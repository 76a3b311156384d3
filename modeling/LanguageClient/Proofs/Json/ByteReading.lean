import LanguageClient.Proofs.Json.ByteNumbers
import LanguageClient.Proofs.Json.ByteStrings
import LanguageClient.Proofs.Json.Failures

/-! Values are read off the bytes of a text as off its characters, and what is rejected is so for
the same reason. So no text makes the reader take a slice or move where it must not, leave a
container that it has not entered, or go on without an end.
-/

namespace LanguageClient.Json

open Text
open Decimal (isDigit)

namespace Faces

variable {source : Source} {input : Input} (faces : Faces source input)

include faces

/-- What comes next is a byte of the same kinds as the next character. -/
theorem exists_peek {char : Char} {rest : List Char} (starts : input.chars = char :: rest)
    : ∃ byte,
        source.peek input.position = some byte
        ∧ ∀ kind : Char → Bool,
            (∀ other, kind other = true → other.toNat < 128) → kind byte = kind char := by
  have some : (bytewise input.chars).head? ≠ none := by
    intro none
    have size := length_bytewise input.chars
    have positive := char.utf8Size_pos
    rw [List.head?_eq_none_iff.mp none, starts, Utf8.size, List.length_nil] at size
    omega
  obtain ⟨byte, next⟩ := Option.ne_none_iff_exists'.mp some
  refine ⟨byte, faces.peek_eq.trans next, fun kind ascii => ?_⟩
  have same := any_head?_bytewise ascii input.chars
  rw [next, starts] at same
  exact same

theorem peek_eq_none (none : input.chars = []) : source.peek input.position = .none := by
  rw [faces.peek_eq, none]
  rfl

theorem peek_ne {char : Char} (ascii : char.toNat < 128)
    (other : ∀ rest, input.chars ≠ char :: rest)
    : source.peek input.position ≠ some char := by
  intro next
  obtain ⟨rest, starts⟩ := (faces.peek_eq_some_iff ascii).mp next
  exact other rest starts

/-- Both ways of reading go on behind a character that is expected, and reject anything else. -/
theorem agrees_expected {α : Type} {depth : Nat} {char : Char} (ascii : char.toNat < 128)
    {expected : String} {goesOn : Except Failure (α × Cursor)}
    {read : Except SyntaxError (α × Input)}
    (there : ∀ rest, input.chars = char :: rest → Agrees source depth goesOn read)
    (other : (∀ rest, input.chars ≠ char :: rest) → read = .error (input.unexpected expected))
    : Agrees source depth
        (if source.peek input.position = some char then goesOn
        else .error (source.unexpected expected (input.cursor depth)))
        read := by
  by_cases starts : ∃ rest, input.chars = char :: rest
  · rw [if_pos ((faces.peek_eq_some_iff ascii).mpr starts)]
    exact there _ starts.choose_spec
  · rw [if_neg (faces.peek_ne ascii (not_exists.mp starts)), faces.unexpected_eq,
      other (not_exists.mp starts)]
    exact .rejects _

/-- Both ways of reading go on behind a comma, end behind what closes the entries, and reject
anything else.
-/
theorem agrees_separator {α : Type} {depth : Nat} {close : Char} (ascii : close.toNat < 128)
    {expected : String} {goesOn ends : Except Failure (α × Cursor)}
    {read : Except SyntaxError (α × Input)}
    (comma : ∀ rest, input.chars = ',' :: rest → Agrees source depth goesOn read)
    (closed : ∀ rest, input.chars = close :: rest → Agrees source depth ends read)
    (other
      : (∀ rest, input.chars ≠ ',' :: rest)
        → (∀ rest, input.chars ≠ close :: rest)
        → read = .error (input.unexpected expected))
    : Agrees source depth
        (if source.peek input.position = some ',' then goesOn
        else if source.peek input.position = some close then ends
        else .error (source.unexpected expected (input.cursor depth)))
        read := by
  by_cases goes : ∃ rest, input.chars = ',' :: rest
  · rw [if_pos ((faces.peek_eq_some_iff (by decide)).mpr goes)]
    exact comma _ goes.choose_spec
  · rw [if_neg (faces.peek_ne (by decide) (not_exists.mp goes))]
    exact faces.agrees_expected ascii closed (other (not_exists.mp goes))

end Faces

/-- What is rejected by one way of reading is so by the other. -/
theorem Agrees.eq_of_error {α : Type} {source : Source} {depth : Nat}
    {checked : Except Failure (α × Cursor)} {read : Except SyntaxError (α × Input)}
    {error : SyntaxError} (agrees : Agrees source depth checked read) (failed : read = .error error)
    : checked = .error (.rejected error) := by
  subst failed
  cases agrees
  rfl

theorem Agrees.map {α β : Type} {source : Source} {depth : Nat}
    {checked : Except Failure (α × Cursor)} {read : Except SyntaxError (α × Input)}
    (agrees : Agrees source depth checked read) (make : α → β)
    : Agrees source depth (checked.map fun found => (make found.1, found.2))
        (read.map fun found => (make found.1, found.2)) := by
  cases agrees with
  | rejects error => exact .rejects error
  | reads value faces => exact .reads (make value) faces

-----------------------------------------------------------------------------------------
-- Arrays and objects
-----------------------------------------------------------------------------------------

/-- The values inside of others are read alike, and none is read where the text ends. -/
structure AgreesInside (source : Source) (depth levels : Nat) (item : ByteReader Value)
    (readItem : ValueReader) : Prop where
  agrees : AgreesFrom source depth item readItem
  sound : ReadsOnly levels readItem
  ends : ∀ input, input.chars = [] → readItem input = .error (.unexpectedEnd input.position)

/-- There is no field where the text ends. -/
theorem readField_nil {readItem : ValueReader} {input : Input} (none : input.chars = [])
    : readField readItem input = .error (.unexpectedEnd input.position) := by
  obtain ⟨chars, position⟩ := input
  subst none
  rfl

section

variable {source : Source} {depth levels : Nat} {item : ByteReader Value} {readItem : ValueReader}
  (inside : AgreesInside source depth levels item readItem)

include inside

/-- Items are read alike, by induction on the bound of their number. -/
theorem agrees_items {fuel bound : Nat} {input : Input} (faces : Faces source input)
    (enough : input.chars.length < fuel) (covered : input.chars.length ≤ bound)
    : Agrees source depth (source.items item fuel (input.cursor depth))
        (readItems readItem bound input) := by
  induction fuel generalizing bound input with
  | zero => cases enough
  | succ fuel ih =>
      cases bound with
      | zero =>
          have none := List.length_eq_zero_iff.mp (Nat.le_zero.mp covered)
          have failed := (inside.agrees input faces).eq_of_error (inside.ends input none)
          rw [Source.items, failed]
          exact .rejects _
      | succ bound =>
          rw [Source.items, readItems]
          refine (inside.agrees input faces).bind fun value behind read faces' => ?_
          obtain ⟨_, taken, split, _⟩ := inside.sound.isEntry read
          have next := faces'.skipSpaces
          dsimp only
          rw [faces'.skipSpaces_eq]
          dsimp only [Bind.bind, Except.bind]
          rw [Input.position_cursor]
          refine next.agrees_separator (by decide) (fun rest comma => ?_) (fun rest bracket => ?_)
            fun noComma noBracket => ?_
          · have shorter := length_behind_comma split comma
            rw [next.advance_one depth (by decide) comma, comma]
            exact (ih next.advance (by omega) (by omega)).bind fun values last _ => .reads _
          · rw [next.advance_one depth (by decide) bracket, bracket]
            exact .reads _ next.advance
          · split
            · exact absurd ‹_› (noComma _)
            · exact absurd ‹_› (noBracket _)
            · rfl

/-- A field is read alike: its name, what is between name and value, and the value. -/
theorem agrees_field {input : Input} (faces : Faces source input)
    : Agrees source depth (source.field item (input.cursor depth)) (readField readItem input) := by
  have start := faces.skipSpaces
  rw [Source.field, readField, faces.skipSpaces_eq]
  dsimp only [Bind.bind, Except.bind]
  rw [Input.position_cursor]
  refine start.agrees_expected (by decide) (fun text quote => ?_) fun noQuote => ?_
  · rw [quote]
    refine (start.agrees_string quote).bind fun name behind _ faces' => ?_
    have next := faces'.skipSpaces
    dsimp only
    rw [faces'.skipSpaces_eq]
    dsimp only
    rw [Input.position_cursor]
    refine next.agrees_expected (by decide) (fun rest colon => ?_) fun noColon => ?_
    · rw [next.advance_one depth (by decide) colon, colon]
      exact (inside.agrees _ next.advance).bind fun value last _ => .reads _
    · split
      · exact absurd ‹_› (noColon _)
      · rfl
  · split
    · exact absurd ‹_› (noQuote _)
    · rfl

/-- Fields are read alike, by induction on the bound of their number. -/
theorem agrees_fields {fuel bound : Nat} {input : Input} (faces : Faces source input)
    (enough : input.chars.length < fuel) (covered : input.chars.length ≤ bound)
    : Agrees source depth (source.fields item fuel (input.cursor depth))
        (readFields readItem bound input) := by
  induction fuel generalizing bound input with
  | zero => cases enough
  | succ fuel ih =>
      cases bound with
      | zero =>
          have none := List.length_eq_zero_iff.mp (Nat.le_zero.mp covered)
          have failed := (agrees_field inside faces).eq_of_error (readField_nil none)
          rw [Source.fields, failed]
          exact .rejects _
      | succ bound =>
          rw [Source.fields, readFields]
          refine (agrees_field inside faces).bind fun named behind read faces' => ?_
          obtain ⟨_, taken, split, _⟩ := readField_isEntry inside.sound read
          have next := faces'.skipSpaces
          dsimp only
          rw [faces'.skipSpaces_eq]
          dsimp only [Bind.bind, Except.bind]
          rw [Input.position_cursor]
          refine next.agrees_separator (by decide) (fun rest comma => ?_) (fun rest brace => ?_)
            fun noComma noBrace => ?_
          · have shorter := length_behind_comma split comma
            rw [next.advance_one depth (by decide) comma, comma]
            exact (ih next.advance (by omega) (by omega)).bind fun others last _ => .reads _
          · rw [next.advance_one depth (by decide) brace, brace]
            exact .reads _ next.advance
          · split
            · exact absurd ‹_› (noComma _)
            · exact absurd ‹_› (noBrace _)
            · rfl

end

theorem enter_eq {source : Source} {input : Input} {depth : Nat} (faces : Faces source input)
    (room : depth < nestingLimit) {char : Char} {rest : List Char} (ascii : char.toNat < 128)
    (opens : input.chars = char :: rest)
    : source.enter (input.cursor depth) = .ok (input.advance.cursor (depth + 1)) := by
  have within : ¬ nestingLimit < depth + 1 := Nat.not_lt.mpr room
  rw [Source.enter]
  exact (if_neg within).trans (faces.advance_one (depth + 1) ascii opens)

theorem enter_tooDeep {source : Source} {input : Input} {depth : Nat}
    (full : depth = nestingLimit)
    : source.enter (input.cursor depth)
      = .error (.rejected (.tooDeep nestingLimit input.position)) :=
  if_pos (show nestingLimit < depth + 1 by omega)

/-- What is inside a container is left as deep as the container has been entered. -/
theorem agrees_contents {source : Source} {first : Input} {depth : Nat}
    (faces : Faces source first) {close : Char} (ascii : close.toNat < 128) {α : Type}
    {checked : Except Failure (α × Cursor)} {contents : Except SyntaxError (α × Input)}
    (inner : Agrees source (depth + 1) checked contents) {empty : Value} {make : α → Value}
    {read : Except SyntaxError (Value × Input)}
    (closed : ∀ rest, first.chars = close :: rest → read = .ok (empty, first.advance))
    (other
      : (∀ rest, first.chars ≠ close :: rest)
        → read = contents >>= fun made => .ok (make made.1, made.2))
    : Agrees source depth
        (if source.peek first.position = some close then do
          return (empty, ← Source.leave (← source.advance 1 (first.cursor (depth + 1))))
        else do
          let (values, last) ← checked
          return (make values, ← Source.leave last))
        read := by
  by_cases none : ∃ rest, first.chars = close :: rest
  · have peek := (faces.peek_eq_some_iff ascii).mpr none
    obtain ⟨rest, starts⟩ := none
    rw [if_pos peek, faces.advance_one _ ascii starts, closed rest starts]
    exact .reads _ faces.advance
  · rw [if_neg (faces.peek_ne ascii (not_exists.mp none)), other (not_exists.mp none)]
    exact inner.bind fun values last _ => .reads _

section

variable {source : Source} {depth levels : Nat} {item : ByteReader Value} {readItem : ValueReader}
  (inside : AgreesInside source (depth + 1) levels item readItem) (room : depth < nestingLimit)

include inside room

theorem agrees_array {input : Input} (faces : Faces source input) {rest : List Char}
    (opens : input.chars = '[' :: rest)
    : Agrees source depth (source.array item (input.cursor depth))
        (readArray readItem input.advance) := by
  have first := faces.advance.skipSpaces
  have inner := agrees_items inside first first.length_lt_fuel (Nat.le_refl _)
  rw [Source.array, enter_eq faces room (by decide) opens]
  dsimp only [Bind.bind, Except.bind]
  rw [faces.advance.skipSpaces_eq]
  refine agrees_contents first (by decide) inner (fun more bracket => ?_) fun noBracket => ?_
  · rw [readArray, bracket]
    rfl
  · rw [readArray]
    split
    · exact absurd ‹_› (noBracket _)
    · rfl

theorem agrees_object {input : Input} (faces : Faces source input) {rest : List Char}
    (opens : input.chars = '\x7b' :: rest)
    : Agrees source depth (source.object item (input.cursor depth))
        (readObject readItem input.advance) := by
  have first := faces.advance.skipSpaces
  have inner := agrees_fields inside first first.length_lt_fuel (Nat.le_refl _)
  rw [Source.object, enter_eq faces room (by decide) opens]
  dsimp only [Bind.bind, Except.bind]
  rw [faces.advance.skipSpaces_eq]
  refine agrees_contents first (by decide) inner (fun more brace => ?_) fun noBrace => ?_
  · rw [readObject, brace]
    rfl
  · rw [readObject]
    split
    · exact absurd ‹_› (noBrace _)
    · rfl

end

-----------------------------------------------------------------------------------------
-- Values
-----------------------------------------------------------------------------------------

/-- White space is skipped in front of what is announced, and the value left as deep as it has
been entered.
-/
theorem Agrees.of_announced {source : Source} {input : Input} {depth : Nat}
    (faces : Faces source input) {item : ByteReader Value}
    {read : Except SyntaxError (Value × Input)}
    (announced : Agrees source depth (source.announced item (input.skipSpaces.cursor depth)) read)
    : Agrees source depth (source.valueWith item (input.cursor depth)) read := by
  rw [Source.valueWith, faces.skipSpaces_eq]
  dsimp only [Bind.bind, Except.bind]
  generalize source.announced item (input.skipSpaces.cursor depth) = checked at announced
  cases announced with
  | rejects error => exact .rejects error
  | @reads value last behind =>
      have left : (last.cursor depth).depth = (input.cursor depth).depth := rfl
      dsimp only
      rw [if_pos left]
      exact .reads value behind

/-- A value is read alike, given that for the values inside it unless no more may be inside. -/
theorem agrees_valueWith {source : Source} {depth : Nat} {item : ByteReader Value}
    {readItem : Option ValueReader} (full : readItem = none → depth = nestingLimit)
    (inside
      : ∀ reader,
          readItem = some reader
          → depth < nestingLimit
            ∧ ∃ levels, AgreesInside source (depth + 1) levels item reader)
    : AgreesFrom source depth (source.valueWith item) (readValueWith readItem) := by
  intro input faces
  have start := faces.skipSpaces
  refine Agrees.of_announced faces ?_
  rw [Source.announced, readValueWith, Input.position_cursor]
  cases starts : input.skipSpaces.chars with
  | nil =>
      rw [start.peek_eq_none starts]
      exact .rejects _
  | cons first rest =>
      obtain ⟨byte, peek, alike⟩ := start.exists_peek starts
      have same {char : Char} (ascii : char.toNat < 128) : byte = char ↔ first = char := by
        have kind := alike (· == char) fun other equal => beq_iff_eq.mp equal ▸ ascii
        simpa using kind
      have number : byte = '-' ∨ isDigit byte = true ↔ first = '-' ∨ isDigit first = true := by
        have kind := alike (fun char => char == '-' || isDigit char) fun other either => by
          rcases Bool.or_eq_true _ _ ▸ either with minus | digit
          · exact isMinus_ascii other minus
          · exact isDigit_ascii other digit
        rw [Bool.eq_iff_iff] at kind
        simpa using kind
      rw [peek]
      dsimp only
      simp only [same (show '\x7b'.toNat < 128 by decide), same (show '['.toNat < 128 by decide),
        same (show '"'.toNat < 128 by decide), number, beq_iff_eq, Bool.or_eq_true]
      by_cases brace : first = '\x7b'
      · subst brace
        rw [if_pos rfl, if_pos (Or.inl rfl)]
        cases readItem with
        | none =>
            rw [Source.object, enter_tooDeep (full rfl)]
            exact .rejects _
        | some reader =>
            obtain ⟨room, levels, inside⟩ := inside reader rfl
            exact agrees_object inside room start starts
      by_cases bracket : first = '['
      · subst bracket
        rw [if_neg brace, if_pos rfl, if_pos (Or.inr rfl)]
        cases readItem with
        | none =>
            rw [Source.array, enter_tooDeep (full rfl)]
            exact .rejects _
        | some reader =>
            obtain ⟨room, levels, inside⟩ := inside reader rfl
            exact agrees_array inside room start starts
      rw [if_neg brace, if_neg bracket, if_neg (not_or.mpr ⟨brace, bracket⟩)]
      by_cases quote : first = '"'
      · subst quote
        rw [if_pos rfl, if_pos rfl]
        exact (start.agrees_string starts).map _
      rw [if_neg quote, if_neg quote]
      split
      · exact start.agrees_number depth
      · exact start.agrees_literal depth

/-- There is no value where the text ends. -/
theorem readNested_nil (levels : Nat) (input : Input) (none : input.chars = [])
    : readNested levels input = .error (.unexpectedEnd input.position) := by
  obtain ⟨chars, position⟩ := input
  subst none
  cases levels <;> rfl

/-- A value is read alike, by induction on the levels of nesting that are left. -/
theorem agrees_value (source : Source) {depth levels : Nat} (limit : depth + levels = nestingLimit)
    : AgreesFrom source depth (source.value (levels + 1)) (readNested levels) := by
  induction levels generalizing depth with
  | zero => exact agrees_valueWith (fun _ => limit) fun reader none => nomatch none
  | succ levels ih =>
      refine agrees_valueWith nofun fun reader same => ⟨by omega, levels, ?_⟩
      obtain rfl := Option.some.inj same
      exact { agrees := ih (by omega), sound := readNested_sound levels, ends := readNested_nil levels }

-----------------------------------------------------------------------------------------
-- Starts
-----------------------------------------------------------------------------------------

/-- Where no character starts, one of several bytes goes on. -/
theorem exists_large_of_charsFromByte? {chars : List Char} {byte : Nat}
    (none : charsFromByte? chars byte = none) (within : byte ≤ Utf8.size chars)
    : ∃ large, (bytewise chars)[byte]? = some large ∧ 128 ≤ large.toNat := by
  fun_induction charsFromByte? chars byte with
  | case1 => cases none
  | case2 => cases within
  | case3 char chars byte past ih =>
      rw [Utf8.size] at within
      obtain ⟨large, found, atLeast⟩ := ih none (by omega)
      refine ⟨large, ?_, atLeast⟩
      have length : ((String.utf8EncodeChar char).map charOfByte).length = char.utf8Size := by
        rw [List.length_map, String.length_utf8EncodeChar]
      rw [bytewise_cons, List.getElem?_append_right (by omega), length]
      exact found
  | case4 char chars byte inside =>
      have several : ¬ char.toNat < 128 := by
        intro ascii
        have one := size_ascii ascii
        rw [Utf8.size, Utf8.size] at one
        omega
      obtain ⟨first, others, bytes, length, large⟩ := bytewise_large (Nat.not_lt.mp several) chars
      have inside' : byte + 1 < (first :: others).length := by omega
      rw [bytes, List.getElem?_append_left inside', List.getElem?_eq_getElem inside']
      exact ⟨_, rfl, large _ (List.getElem_mem inside')⟩

section

variable {source : Source} {position : Nat} {large : Char}
  (next : source.peek position = some large) (several : 128 ≤ large.toNat)

include next several

/-- No word that is a value starts inside a character. -/
theorem find?_literals_eq_none
    : (Source.literals.find? fun named =>
        (Utf8.encode named.1).isPrefixOf (source.bytes.drop position)) = none := by
  have ascii
      : ∀ named ∈ Source.literals,
          named.1.toList ≠ [] ∧ ∀ char ∈ named.1.toList, char.toNat < 128 := by
    simp [Source.literals]
  refine List.find?_eq_none.mpr fun named member starts => ?_
  obtain ⟨some, small⟩ := ascii named member
  have bytes := (List.isPrefixOf_iff_prefix.mp starts).map charOfByte
  have word : (Utf8.encode named.1).map charOfByte = named.1.toList := bytewise_of_ascii small
  obtain ⟨first, others, chars⟩ := List.exists_cons_of_ne_nil some
  rw [List.map_drop, word, chars] at bytes
  obtain ⟨more, same⟩ := bytes
  have head : source.peek position = .some first := by
    rw [Source.peek, ← List.head?_drop]
    exact (congrArg List.head? same).symm
  obtain rfl := Option.some.inj (next.symm.trans head)
  exact absurd (small large (chars ▸ List.mem_cons_self)) (Nat.not_lt.mpr several)

/-- Nothing is read that starts inside a character. -/
theorem value_inside_char (within : position ≤ source.size) (levels depth : Nat)
    : source.value (levels + 1) { position, depth }
      = .error (.rejected (.unknownLiteral position)) := by
  have differs {char : Char} (ascii : char.toNat < 128) : large ≠ char :=
    fun same => absurd ascii (Nat.not_lt.mpr (same ▸ several))
  have blank : isSpace large = false :=
    Bool.eq_false_iff.mpr fun space => differs (isSpace_ascii large space) rfl
  have digit : isDigit large = false :=
    Bool.eq_false_iff.mpr fun digit => differs (isDigit_ascii large digit) rfl
  have skipped : source.skipSpaces { position, depth } = .ok { position, depth } := by
    rw [Source.skipSpaces, Source.fuel, Source.skipWhile, next, Option.any_some, blank]
    rfl
  have noNumber : ¬ (large = '-' ∨ isDigit large = true) := by
    rintro (minus | number)
    · exact differs (by decide) minus
    · exact absurd (digit.symm.trans number) (by decide)
  have rest : source.bytesFrom position = .ok (source.bytes.drop position) := if_pos within
  have word
      : source.literal { position, depth } = .error (.rejected (.unknownLiteral position)) := by
    rw [Source.literal, rest]
    dsimp only [Bind.bind, Except.bind]
    rw [find?_literals_eq_none next several]
  rw [Source.value, Source.valueWith, skipped]
  dsimp only [Bind.bind, Except.bind]
  rw [Source.announced, next]
  dsimp only
  rw [if_neg (differs (by decide)), if_neg (differs (by decide)), if_neg (differs (by decide)),
    if_neg noNumber, word]

end

-----------------------------------------------------------------------------------------
-- Texts
-----------------------------------------------------------------------------------------

/-- As many bytes of a kind of ASCII characters come first as there are such characters. -/
theorem length_takeWhile_bytes {kind : Char → Bool}
    (ascii : ∀ char, kind char = true → char.toNat < 128) (chars : List Char)
    : ((chars.flatMap String.utf8EncodeChar).takeWhile fun byte => kind (charOfByte byte)).length
      = Utf8.size (chars.takeWhile kind) := by
  have small : ∀ char ∈ chars.takeWhile kind, char.toNat < 128 :=
    fun char member => ascii char (List.all_eq_true.mp List.all_takeWhile char member)
  rw [size_of_ascii small, ← takeWhile_bytewise ascii, bytewise, List.takeWhile_map,
    List.length_map]
  rfl

/-- Between characters, the start of a reading faces what follows there. -/
theorem faces_start {source : Source} {chars : List Char}
    (found : charsFromByte? source.chars source.start = some chars)
    : Faces source { chars, position := source.start } := by
  obtain ⟨front, whole, size⟩ := exists_front_of_charsFromByte? found
  refine { suffix := ⟨front, whole.symm⟩, stop := ?_, started := Nat.le_refl _ }
  rw [Input.stop, Source.size, whole, Utf8.size_append, size]

/-- Reading from the start of a source agrees with reading from the characters there. -/
theorem agrees_start {source : Source} {chars : List Char}
    (found : charsFromByte? source.chars source.start = some chars)
    : Agrees source 0
        (source.value (nestingLimit + 1) { position := source.start, depth := 0 })
        (readValue { chars, position := source.start }) :=
  agrees_value source (Nat.zero_add nestingLimit) _ (faces_start found)

namespace Value

/-- Whatever follows a byte is read off the bytes as off the characters. -/
theorem readBytesFrom_eq (text : String) (start : Nat)
    : readBytesFrom text start = (readFrom text start).mapError .rejected := by
  rw [readBytesFrom, readFrom, utf8ByteSize_eq]
  by_cases past : Utf8.size text.toList < start
  · rw [if_pos past]
    exact if_pos past
  · have within := Nat.not_lt.mp past
    rw [if_neg past]
    refine (if_neg past).trans ?_
    cases found : charsFromByte? text.toList start with
    | none =>
        obtain ⟨large, next, several⟩ := exists_large_of_charsFromByte? found within
        have peek : Source.peek ⟨text.toList, start⟩ start = some large := next
        rw [value_inside_char peek several within]
        rfl
    | some chars =>
        have agrees := @agrees_start ⟨text.toList, start⟩ chars found
        dsimp only at agrees ⊢
        generalize readValue { chars, position := start } = read at agrees ⊢
        generalize Source.value _ _ _ = checked at agrees ⊢
        cases agrees with
        | rejects error => rfl
        | reads value faces => rfl

/-- A whole text is read off the bytes as off the characters. -/
theorem readWholeBytes_eq (text : String)
    : readWholeBytes text = (read text).mapError .rejected := by
  have whole : charsFromByte? text.toList 0 = some text.toList := by
    cases text.toList <;> rfl
  have agrees := @agrees_start ⟨text.toList, 0⟩ text.toList whole
  have same
      : readBytesFrom text 0
        = (Source.value ⟨text.toList, 0⟩ (nestingLimit + 1) ⟨0, 0⟩).map fun read =>
            (read.1, read.2.position) := by
    rw [readBytesFrom]
    exact if_neg (Nat.not_lt_zero _)
  rw [readWholeBytes, read, same]
  dsimp only at agrees ⊢
  generalize readValue { chars := text.toList, position := 0 } = read at agrees ⊢
  generalize Source.value _ _ _ = checked at agrees ⊢
  cases agrees with
  | rejects error => rfl
  | @reads value last faces =>
      have stop := faces.skipSpaces.stop
      have position
          : last.position
              + ((last.chars.flatMap String.utf8EncodeChar).takeWhile fun byte =>
                isSpace (charOfByte byte)).length
            = last.skipSpaces.position := by
        rw [length_takeWhile_bytes isSpace_ascii]
        rfl
      dsimp only [Bind.bind, Except.bind, Except.map]
      rw [Input.position_cursor, faces.bytesFrom_eq]
      dsimp only
      rw [position, ← stop, Input.stop]
      cases rest : last.skipSpaces.chars with
      | nil => exact if_neg (Nat.lt_irrefl _)
      | cons char more =>
          have positive := char.utf8Size_pos
          exact if_pos (by rw [Utf8.size]; omega)

/-- Whatever the text and wherever reading starts, the reader never does what it must not: a value
is read, or the text rejected, as it is character by character.
-/
theorem reading_keeps_to_text (text : String) (start : Nat)
    : readBytesFrom text start = (readFrom text start).mapError .rejected
      ∧ readWholeBytes text = (read text).mapError .rejected
      ∧ ∀ fault,
          readBytesFrom text start ≠ .error (.fault fault)
          ∧ readWholeBytes text ≠ .error (.fault fault) := by
  have kept {α : Type} (outcome : Except SyntaxError α) (fault : Fault)
      : outcome.mapError Failure.rejected ≠ .error (.fault fault) := by
    cases outcome <;> simp [Except.mapError]
  refine ⟨readBytesFrom_eq text start, readWholeBytes_eq text, fun fault => ⟨?_, ?_⟩⟩
  · rw [readBytesFrom_eq]
    exact kept _ fault
  · rw [readWholeBytes_eq]
    exact kept _ fault

end Value

end LanguageClient.Json
