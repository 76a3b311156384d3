import LanguageClient.Proofs.Json.Behind

/-! Where reading stops. Up to the byte that an error names, a text is the start of a document, so
that what is wrong is never in front of that byte.
-/

namespace LanguageClient.Json

open Text (Utf8.size utf8ByteSize_ofList)

-----------------------------------------------------------------------------------------
-- Starts that can be finished
-----------------------------------------------------------------------------------------

/-- A text can be finished in such a way that it is related to whatever follows then. -/
def Finishes (related : List Char → List Char → Prop) (front : List Char) : Prop :=
  ∃ more, ∀ rest, related (front ++ (more ++ rest)) rest

/-- What an error says of a text whose end it points at, given what texts can be finished. -/
def SyntaxError.Describes (finishes : List Char → Prop) (text back : List Char)
    : SyntaxError → Prop
  | .unexpectedEnd _ => back = []
  | .unterminatedString _ => finishes text
  | .unexpectedChar _ found _ => ∃ behind, back = found :: behind
  | .invalidNumber number _ => number.toList <+: back
  | .unknownLiteral _ => back ≠ []
  | .tooDeep limit _ =>
    limit = nestingLimit ∧ ∃ behind, back = '[' :: behind ∨ back = '\x7b' :: behind
  | .trailingCharacters _ | .invalidUtf8 _ => False

/-- An error points behind a start of an input that can be finished. -/
def Marks (finishes : List Char → Prop) (input : Input) (error : SyntaxError) : Prop :=
  ∃ front back,
    input.chars = front ++ back
    ∧ error.position = input.position + Utf8.size front
    ∧ finishes front
    ∧ error.Describes finishes input.chars back

section

variable {finishes finishes' : List Char → Prop} {input last : Input} {error : SyntaxError}

/-- An error of what is left points to the same place of the whole input. -/
theorem Marks.behind {taken : List Char} (marks : Marks finishes last error)
    (split : input.chars = taken ++ last.chars) (stop : last.stop = input.stop)
    (goesOn : ∀ front, finishes front → finishes' (taken ++ front))
    : Marks finishes' input error := by
  obtain ⟨front, back, same, position, finished, describes⟩ := marks
  refine ⟨taken ++ front, back, by simp [split, same], ?_, goesOn front finished, ?_⟩
  · have whole := congrArg Utf8.size split
    simp only [Input.stop, Text.Utf8.size_append] at stop whole ⊢
    omega
  · cases error with
    | unterminatedString position => exact split ▸ goesOn last.chars describes
    | _ => exact describes

theorem Marks.mono (marks : Marks finishes input error)
    (weaker : ∀ front, finishes front → finishes' front)
    : Marks finishes' input error :=
  marks.behind (List.nil_append _).symm rfl weaker

/-- Where something else stands than what is expected, the error points there. -/
theorem marks_unexpected (finished : finishes []) (expected : String)
    : Marks finishes input (input.unexpected expected) := by
  unfold Input.unexpected
  split
  · rename_i none
    exact ⟨[], [], none, rfl, finished, rfl⟩
  · rename_i found behind some
    exact ⟨[], _, rfl, rfl, finished, behind, some⟩

/-- An error behind the first character points behind it. -/
theorem Marks.behind_char {first : Char} {text : List Char}
    (marks : Marks finishes input.advance error) (starts : input.chars = first :: text)
    (goesOn : ∀ front, finishes front → finishes' (first :: front))
    : Marks finishes' input error := by
  have split : input.chars = [first] ++ input.advance.chars := by simp [starts]
  exact marks.behind split (Input.stop_advance input) goesOn

/-- An error behind white space points behind it. -/
theorem Marks.behind_spaces (marks : Marks finishes input.skipSpaces error)
    (goesOn
      : ∀ blanks front,
          (∀ char ∈ blanks, isSpace char = true) → finishes front → finishes' (blanks ++ front))
    : Marks finishes' input error :=
  marks.behind List.takeWhile_append_dropWhile.symm (Input.stop_skipSpaces input)
    fun front => goesOn _ front (List.all_eq_true.mp List.all_takeWhile)

/-- An error behind some characters and white space points behind them. -/
theorem Marks.behind_taken {taken : List Char} (marks : Marks finishes last.skipSpaces error)
    (split : input.chars = taken ++ last.chars) (stop : last.stop = input.stop)
    (goesOn
      : ∀ blanks front,
          (∀ char ∈ blanks, isSpace char = true)
          → finishes front
          → finishes' (taken ++ (blanks ++ front)))
    : Marks finishes' input error := by
  have spaced : Marks (fun front => finishes' (taken ++ front)) last error :=
    marks.behind_spaces goesOn
  exact spaced.behind split stop fun _ => id

end

-----------------------------------------------------------------------------------------
-- What texts start with
-----------------------------------------------------------------------------------------

/-- A text starts with a value of some levels, behind white space. -/
def HasValue (levels : Nat) (text rest : List Char) : Prop :=
  ∃ value, SpellsSpaced levels text value rest

/-- A text starts with items and a closing bracket. -/
def HasItems (levels : Nat) (text rest : List Char) : Prop :=
  ∃ items, SpellsItems levels text items rest

/-- A text starts with a field. -/
def HasField (levels : Nat) (text rest : List Char) : Prop :=
  ∃ field, SpellsField levels text field rest

/-- A text starts with fields and a closing brace. -/
def HasFields (levels : Nat) (text rest : List Char) : Prop :=
  ∃ fields, SpellsFields levels text fields rest

/-- A text starts with a string in quotes. -/
def HasString (text rest : List Char) : Prop :=
  ∃ name chars, text = '"' :: name ∧ Quoted name chars rest

/-- A text starts with a colon and a value. -/
def HasColon (levels : Nat) (text rest : List Char) : Prop :=
  ∃ later, text = ':' :: later ∧ HasValue levels later rest

-----------------------------------------------------------------------------------------
-- Strings, numbers and literals
-----------------------------------------------------------------------------------------

/-- Quotes that are not closed can be, also behind a backslash. -/
theorem exists_splitAtQuote_append {text : List Char} (none : splitAtQuote text = none)
    : ∃ more, ∀ rest, ∃ body, splitAtQuote (text ++ (more ++ rest)) = some (body, rest) := by
  fun_induction splitAtQuote text with
  | case1 => exact ⟨['"'], fun rest => ⟨[], rfl⟩⟩
  | case2 => cases none
  | case3 char behind ih =>
      obtain ⟨more, closes⟩ := ih (Option.map_eq_none_iff.mp none)
      refine ⟨more, fun rest => ?_⟩
      obtain ⟨body, closed⟩ := closes rest
      exact ⟨'\\' :: char :: body, by simp [splitAtQuote_escape, closed]⟩
  | case4 char behind unquoted plain ih =>
      obtain ⟨more, closes⟩ := ih (Option.map_eq_none_iff.mp none)
      by_cases escape : char = '\\'
      · cases behind with
        | nil => exact ⟨['\\', '"'], fun rest => ⟨['\\', '\\'], by simp [escape, splitAtQuote]⟩⟩
        | cons next behind => exact (plain next behind escape rfl).elim
      · refine ⟨more, fun rest => ?_⟩
        obtain ⟨body, closed⟩ := closes rest
        exact ⟨char :: body, by simp [splitAtQuote_raw unquoted escape, closed]⟩

theorem finishes_string : Finishes HasString [] :=
  ⟨['"', '"'], fun rest => ⟨'"' :: rest, [], rfl, .close rest⟩⟩

/-- A string that is not read can be gone on with. -/
theorem readString_fails {input : Input} {error : SyntaxError} {text : List Char}
    (starts : input.chars = '"' :: text) (failed : readString input = .error error)
    : Marks (Finishes HasString) input error := by
  unfold readString at failed
  rw [starts, List.drop_succ_cons, List.drop_zero] at failed
  split at failed
  · rename_i none
    obtain rfl := Except.error.inj failed
    obtain ⟨more, closes⟩ := exists_splitAtQuote_append none
    refine ⟨[], input.chars, rfl, rfl, finishes_string, more, fun rest => ?_⟩
    obtain ⟨body, closed⟩ := closes rest
    exact ⟨_, _, by rw [starts, List.cons_append], quoted_of_splitAtQuote closed⟩
  · cases failed

theorem finishes_value (levels : Nat) {blanks : List Char}
    (blank : ∀ char ∈ blanks, isSpace char = true)
    : Finishes (HasValue levels) blanks :=
  ⟨['n', 'u', 'l', 'l'], fun rest => ⟨.null, _, blanks_append blank _, .null levels rest⟩⟩

/-- What is scanned of a number is at the start of the text. -/
theorem scanNumber_starts (text : List Char) : (scanNumber text).1.chars <+: text := by
  by_cases none : (scanNumber text).1.whole = []
  · obtain ⟨sign, unsigned, rfl, signed⟩ := exists_sign text
    by_cases digits : unsigned.takeWhile Decimal.isDigit = []
    · rw [scanNumber_none signed digits]
      simp [NumberToken.chars]
    · rw [scanNumber_eq signed digits] at none
      exact absurd none digits
  · exact ⟨_, (scanNumber_written none).2⟩

theorem readNumber_fails (levels : Nat) {input : Input} {error : SyntaxError}
    (failed : readNumber input = .error error)
    : Marks (Finishes (HasValue levels)) input error := by
  unfold readNumber at failed
  dsimp only at failed
  split at failed
  · obtain rfl := Except.error.inj failed
    refine ⟨[], input.chars, rfl, rfl, finishes_value levels (List.forall_mem_nil _), ?_⟩
    rw [SyntaxError.Describes, String.toList_ofList]
    exact scanNumber_starts input.chars
  · cases failed

theorem readLiteral_fails (levels : Nat) {input : Input} {error : SyntaxError}
    (some : input.chars ≠ []) (failed : readLiteral input = .error error)
    : Marks (Finishes (HasValue levels)) input error := by
  unfold readLiteral at failed
  split at failed
  · cases failed
  · cases failed
  · cases failed
  · obtain rfl := Except.error.inj failed
    exact ⟨[], input.chars, rfl, rfl, finishes_value levels (List.forall_mem_nil _), some⟩

-----------------------------------------------------------------------------------------
-- Entries with commas between them
-----------------------------------------------------------------------------------------

/-- Some characters are an entry in front of whatever no number goes on with. -/
def IsEntry (entry : List Char → List Char → Prop) (taken : List Char) : Prop :=
  ∀ other, StopsNumbers other → entry (taken ++ other) other

/-- Entries with commas between them, up to what closes them. -/
structure Separated (entry entries : List Char → List Char → Prop) (close : Char) : Prop where
  apart : close ∉ numberChars
  last
    : ∀ {text behind rest},
        entry text behind → Blanks behind (close :: rest) → entries text rest
  more
    : ∀ {text behind next rest},
        entry text behind
        → Blanks behind (',' :: next)
        → entries next rest
        → entries text rest

namespace Separated

variable {entry entries : List Char → List Char → Prop} {close : Char}
  (separated : Separated entry entries close)

include separated

/-- Where an entry can be finished, all entries can. -/
theorem finishes_first {front : List Char} (finishes : Finishes entry front)
    : Finishes entries front := by
  obtain ⟨more, finished⟩ := finishes
  refine ⟨more ++ [close], fun rest => ?_⟩
  have first := finished (close :: rest)
  exact separated.last (by simpa using first) (.none _)

theorem finishes_closed {taken blanks : List Char} (kept : IsEntry entry taken)
    (blank : ∀ char ∈ blanks, isSpace char = true)
    : Finishes entries (taken ++ blanks) := by
  refine ⟨[close], fun rest => ?_⟩
  have stops := stopsNumbers_append blank (stopsNumbers_cons separated.apart rest)
  have first := kept _ stops
  exact separated.last (by simpa using first) (blanks_append blank _)

theorem finishes_comma {taken blanks front : List Char} (kept : IsEntry entry taken)
    (blank : ∀ char ∈ blanks, isSpace char = true) (finishes : Finishes entries front)
    : Finishes entries (taken ++ (blanks ++ ',' :: front)) := by
  obtain ⟨more, finished⟩ := finishes
  refine ⟨more, fun rest => ?_⟩
  have apart : ',' ∉ numberChars := by decide
  have stops := stopsNumbers_cons apart (front ++ (more ++ rest))
  have first := kept _ (stopsNumbers_append blank stops)
  exact separated.more (by simpa using first) (blanks_append blank _) (finished rest)

variable {input behind : Input} {taken : List Char} (kept : IsEntry entry taken)
  (split : input.chars = taken ++ behind.chars) (stop : behind.stop = input.stop)

include kept split stop

/-- What follows an entry is wrong where neither a comma nor what closes the entries stands. -/
theorem marks_separator (expected : String)
    : Marks (Finishes entries) input (behind.skipSpaces.unexpected expected) := by
  have here := @marks_unexpected (fun front => front = []) behind.skipSpaces rfl expected
  refine here.behind_taken split stop fun blanks front blank none => ?_
  rw [none, List.append_nil]
  exact separated.finishes_closed kept blank

/-- What is wrong behind the comma that follows an entry is so behind the entry. -/
theorem marks_comma {error : SyntaxError} {text : List Char}
    (comma : behind.skipSpaces.chars = ',' :: text)
    (marks : Marks (Finishes entries) behind.skipSpaces.advance error)
    : Marks (Finishes entries) input error := by
  have here
      : Marks (fun front => ∃ later, front = ',' :: later ∧ Finishes entries later)
          behind.skipSpaces error :=
    marks.behind_char comma fun later finishes => ⟨later, rfl, finishes⟩
  refine here.behind_taken split stop fun blanks front blank found => ?_
  obtain ⟨later, rfl, finishes⟩ := found
  exact separated.finishes_comma kept blank finishes

end Separated

/-- What fails in two steps fails in one of them. -/
theorem error_of_bind {ε α β : Type} {first : Except ε α} {next : α → Except ε β} {error : ε}
    (failed : (first >>= next) = .error error)
    : first = .error error ∨ ∃ value, first = .ok value ∧ next value = .error error := by
  cases first with
  | error stopped => exact .inl (congrArg Except.error (Except.error.inj failed))
  | ok value => exact .inr ⟨value, rfl, failed⟩

-----------------------------------------------------------------------------------------
-- Items and fields
-----------------------------------------------------------------------------------------

/-- Every error of a reader points behind the start of a value of some levels. -/
def FailsMarked (levels : Nat) (readItem : ValueReader) : Prop :=
  ∀ input error,
    readItem input = .error error → Marks (Finishes (HasValue levels)) input error

theorem separated_items (levels : Nat)
    : Separated (HasValue levels) (HasItems levels) ']' where
  apart := by decide
  last := fun ⟨_, _, before, spelled⟩ after => ⟨_, .last before spelled after⟩
  more := fun ⟨_, _, before, spelled⟩ after ⟨_, others⟩ => ⟨_, .more before spelled after others⟩

theorem separated_fields (levels : Nat)
    : Separated (HasField levels) (HasFields levels) '\x7d' where
  apart := by decide
  last := fun ⟨_, spelled⟩ after => ⟨_, .last spelled after⟩
  more := fun ⟨_, spelled⟩ after ⟨_, others⟩ => ⟨_, .more spelled after others⟩

section

variable {levels : Nat} {readItem : ValueReader}

/-- A value that is read is one in front of whatever no number goes on with. -/
theorem ReadsOnly.isEntry (inside : ReadsOnly levels readItem) {input last : Input}
    {item : Value} (read : readItem input = .ok (item, last))
    : last.stop = input.stop
      ∧ ∃ taken, input.chars = taken ++ last.chars ∧ IsEntry (HasValue levels) taken := by
  obtain ⟨spelled, stop⟩ := inside _ _ _ read
  obtain ⟨taken, split, kept⟩ := SpellsSpaced.exchange (keepsInFront levels) spelled
  exact ⟨stop, taken, split, fun other stops => ⟨item, kept other stops⟩⟩

/-- A field that is read is one in front of whatever no number goes on with. -/
theorem readField_isEntry (inside : ReadsOnly levels readItem) {input last : Input}
    {field : String × Value} (read : readField readItem input = .ok (field, last))
    : last.stop = input.stop
      ∧ ∃ taken, input.chars = taken ++ last.chars ∧ IsEntry (HasField levels) taken := by
  obtain ⟨spelled, stop⟩ := readField_sound inside read
  obtain ⟨taken, split, kept⟩ := spelled.exchange (keepsInFront levels)
  exact ⟨stop, taken, split, fun other stops => ⟨field, kept other stops⟩⟩

/-- What is left behind a comma is shorter. -/
theorem length_behind_comma {input behind : Input} {taken text : List Char}
    (split : input.chars = taken ++ behind.chars) (comma : behind.skipSpaces.chars = ',' :: text)
    : behind.skipSpaces.advance.chars.length < input.chars.length := by
  obtain ⟨blanks, left⟩ := blanks_skipSpaces comma
  have shorter := blanks.length_le
  rw [left, split, List.length_append]
  rw [List.length_cons] at shorter
  omega

/-- What is wrong with items is so behind a start of items, by induction on the bound of their
number.
-/
theorem readItems_fails (inside : ReadsOnly levels readItem)
    (fails : FailsMarked levels readItem) {bound : Nat} {input : Input} {error : SyntaxError}
    (enough : input.chars.length ≤ bound) (failed : readItems readItem bound input = .error error)
    : Marks (Finishes (HasItems levels)) input error := by
  have separated := separated_items levels
  induction bound generalizing input with
  | zero =>
      obtain rfl := Except.error.inj failed
      have none := List.length_eq_zero_iff.mp (Nat.le_zero.mp enough)
      have finishes := finishes_value levels (List.forall_mem_nil _)
      exact ⟨[], [], none, rfl, separated.finishes_first finishes, rfl⟩
  | succ bound ih =>
      rcases error_of_bind failed with first | ⟨⟨item, behind⟩, first, failed⟩
      · exact (fails _ _ first).mono fun _ => separated.finishes_first
      obtain ⟨stop, taken, split, kept⟩ := inside.isEntry first
      dsimp only at failed
      split at failed
      · rename_i next comma
        have shorter :=
          Nat.le_of_lt_succ (Nat.lt_of_lt_of_le (length_behind_comma split comma) enough)
        rcases error_of_bind failed with others | ⟨_, _, failed⟩
        · exact separated.marks_comma kept split stop comma (ih shorter others)
        · cases failed
      · cases failed
      · obtain rfl := Except.error.inj failed
        exact separated.marks_separator kept split stop _

/-- What follows a name is finished where the value behind its colon can be. -/
theorem finishes_colon {front : List Char} (finishes : Finishes (HasValue levels) front)
    : Finishes (HasColon levels) (':' :: front) := by
  obtain ⟨more, finished⟩ := finishes
  exact ⟨more, fun rest => ⟨_, rfl, finished rest⟩⟩

theorem finishes_colon_nil (levels : Nat) : Finishes (HasColon levels) [] := by
  obtain ⟨null, value⟩ := finishes_value levels (List.forall_mem_nil _)
  exact ⟨':' :: null, fun rest => ⟨null ++ rest, rfl, value rest⟩⟩

theorem hasField_of_string {text start behind colon rest : List Char}
    (before : Blanks text start) (string : HasString start behind) (between : Blanks behind colon)
    (value : HasColon levels colon rest)
    : HasField levels text rest := by
  obtain ⟨name, chars, rfl, quoted⟩ := string
  obtain ⟨later, rfl, start, value, blanks, spelled⟩ := value
  exact ⟨_, .field before quoted between blanks spelled⟩

/-- A field can be finished where its name can. -/
theorem finishes_name {blanks front : List Char} (blank : ∀ char ∈ blanks, isSpace char = true)
    (finishes : Finishes HasString front)
    : Finishes (HasField levels) (blanks ++ front) := by
  obtain ⟨more, finished⟩ := finishes
  obtain ⟨null, value⟩ := finishes_colon_nil levels
  refine ⟨more ++ null, fun rest => ?_⟩
  have spaced := blanks_append blank (front ++ (more ++ (null ++ rest)))
  exact hasField_of_string (by simpa using spaced) (finished _) (.none _) (value rest)

/-- A field can be finished behind its name where what follows the name can. -/
theorem finishes_field {before name between front : List Char}
    (blank : ∀ char ∈ before, isSpace char = true)
    (blank' : ∀ char ∈ between, isSpace char = true)
    (string : ∀ other, HasString (name ++ other) other)
    (finishes : Finishes (HasColon levels) front)
    : Finishes (HasField levels) (before ++ (name ++ (between ++ front))) := by
  obtain ⟨more, finished⟩ := finishes
  refine ⟨more, fun rest => ?_⟩
  have spaced := blanks_append blank (name ++ (between ++ (front ++ (more ++ rest))))
  exact hasField_of_string (by simpa using spaced) (string _) (blanks_append blank' _)
    (finished rest)

/-- What is wrong with a field is so behind a start of one. -/
theorem readField_fails (fails : FailsMarked levels readItem) {input : Input}
    {error : SyntaxError} (failed : readField readItem input = .error error)
    : Marks (Finishes (HasField levels)) input error := by
  unfold readField at failed
  dsimp only at failed
  split at failed
  · rename_i text quote
    rcases error_of_bind failed with named | ⟨⟨name, behind⟩, named, failed⟩
    · exact (readString_fails quote named).behind_spaces fun _ _ => finishes_name
    obtain ⟨quoted, stop⟩ := readString_sound quote named
    obtain ⟨taken, rfl, kept⟩ := quoted.exchange
    have split : input.skipSpaces.chars = ('"' :: taken) ++ behind.chars := quote
    have string (other : List Char) : HasString (('"' :: taken) ++ other) other :=
      ⟨taken ++ other, _, rfl, kept other⟩
    suffices colon : Marks (Finishes (HasColon levels)) behind.skipSpaces error by
      have behind
          : Marks
              (fun back =>
                ∃ between front,
                  (∀ char ∈ between, isSpace char = true)
                  ∧ Finishes (HasColon levels) front
                  ∧ back = ('"' :: taken) ++ (between ++ front))
              input.skipSpaces error :=
        colon.behind_taken split stop fun between front blank finishes =>
          ⟨between, front, blank, finishes, rfl⟩
      refine behind.behind_spaces fun before back blank found => ?_
      obtain ⟨between, front, blank', finishes, rfl⟩ := found
      exact finishes_field blank blank' string finishes
    dsimp only at failed
    split at failed
    · rename_i next colon
      rcases error_of_bind failed with valued | ⟨_, _, failed⟩
      · exact (fails _ _ valued).behind_char colon fun _ => finishes_colon
      · cases failed
    · obtain rfl := Except.error.inj failed
      exact marks_unexpected (finishes_colon_nil levels) _
  · obtain rfl := Except.error.inj failed
    exact (marks_unexpected finishes_string _).behind_spaces fun _ _ => finishes_name

/-- What is wrong with fields is so behind a start of fields, by induction on the bound of their
number.
-/
theorem readFields_fails (inside : ReadsOnly levels readItem)
    (fails : FailsMarked levels readItem) {bound : Nat} {input : Input} {error : SyntaxError}
    (enough : input.chars.length ≤ bound)
    (failed : readFields readItem bound input = .error error)
    : Marks (Finishes (HasFields levels)) input error := by
  have separated := separated_fields levels
  induction bound generalizing input with
  | zero =>
      obtain rfl := Except.error.inj failed
      have none := List.length_eq_zero_iff.mp (Nat.le_zero.mp enough)
      have finishes : Finishes (HasField levels) [] :=
        finishes_name (List.forall_mem_nil _) finishes_string
      exact ⟨[], [], none, rfl, separated.finishes_first finishes, rfl⟩
  | succ bound ih =>
      rcases error_of_bind failed with first | ⟨⟨field, behind⟩, first, failed⟩
      · exact (readField_fails fails first).mono fun _ => separated.finishes_first
      obtain ⟨stop, taken, split, kept⟩ := readField_isEntry inside first
      dsimp only at failed
      split at failed
      · rename_i next comma
        have shorter :=
          Nat.le_of_lt_succ (Nat.lt_of_lt_of_le (length_behind_comma split comma) enough)
        rcases error_of_bind failed with others | ⟨_, _, failed⟩
        · exact separated.marks_comma kept split stop comma (ih shorter others)
        · cases failed
      · cases failed
      · obtain rfl := Except.error.inj failed
        exact separated.marks_separator kept split stop _

-----------------------------------------------------------------------------------------
-- Values
-----------------------------------------------------------------------------------------

/-- What is wrong behind an opening bracket is so behind a start of an array. -/
theorem readArray_fails (inside : ReadsOnly levels readItem)
    (fails : FailsMarked levels readItem) {input : Input} {error : SyntaxError}
    (failed : readArray readItem input = .error error)
    : Marks (fun front => Finishes (HasValue (levels + 1)) ('[' :: front)) input error := by
  unfold readArray at failed
  dsimp only at failed
  split at failed
  · cases failed
  · rcases error_of_bind failed with failed | ⟨_, _, failed⟩
    · have items := readItems_fails inside fails (Nat.le_refl _) failed
      refine items.behind_spaces fun blanks front blank finishes => ?_
      obtain ⟨more, finished⟩ := finishes
      refine ⟨more, fun rest => ?_⟩
      obtain ⟨items, spelled⟩ := finished rest
      have spaced := spelled.after_blanks (blanks_append blank _)
      exact ⟨.array items, _, .none _, .array (by simpa using spaced)⟩
    · cases failed

/-- What is wrong behind an opening brace is so behind a start of an object. -/
theorem readObject_fails (inside : ReadsOnly levels readItem)
    (fails : FailsMarked levels readItem) {input : Input} {error : SyntaxError}
    (failed : readObject readItem input = .error error)
    : Marks (fun front => Finishes (HasValue (levels + 1)) ('\x7b' :: front)) input error := by
  unfold readObject at failed
  dsimp only at failed
  split at failed
  · cases failed
  · rcases error_of_bind failed with failed | ⟨_, _, failed⟩
    · have fields := readFields_fails inside fails (Nat.le_refl _) failed
      refine fields.behind_spaces fun blanks front blank finishes => ?_
      obtain ⟨more, finished⟩ := finishes
      refine ⟨more, fun rest => ?_⟩
      obtain ⟨written, spelled⟩ := finished rest
      have spaced := spelled.after_blanks (blanks_append blank _)
      have kept := (keepsLast_iff written _).mpr rfl
      exact ⟨.object _, _, .none _, .object (by simpa using spaced) kept⟩
    · cases failed

end

theorem finishes_spaced {levels : Nat} {blanks front : List Char}
    (blank : ∀ char ∈ blanks, isSpace char = true) (finishes : Finishes (HasValue levels) front)
    : Finishes (HasValue levels) (blanks ++ front) := by
  obtain ⟨more, finished⟩ := finishes
  refine ⟨more, fun rest => ?_⟩
  obtain ⟨value, start, before, spelled⟩ := finished rest
  refine ⟨value, start, Blanks.trans ?_ before, spelled⟩
  simpa using blanks_append blank (front ++ (more ++ rest))

theorem HasString.hasValue {levels : Nat} {text rest : List Char} (string : HasString text rest)
    : HasValue levels text rest := by
  obtain ⟨name, chars, rfl, quoted⟩ := string
  exact ⟨_, _, .none _, .text levels quoted⟩

/-- What is wrong with a value is so behind a start of one, given that for the values inside it.
-/
theorem readValueWith_fails {levels : Nat} {readItem : Option ValueReader}
    (inside
      : ∀ reader,
          readItem = some reader
          → ∃ inner, levels = inner + 1 ∧ ReadsOnly inner reader ∧ FailsMarked inner reader)
    : FailsMarked levels (readValueWith readItem) := by
  intro input error failed
  have nothing : Finishes (HasValue levels) [] := finishes_value levels (List.forall_mem_nil _)
  suffices marks : Marks (Finishes (HasValue levels)) input.skipSpaces error from
    marks.behind_spaces fun _ _ => finishes_spaced
  unfold readValueWith at failed
  dsimp only at failed
  split at failed
  · rename_i none
    obtain rfl := Except.error.inj failed
    exact ⟨[], [], none, rfl, nothing, rfl⟩
  rename_i first rest starts
  split at failed
  · rename_i container
    split at failed
    · obtain rfl := Except.error.inj failed
      refine ⟨[], first :: rest, starts, rfl, nothing, rfl, rest, ?_⟩
      simpa [or_comm] using container
    · rename_i reader
      obtain ⟨inner, rfl, reads, fails⟩ := inside reader rfl
      split at failed
      · rename_i bracket
        obtain rfl : first = '[' := by simpa using bracket
        exact (readArray_fails reads fails failed).behind_char starts fun _ => id
      · rename_i bracket
        obtain rfl : first = '\x7b' := by simpa [bracket] using container
        exact (readObject_fails reads fails failed).behind_char starts fun _ => id
  split at failed
  · rename_i quote
    obtain rfl : first = '"' := by simpa using quote
    cases string : readString input.skipSpaces with
    | error stopped =>
        rw [string] at failed
        obtain rfl := Except.error.inj failed
        refine (readString_fails starts string).mono fun front finishes => ?_
        obtain ⟨more, finished⟩ := finishes
        exact ⟨more, fun rest => (finished rest).hasValue⟩
    | ok read =>
        rw [string] at failed
        cases failed
  split at failed
  · exact readNumber_fails levels failed
  · exact readLiteral_fails levels (by simp [starts]) failed

/-- What is wrong with a value is so behind a start of one, by induction on the levels of nesting.
-/
theorem readNested_fails (levels : Nat) : FailsMarked levels (readNested levels) := by
  induction levels with
  | zero => exact readValueWith_fails fun reader none => nomatch none
  | succ levels ih =>
      refine readValueWith_fails fun reader same => ⟨levels, rfl, ?_⟩
      rw [← Option.some.inj same]
      exact ⟨readNested_sound levels, ih⟩

-----------------------------------------------------------------------------------------
-- Documents
-----------------------------------------------------------------------------------------

namespace Value

/-- A text goes on as a document in some way. -/
def StartsDocument (text : String) : Prop :=
  ∃ more value, Value.read (text ++ more) = .ok value

theorem startsDocument_of_finishes {front : List Char}
    (finishes : Finishes (HasValue nestingLimit) front)
    : StartsDocument (String.ofList front) := by
  obtain ⟨more, finished⟩ := finishes
  obtain ⟨value, start, before, spelled⟩ := finished []
  refine ⟨String.ofList more, value, read_of_spells ?_ spelled (.none [])⟩
  simpa using before

/-- What trails a document is behind one that is whole, with the white space that follows it. -/
theorem read_trailing {text : String} {value : Value} {behind : Input}
    (read : readValue ⟨text.toList, 0⟩ = .ok (value, behind))
    : ∃ front,
        text.toList = front ++ behind.skipSpaces.chars
        ∧ behind.skipSpaces.position = Utf8.size front
        ∧ Value.read (String.ofList front) = .ok value := by
  obtain ⟨spelled, stop⟩ := readNested_sound nestingLimit _ _ _ read
  obtain ⟨taken, split, kept⟩ := SpellsSpaced.exchange (keepsInFront nestingLimit) spelled
  have blank : ∀ char ∈ behind.chars.takeWhile isSpace, isSpace char = true :=
    List.all_eq_true.mp List.all_takeWhile
  have whole : text.toList
      = taken ++ behind.chars.takeWhile isSpace ++ behind.skipSpaces.chars := by
    rw [List.append_assoc, Input.chars_skipSpaces, List.takeWhile_append_dropWhile]
    exact split
  refine ⟨_, whole, ?_, ?_⟩
  · have size := congrArg Utf8.size whole
    have stops := (Input.stop_skipSpaces behind).trans stop
    simp only [Input.stop, Text.Utf8.size_append] at size stops ⊢
    omega
  · obtain ⟨start, before, spelled⟩ := kept _ (stopsNumbers_append blank stopsNumbers_nil)
    rw [List.append_nil] at before spelled
    have after := blanks_append blank []
    rw [List.append_nil] at after
    exact read_of_spells (by simpa using before) spelled after

/-- Every error points behind a start of the text that goes on as a document in some way. Where
the text ends too early it does so as a whole, and behind a whole document it is one up to there.
What the error quotes stands where it points.
-/
theorem read_fails (text : String) {error : SyntaxError}
    (failed : Value.read text = .error error)
    : ∃ front back : String,
        text = front ++ back
        ∧ error.position = front.utf8ByteSize
        ∧ StartsDocument front
        ∧ match error with
          | .unexpectedEnd _ | .unterminatedString _ => StartsDocument text
          | .unexpectedChar _ found _ => ∃ behind, back.toList = found :: behind
          | .invalidNumber quoted _ => ∃ behind, back = quoted ++ behind
          | .trailingCharacters _ => ∃ value, Value.read front = .ok value
          | .unknownLiteral _ => back ≠ ""
          | .tooDeep limit _ =>
            limit = nestingLimit
            ∧ ∃ behind, back.toList = '[' :: behind ∨ back.toList = '\x7b' :: behind
          | .invalidUtf8 _ => False := by
  rcases error_of_bind failed with stopped | ⟨⟨value, behind⟩, read, failed⟩
  · obtain ⟨front, back, same, position, finishes, describes⟩ :=
      readNested_fails nestingLimit _ _ stopped
    have starts := startsDocument_of_finishes finishes
    have whole : text = String.ofList front ++ String.ofList back := by
      rw [← String.ofList_append, ← same, String.ofList_toList]
    refine ⟨String.ofList front, String.ofList back, whole, ?_, starts, ?_⟩
    · rw [utf8ByteSize_ofList, position, Nat.zero_add]
    · cases error with
      | unexpectedEnd _ =>
          obtain rfl : back = [] := describes
          simpa [whole] using starts
      | unterminatedString _ => simpa using startsDocument_of_finishes describes
      | unexpectedChar _ found _ =>
          obtain ⟨behind, rfl⟩ := describes
          exact ⟨behind, String.toList_ofList⟩
      | invalidNumber quoted _ =>
          obtain ⟨behind, rfl⟩ := describes
          exact ⟨.ofList behind, by rw [String.ofList_append, String.ofList_toList]⟩
      | trailingCharacters _ | invalidUtf8 _ => exact describes.elim
      | unknownLiteral _ => simpa using (show back ≠ [] from describes)
      | tooDeep limit _ =>
          rw [String.toList_ofList]
          exact describes
  · obtain ⟨front, whole, position, document⟩ := read_trailing read
    dsimp only at failed
    split at failed
    · cases failed
    · obtain rfl := Except.error.inj failed
      refine
        ⟨String.ofList front, String.ofList behind.skipSpaces.chars, ?_, ?_, ?_, value, document⟩
      · rw [← String.ofList_append, ← whole, String.ofList_toList]
      · exact position.trans (utf8ByteSize_ofList front).symm
      · exact ⟨"", value, by simpa using document⟩

/-- Up to a misspelled literal, items go on as an array. -/
theorem read_fails_misspelled
    : Value.read "[[],tru]" = .error (.unknownLiteral 4)
      ∧ ∃ front back : String,
          "[[],tru]" = front ++ back ∧ 4 = front.utf8ByteSize ∧ StartsDocument front := by
  have failed : Value.read "[[],tru]" = .error (.unknownLiteral 4) := rfl
  obtain ⟨front, back, whole, position, starts, _⟩ := read_fails "[[],tru]" failed
  exact ⟨failed, front, back, whole, position, starts⟩

end Value

end LanguageClient.Json
