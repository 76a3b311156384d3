import LanguageClient.Proofs.Json.ByteCursor

/-! Strings are read off their bytes as off their characters. The reader moves on byte by byte
inside a character, and it is between characters again wherever a segment starts or ends: behind
an opening quote or an escape, and at a closing quote or a backslash.
-/

namespace LanguageClient.Json

open Text

-----------------------------------------------------------------------------------------
-- Codes
-----------------------------------------------------------------------------------------

theorem HexDigit.ascii {char : Char} {value : Nat} (digit : HexDigit char value)
    : char.toNat < 128 := by
  have lower : ∀ char ∈ decimalDigits ++ ['a', 'b', 'c', 'd', 'e', 'f'], char.toNat < 128 := by
    simp [decimalDigits]
  have upper : ∀ char ∈ decimalDigits ++ ['A', 'B', 'C', 'D', 'E', 'F'], char.toNat < 128 := by
    simp [decimalDigits]
  rcases digit with digit | digit
  · exact lower char (List.mem_of_getElem? digit)
  · exact upper char (List.mem_of_getElem? digit)

namespace HexCode

/-- The digits of a code are four ASCII characters. -/
theorem exists_word {text rest : List Char} {code : Nat} (given : HexCode text code rest)
    : ∃ word,
        text = word ++ rest
        ∧ word.length = 4
        ∧ (∀ char ∈ word, char.toNat < 128)
        ∧ ∀ other, HexCode (word ++ other) code other := by
  obtain ⟨_, thousands, hundreds, tens, ones⟩ := given
  refine ⟨[_, _, _, _], rfl, rfl, ?_, fun other => .digits other thousands hundreds tens ones⟩
  simp [thousands.ascii, hundreds.ascii, tens.ascii, ones.ascii]

/-- The digits of a code take four bytes. -/
theorem exists_taken {text rest : List Char} {code : Nat} (given : HexCode text code rest)
    : ∃ word, text = word ++ rest ∧ Utf8.size word = 4 := by
  obtain ⟨word, same, length, ascii, _⟩ := given.exists_word
  exact ⟨word, same, (size_of_ascii ascii).trans length⟩

/-- The first four characters spell a code exactly if they are its digits. -/
theorem hexValue?_take_iff {text : List Char} {code : Nat} (enough : 4 ≤ text.length)
    : Text.hexValue? (text.take 4) = some code ↔ ∃ rest, HexCode text code rest := by
  match text, enough with
  | first :: second :: third :: fourth :: rest, _ =>
      constructor
      · exact fun read => ⟨rest, of_hexValue? read rest⟩
      · rintro ⟨_, given⟩
        obtain ⟨_, _, _, _, same, value⟩ := given.hexValue?
        simp only [List.cons.injEq] at same
        obtain ⟨rfl, rfl, rfl, rfl, _⟩ := same
        exact value

/-- The bytes of a text spell a code exactly if its characters do. -/
theorem bytewise_iff {text : List Char} {code : Nat}
    : (∃ more, HexCode (bytewise text) code more) ↔ ∃ rest, HexCode text code rest := by
  constructor
  · rintro ⟨more, given⟩
    obtain ⟨word, bytes, _, ascii, code⟩ := given.exists_word
    obtain ⟨rest, rfl, _⟩ := exists_of_bytewise_eq_append ascii bytes
    exact ⟨rest, code rest⟩
  · rintro ⟨rest, given⟩
    obtain ⟨word, rfl, _, ascii, code⟩ := given.exists_word
    rw [bytewise_append, bytewise_of_ascii ascii]
    exact ⟨_, code _⟩

/-- A closing quote that is not found behind the digits of a code is not found in front. -/
theorem splitAtQuote_eq_none {digits text : List Char} {code : Nat}
    (given : HexCode digits code text) (none : splitAtQuote text = none)
    : splitAtQuote digits = .none := by
  obtain ⟨_, split, _⟩ := given.splitAtQuote_eq
  rw [split, none, Option.map_none]

end HexCode

theorem splitAtQuote_escape_eq_none {char : Char} {text : List Char}
    (none : splitAtQuote text = none)
    : splitAtQuote ('\\' :: char :: text) = .none := by
  rw [splitAtQuote_escape, none, Option.map_none]

-----------------------------------------------------------------------------------------
-- Escapes
-----------------------------------------------------------------------------------------

/-- The text behind a backslash is read as a character up to what follows it: this is a string
then, or one without a closing quote, exactly if the rest is.
-/
structure Unescapes (text : List Char) (char : Char) (rest : List Char) : Prop where
  quoted
    : ∀ {chars behind}, Quoted rest chars behind → Quoted ('\\' :: text) (char :: chars) behind
  unclosed : splitAtQuote rest = none → splitAtQuote ('\\' :: text) = none

namespace Unescapes

theorem escape {char : Char} (other : char ≠ 'u') (rest : List Char)
    : Unescapes (char :: rest) (escapedMeaning char) rest := by
  obtain ⟨meaning, means⟩ := exists_escape other
  rw [means.eq_escapedMeaning.2]
  exact { quoted := .escape means, unclosed := splitAtQuote_escape_eq_none }

theorem letter {text : List Char} (none : ∀ code rest, ¬ HexCode text code rest)
    : Unescapes ('u' :: text) 'u' text where
  quoted := .letter none
  unclosed := splitAtQuote_escape_eq_none

theorem pair {digits second rest : List Char} {high low : Nat}
    (first : HexCode digits high ('\\' :: 'u' :: second)) (isHigh : isHighSurrogate high = true)
    (next : HexCode second low rest) (isLow : isLowSurrogate low = true)
    : Unescapes ('u' :: digits) (pairedUnits high low) rest := by
  simp only [isHighSurrogate, isLowSurrogate, Bool.and_eq_true, decide_eq_true_eq] at isHigh isLow
  have joined := toNat_ofNat
    (show _ ∨ 0xDFFF < 0x10000 + (high - 0xD800) * 0x400 + (low - 0xDC00) ∧ _ by omega)
  refine { quoted := .pair first isHigh next isLow joined, unclosed := fun none => ?_ }
  have behind : splitAtQuote ('\\' :: 'u' :: second) = .none :=
    splitAtQuote_escape_eq_none (next.splitAtQuote_eq_none none)
  exact splitAtQuote_escape_eq_none (first.splitAtQuote_eq_none behind)

theorem single {digits text : List Char} {code : Nat} (given : HexCode digits code text)
    (alone : ¬ (isHighSurrogate code = true ∧ StartsLow text))
    : Unescapes ('u' :: digits) (loneUnit code) text := by
  have unclosed (none : splitAtQuote text = none) : splitAtQuote ('\\' :: 'u' :: digits) = .none :=
    splitAtQuote_escape_eq_none (given.splitAtQuote_eq_none none)
  have small := given.lt
  simp only [isHighSurrogate, Bool.and_eq_true, decide_eq_true_eq] at alone
  by_cases half : 0xD800 ≤ code ∧ code < 0xE000
  · have none : loneUnit code = '\uFFFD' := by
      have surrogate : (isHighSurrogate code || isLowSurrogate code) = true := by
        simp [isHighSurrogate, isLowSurrogate]
        omega
      rw [loneUnit, if_pos surrogate]
      rfl
    rw [none]
    have single : ¬ (code < 0xDC00 ∧ StartsLow text) :=
      fun both => alone ⟨⟨half.1, both.1⟩, both.2⟩
    exact { quoted := .lone given half single, unclosed }
  · have whole : loneUnit code = Char.ofNat code := by
      have other : ¬ (isHighSurrogate code || isLowSurrogate code) = true := by
        simp [isHighSurrogate, isLowSurrogate]
        omega
      rw [loneUnit, if_neg other]
    have same := toNat_ofNat (show code < 0xD800 ∨ 0xDFFF < code ∧ code < 0x110000 by omega)
    rw [whole]
    exact { quoted := .code (same.symm ▸ given), unclosed }

end Unescapes

namespace Faces

variable {source : Source} {input : Input} {depth : Nat} (faces : Faces source input)

include faces

/-- A code is read exactly where its digits come next. -/
theorem hexCode?_eq_some_iff {code : Nat}
    : source.hexCode? input.position = some code ↔ ∃ rest, HexCode input.chars code rest := by
  have stop := faces.stop
  rw [Input.stop] at stop
  rw [Source.hexCode?, faces.drop_bytewise, ← HexCode.bytewise_iff]
  split
  · rename_i enough
    refine HexCode.hexValue?_take_iff ?_
    rw [length_bytewise]
    omega
  · rename_i few
    constructor
    · intro read
      cases read
    · rintro ⟨more, given⟩
      obtain ⟨word, bytes, length, _, _⟩ := given.exists_word
      have size := length_bytewise input.chars
      rw [bytes, List.length_append] at size
      omega

/-- Another code is escaped next exactly if its backslash and its letter are the next bytes. -/
theorem peek_code_iff
    : (source.peek input.position = some '\\' ∧ source.peek (input.position + 1) = some 'u')
      ↔ ∃ digits, input.chars = '\\' :: 'u' :: digits := by
  have ascii : ∀ char ∈ ['\\', 'u'], char.toNat < 128 := by simp
  rw [faces.peek_eq, faces.peek_add]
  constructor
  · rintro ⟨first, second⟩
    obtain ⟨others, bytes⟩ := List.head?_eq_some_iff.mp first
    rw [bytes, List.getElem?_cons_succ, ← List.head?_eq_getElem?] at second
    obtain ⟨more, behind⟩ := List.head?_eq_some_iff.mp second
    rw [behind] at bytes
    obtain ⟨digits, chars, _⟩ := exists_of_bytewise_eq_append ascii bytes
    exact ⟨digits, chars⟩
  · rintro ⟨digits, chars⟩
    have bytes : bytewise input.chars = ['\\', 'u'] ++ bytewise digits := by
      rw [chars, ← bytewise_of_ascii ascii, ← bytewise_append]
      rfl
    rw [bytes]
    exact ⟨rfl, rfl⟩

/-- The second half of a pair is read exactly where it is escaped next. -/
theorem lowSurrogate?_eq_some_iff {low : Nat}
    : source.lowSurrogate? input.position = some low
      ↔ ∃ digits rest,
          input.chars = '\\' :: 'u' :: digits
          ∧ HexCode digits low rest
          ∧ isLowSurrogate low = true := by
  have behind {digits : List Char} (chars : input.chars = '\\' :: 'u' :: digits)
      : source.hexCode? (input.position + 2) = some low ↔ ∃ rest, HexCode digits low rest :=
    (faces.after (show _ = ['\\', 'u'] ++ digits from chars)).hexCode?_eq_some_iff
  rw [Source.lowSurrogate?]
  constructor
  · intro read
    split at read
    · rename_i next
      obtain ⟨digits, chars⟩ := faces.peek_code_iff.mp next
      obtain ⟨code, isLow⟩ := Option.filter_eq_some_iff.mp read
      obtain ⟨rest, given⟩ := (behind chars).mp code
      exact ⟨digits, rest, chars, given, isLow⟩
    · cases read
  · rintro ⟨digits, rest, chars, given, isLow⟩
    rw [if_pos (faces.peek_code_iff.mpr ⟨digits, chars⟩)]
    exact Option.filter_eq_some_iff.mpr ⟨(behind chars).mpr ⟨rest, given⟩, isLow⟩

/-- A code is read behind its letter, or the letter alone when there is none. -/
theorem escapedCode_eq (depth : Nat)
    : ∃ code taken rest,
        input.chars = taken ++ rest
        ∧ Unescapes ('u' :: input.chars) (code.getD 'u') rest
        ∧ source.escapedCode (input.cursor depth)
          = .ok (code, (input.after taken rest).cursor depth) := by
  unfold Source.escapedCode
  rw [Input.position_cursor]
  cases read : source.hexCode? input.position with
  | none =>
      refine ⟨none, [], input.chars, rfl, .letter fun code rest given => ?_, rfl⟩
      rw [faces.hexCode?_eq_some_iff.mpr ⟨rest, given⟩] at read
      cases read
  | some code =>
      obtain ⟨text, given⟩ := faces.hexCode?_eq_some_iff.mp read
      obtain ⟨word, chars, four⟩ := given.exists_taken
      have behind := faces.after chars
      have moved := faces.advance_eq depth chars
      rw [four] at moved
      dsimp only
      rw [moved]
      dsimp only [Bind.bind, Except.bind]
      rw [Input.position_cursor]
      by_cases paired : isHighSurrogate code = true ∧ StartsLow text
      · obtain ⟨isHigh, digits, low, rest, rfl, given', isLow⟩ := paired
        have isLow' : isLowSurrogate low = true := by simpa [isLowSurrogate] using isLow
        have next := behind.lowSurrogate?_eq_some_iff.mpr ⟨digits, rest, rfl, given', isLow'⟩
        obtain ⟨word', rfl, four'⟩ := given'.exists_taken
        have six : Utf8.size ('\\' :: 'u' :: word') = 6 := by
          rw [Utf8.size, Utf8.size, four']
          rfl
        have moved' := behind.advance_eq depth
          (show _ = ('\\' :: 'u' :: word') ++ rest from rfl)
        rw [six] at moved'
        rw [if_pos isHigh, next]
        dsimp only
        rw [moved', Input.after_after]
        refine ⟨some (pairedUnits code low), _, rest, ?_, ?_, rfl⟩
        · rw [chars, List.append_assoc]
          rfl
        · rw [Option.getD_some]
          exact .pair given isHigh given' isLow'
      · have none
            : (if isHighSurrogate code = true then
                source.lowSurrogate? (input.after word text).position
              else
                none) = none := by
          split
          · rename_i isHigh
            refine Option.eq_none_iff_forall_ne_some.mpr fun low next => paired ⟨isHigh, ?_⟩
            obtain ⟨digits, rest, chars, given', isLow⟩ := behind.lowSurrogate?_eq_some_iff.mp next
            simp only [isLowSurrogate, Bool.and_eq_true, decide_eq_true_eq] at isLow
            exact ⟨digits, low, rest, chars, given', isLow⟩
          · rfl
        rw [none]
        exact ⟨some (loneUnit code), word, text, chars, .single given paired, rfl⟩

/-- Behind a backslash a character is read, unless the text ends there. -/
theorem escaped_eq (opened depth : Nat)
    : (input.chars = []
        ∧ source.escaped opened (input.cursor depth)
          = .error (.rejected (.unterminatedString opened)))
      ∨ ∃ char taken rest,
          input.chars = taken ++ rest
          ∧ Unescapes input.chars char rest
          ∧ source.escaped opened (input.cursor depth)
            = .ok (char, (input.after taken rest).cursor depth) := by
  unfold Source.escaped
  rw [Input.position_cursor, faces.charAt?_eq]
  cases chars : input.chars with
  | nil => exact .inl ⟨rfl, rfl⟩
  | cons char behind =>
      right
      have split : input.chars = [char] ++ behind := chars
      have moved := faces.advance_eq depth split
      rw [Utf8.size, Utf8.size, Nat.add_zero] at moved
      rw [List.head?_cons]
      dsimp only
      rw [moved]
      dsimp only [Bind.bind, Except.bind]
      split
      · rename_i letter
        subst letter
        obtain ⟨code, taken, rest, same, unescapes, read⟩ :=
          (faces.after split).escapedCode_eq depth
        have same' : behind = taken ++ rest := same
        rw [read, Input.after_after]
        exact ⟨code.getD 'u', 'u' :: taken, rest, by rw [same']; rfl, unescapes, rfl⟩
      · rename_i other
        exact ⟨escapedMeaning char, [char], behind, rfl, .escape other behind, rfl⟩

end Faces

-----------------------------------------------------------------------------------------
-- Up to the closing quote
-----------------------------------------------------------------------------------------

/-- No byte of a character that stands for itself is a quote or a backslash. -/
theorem exists_byte {char : Char} (unquoted : char ≠ '"') (plain : char ≠ '\\') (rest : List Char)
    {count : Nat} (within : count < char.utf8Size)
    : ∃ byte, (bytewise (char :: rest))[count]? = some byte ∧ byte ≠ '"' ∧ byte ≠ '\\' := by
  by_cases small : char.toNat < 128
  · have one : char.utf8Size = 1 := by
      have size := size_ascii small
      rwa [Utf8.size, Utf8.size, Nat.add_zero] at size
    obtain rfl : count = 0 := by omega
    rw [bytewise_ascii small]
    exact ⟨char, rfl, unquoted, plain⟩
  · obtain ⟨first, others, bytes, length, large⟩ := bytewise_large (Nat.not_lt.mp small) rest
    have inside : count < (first :: others).length := length.symm ▸ within
    have byte := large _ (List.getElem_mem inside)
    have differs {other : Char} (ascii : other.toNat < 128) : (first :: others)[count] ≠ other :=
      fun same => absurd ascii (Nat.not_lt.mpr (same ▸ byte))
    rw [bytes, List.getElem?_append_left inside, List.getElem?_eq_getElem inside]
    exact ⟨_, rfl, differs (by decide), differs (by decide)⟩

section

variable {source : Source} (depth opened : Nat)

/-- Bytes that are neither quotes nor backslashes are moved over, by induction on their number. -/
theorem quoted_skips {position segment : Nat} (started : source.start ≤ position) {count : Nat}
    (within : position + count ≤ source.size)
    (plain
      : ∀ offset < count,
          ∃ byte, source.peek (position + offset) = some byte ∧ byte ≠ '"' ∧ byte ≠ '\\')
    (fuel : Nat) (front : List Char)
    : source.quoted opened segment (fuel + count) front { position, depth }
      = source.quoted opened segment fuel front { position := position + count, depth } := by
  induction count generalizing position with
  | zero => rfl
  | succ count ih =>
      obtain ⟨byte, next, unquoted, unescaped⟩ := plain 0 (Nat.succ_pos count)
      have moved : source.advance 1 { position, depth } = .ok { position := position + 1, depth } :=
        if_pos (show source.start ≤ position + 1 ∧ position + 1 ≤ source.size by omega)
      rw [Nat.add_zero] at next
      rw [← Nat.add_assoc, Source.quoted, next]
      dsimp only
      rw [if_neg unquoted, if_neg unescaped, moved]
      have others
          : ∀ offset < count,
              ∃ byte,
                source.peek (position + 1 + offset) = some byte ∧ byte ≠ '"' ∧ byte ≠ '\\' := by
        intro offset inside
        have here := plain (offset + 1) (by omega)
        rwa [Nat.add_comm offset, ← Nat.add_assoc] at here
      have later := ih (show source.start ≤ position + 1 by omega) (by omega) others
      rw [Nat.add_assoc, Nat.add_comm 1] at later
      exact later

/-- A character that stands for itself is moved over, whatever its number of bytes. -/
theorem quoted_raw {segment : Nat} {input : Input} (faces : Faces source input) {char : Char}
    {rest : List Char} (chars : input.chars = char :: rest) (unquoted : char ≠ '"')
    (plain : char ≠ '\\') (fuel : Nat) (front : List Char)
    : source.quoted opened segment (fuel + char.utf8Size) front (input.cursor depth)
      = source.quoted opened segment fuel front ((input.after [char] rest).cursor depth) := by
  have split : input.chars = [char] ++ rest := chars
  have within := (faces.after split).position_le
  rw [Input.after, Utf8.size, Utf8.size, Nat.add_zero] at within
  refine quoted_skips depth opened faces.started within (fun offset inside => ?_) fuel front
  rw [faces.peek_add, chars]
  exact exists_byte unquoted plain rest inside

variable {start : Input} (begun : Faces source start) {run : List Char}

include begun

/-- A closing quote ends the segment that goes up to it. -/
theorem quoted_close {rest : List Char} (split : start.chars = run ++ '"' :: rest) (fuel : Nat)
    (front : List Char)
    : source.quoted opened start.position (fuel + 1) front
          ((start.after run ('"' :: rest)).cursor depth)
        = .ok (front ++ run, (start.after (run ++ ['"']) rest).cursor depth) := by
  have faces := begun.after split
  have next := (faces.peek_eq_some_iff (by decide)).mpr ⟨rest, rfl⟩
  have moved := faces.advance_one depth (by decide) rfl
  rw [Input.advance_of_cons rfl, Input.after_after] at moved
  rw [Source.quoted, Input.position_cursor, next]
  dsimp only
  rw [if_pos rfl, begun.slice_eq split, moved]
  rfl

/-- A backslash ends the segment that goes up to it, and the next one starts behind the escape,
unless the text ends behind the backslash.
-/
theorem quoted_escape {text : List Char} (split : start.chars = run ++ '\\' :: text) (fuel : Nat)
    (front : List Char)
    : (text = []
        ∧ source.quoted opened start.position (fuel + 1) front
              ((start.after run ('\\' :: text)).cursor depth)
            = .error (.rejected (.unterminatedString opened)))
      ∨ ∃ char taken rest last,
          text = taken ++ rest
          ∧ Unescapes text char rest
          ∧ last = start.after (run ++ '\\' :: taken) rest
          ∧ source.quoted opened start.position (fuel + 1) front
                ((start.after run ('\\' :: text)).cursor depth)
              = source.quoted opened last.position fuel (front ++ run ++ [char])
                  (last.cursor depth) := by
  have faces := begun.after split
  have next := (faces.peek_eq_some_iff (by decide)).mpr ⟨text, rfl⟩
  have moved := faces.advance_one depth (by decide) rfl
  have inside := faces.advance
  rw [Input.advance_of_cons rfl] at moved inside
  rw [Source.quoted, Input.position_cursor, next]
  dsimp only
  rw [if_neg (by decide), if_pos rfl, begun.slice_eq split, moved]
  dsimp only [Bind.bind, Except.bind]
  rcases inside.escaped_eq opened depth with
    ⟨none, failed⟩ | ⟨char, taken, rest, same, unescapes, read⟩
  · rw [failed]
    exact .inl ⟨none, rfl⟩
  · rw [read, Input.after_after, Input.after_after]
    exact .inr ⟨char, taken, rest, _, same, unescapes, by simp, rfl⟩

/-- The text behind an opening quote, of which the first characters are gone over, is read to the
closing quote, or rejected when there is none. The induction is on what has not been gone over:
an escape starts a segment behind it, and with it a shorter text.
-/
theorem quoted_eq {text : List Char} (split : start.chars = run ++ text) (front : List Char)
    {fuel : Nat} (enough : Utf8.size text < fuel)
    : (splitAtQuote text = none
        ∧ source.quoted opened start.position fuel front ((start.after run text).cursor depth)
          = .error (.rejected (.unterminatedString opened)))
      ∨ ∃ chars taken rest,
          text = taken ++ rest
          ∧ Quoted text chars rest
          ∧ source.quoted opened start.position fuel front ((start.after run text).cursor depth)
            = .ok (front ++ run ++ chars, (start.after (run ++ taken) rest).cursor depth) := by
  induction size : text.length using Nat.strongRecOn generalizing start run text front fuel with
  | ind length ih =>
      subst size
      have faces := begun.after split
      cases text with
      | nil =>
          have next : source.peek (start.after run []).position = none := faces.peek_eq
          obtain ⟨fuel, rfl⟩ : ∃ less, fuel = less + 1 := ⟨fuel - 1, by omega⟩
          rw [Source.quoted, Input.position_cursor, next]
          exact .inl ⟨rfl, rfl⟩
      | cons char behind =>
          rw [Utf8.size] at enough
          by_cases closing : char = '"'
          · subst closing
            obtain ⟨fuel, rfl⟩ : ∃ less, fuel = less + 1 := ⟨fuel - 1, by omega⟩
            refine .inr ⟨[], ['"'], behind, rfl, .close behind, ?_⟩
            rw [quoted_close depth opened begun split, List.append_nil]
          by_cases escaping : char = '\\'
          · subst escaping
            obtain ⟨fuel, rfl⟩ : ∃ less, fuel = less + 1 := ⟨fuel - 1, by omega⟩
            rcases quoted_escape depth opened begun split fuel front with
              ⟨rfl, failed⟩ | ⟨char, taken, rest, last, rfl, unescapes, rfl, same⟩
            · exact .inl ⟨rfl, failed⟩
            have begun' : Faces source (start.after (run ++ '\\' :: taken) rest) :=
              begun.after (by simp [split])
            have shorter : rest.length < ('\\' :: (taken ++ rest)).length := by
              simp only [List.length_cons, List.length_append]
              omega
            have enough' : Utf8.size rest < fuel := by
              have one : '\\'.utf8Size = 1 := rfl
              rw [Utf8.size_append] at enough
              omega
            rw [same]
            rcases ih _ shorter begun' (List.nil_append rest).symm (front ++ run ++ [char]) enough'
                rfl with ⟨none, failed⟩ | ⟨chars, taken', last, rfl, quoted, read⟩
            · exact .inl ⟨unescapes.unclosed none, failed⟩
            · right
              refine ⟨char :: chars, '\\' :: taken ++ taken', last, by simp, ?_, ?_⟩
              · exact unescapes.quoted quoted
              · simpa [Input.after_after] using read
          · have split' : start.chars = (run ++ [char]) ++ behind := by simp [split]
            have more : Utf8.size behind < fuel - char.utf8Size := by omega
            have same : fuel - char.utf8Size + char.utf8Size = fuel := by omega
            rw [← same, quoted_raw depth opened faces rfl closing escaping, Input.after_after]
            rcases ih _ (Nat.lt_succ_self _) begun split' front more rfl with
              ⟨none, failed⟩ | ⟨chars, taken, rest, rfl, quoted, read⟩
            · left
              rw [splitAtQuote_raw closing escaping, none]
              exact ⟨rfl, failed⟩
            · right
              refine ⟨char :: chars, char :: taken, rest, rfl, .raw closing escaping quoted, ?_⟩
              simpa using read

end

/-- A string is read off its bytes as off its characters. -/
theorem Faces.agrees_string {source : Source} {input : Input} {depth : Nat}
    (faces : Faces source input) {text : List Char} (starts : input.chars = '"' :: text)
    : Agrees source depth (source.string (input.cursor depth)) (readString input) := by
  have moved := faces.advance_one depth (by decide) starts
  have behind : input.chars.drop 1 = text := by rw [starts, List.drop_succ_cons, List.drop_zero]
  have begun := faces.advance
  have split : input.advance.chars = [] ++ text := behind
  have enough : Utf8.size text < source.fuel := behind ▸ begun.size_lt_fuel
  have here : (input.advance.after [] text).cursor depth = input.advance.cursor depth := by
    rw [Input.after]
    rfl
  rw [Source.string, moved]
  dsimp only [Bind.bind, Except.bind]
  rcases quoted_eq depth input.position begun split [] enough with
    ⟨none, failed⟩ | ⟨chars, taken, rest, same, quoted, read⟩
  · rw [here] at failed
    rw [Input.position_cursor, Input.position_cursor, failed, readString, behind, none]
    exact .rejects _
  · obtain ⟨last, read', chars'⟩ := readString_complete starts quoted
    have stop := (readString_sound starts read').2
    have faces' : Faces source (input.advance.after taken rest) := begun.after (split.trans same)
    have there : input.advance.after taken rest = last :=
      Input.eq_of_stop chars'.symm ((faces'.stop.trans faces.stop.symm).trans stop.symm)
    rw [here] at read
    rw [Input.position_cursor, Input.position_cursor, read, read', ← there]
    exact .reads _ faces'

end LanguageClient.Json
