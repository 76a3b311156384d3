import LanguageClient.Proofs.Json.Input

/-! Strings are read as the grammar says. The reader first looks for the closing quote and then
decodes what is before it, which comes to the same as decoding on the way: no spelling reaches
over a quote.
-/

namespace LanguageClient.Json

open Text (hexDigit? hexValue?)

-----------------------------------------------------------------------------------------
-- Codes
-----------------------------------------------------------------------------------------

theorem hexDigit?_eq_some_iff (char : Char) (value : Nat)
    : hexDigit? char = some value ↔ HexDigit char value := by
  constructor
  · have decimal : ∀ code < 58, 48 ≤ code → HexDigit (Char.ofNat code) (code - 48) := by decide
    have lower : ∀ code < 103, 97 ≤ code → HexDigit (Char.ofNat code) (code - 97 + 10) := by
      decide
    have upper : ∀ code < 71, 65 ≤ code → HexDigit (Char.ofNat code) (code - 65 + 10) := by decide
    have within (first last : Char) (range : (first ≤ char && char ≤ last) = true)
        : first.toNat ≤ char.toNat ∧ char.toNat ≤ last.toNat := by
      simpa [Char.le_def, UInt32.le_iff_toNat_le] using range
    intro read
    rw [← Char.ofNat_toNat char]
    unfold hexDigit? at read
    split at read
    · rename_i range
      obtain ⟨above, below⟩ := within _ _ range
      rw [← Option.some.inj read]
      exact decimal _ (Nat.lt_succ_of_le below) above
    · split at read
      · rename_i range
        obtain ⟨above, below⟩ := within _ _ range
        rw [← Option.some.inj read]
        exact lower _ (Nat.lt_succ_of_le below) above
      · split at read
        · rename_i range
          obtain ⟨above, below⟩ := within _ _ range
          rw [← Option.some.inj read]
          exact upper _ (Nat.lt_succ_of_le below) above
        · cases read
  · have decimal : ∀ pair ∈ (decimalDigits ++ ['a', 'b', 'c', 'd', 'e', 'f']).zipIdx,
        hexDigit? pair.1 = some pair.2 := by
      decide
    have upper : ∀ pair ∈ (decimalDigits ++ ['A', 'B', 'C', 'D', 'E', 'F']).zipIdx,
        hexDigit? pair.1 = some pair.2 := by
      decide
    rintro (digit | digit)
    · exact decimal (char, value) (List.mk_mem_zipIdx_iff_getElem?.mpr digit)
    · exact upper (char, value) (List.mk_mem_zipIdx_iff_getElem?.mpr digit)

/-- Four digits are read as the code that they spell. -/
theorem HexCode.hexValue? {text rest : List Char} {code : Nat} (given : HexCode text code rest)
    : ∃ first second third fourth,
        text = first :: second :: third :: fourth :: rest
        ∧ Text.hexValue? [first, second, third, fourth] = some code := by
  obtain ⟨_, thousands, hundreds, tens, ones⟩ := given
  refine ⟨_, _, _, _, rfl, ?_⟩
  simp [Text.hexValue?, List.foldlM, (hexDigit?_eq_some_iff _ _).mpr thousands,
    (hexDigit?_eq_some_iff _ _).mpr hundreds, (hexDigit?_eq_some_iff _ _).mpr tens,
    (hexDigit?_eq_some_iff _ _).mpr ones]

/-- Whatever is read as a code are four digits that spell it. -/
theorem HexCode.of_hexValue? {first second third fourth : Char} {code : Nat}
    (read : Text.hexValue? [first, second, third, fourth] = some code) (rest : List Char)
    : HexCode (first :: second :: third :: fourth :: rest) code rest := by
  simp only [Text.hexValue?, List.foldlM, Option.bind_eq_bind, Option.bind_eq_some_iff,
    Option.map_eq_some_iff, Option.pure_def, Option.some.injEq] at read
  obtain ⟨_, ⟨high, thousands, rfl⟩, _, ⟨upper, hundreds, rfl⟩, _, ⟨lower, tens, rfl⟩, _,
    ⟨low, ones, rfl⟩, rfl⟩ := read
  have code := HexCode.digits rest ((hexDigit?_eq_some_iff _ _).mp thousands)
    ((hexDigit?_eq_some_iff _ _).mp hundreds) ((hexDigit?_eq_some_iff _ _).mp tens)
    ((hexDigit?_eq_some_iff _ _).mp ones)
  simpa using code

theorem HexDigit.lt {char : Char} {value : Nat} (digit : HexDigit char value) : value < 16 := by
  rcases digit with digit | digit
  · exact (List.getElem?_eq_some_iff.mp digit).1
  · exact (List.getElem?_eq_some_iff.mp digit).1

/-- No digit closes a string or starts an escape. -/
theorem HexDigit.plain {char : Char} {value : Nat} (digit : HexDigit char value)
    : char ≠ '"' ∧ char ≠ '\\' := by
  constructor
  · rintro rfl
    exact absurd ((hexDigit?_eq_some_iff _ _).mpr digit) (by simp [hexDigit?])
  · rintro rfl
    exact absurd ((hexDigit?_eq_some_iff _ _).mpr digit) (by simp [hexDigit?])

namespace HexCode

theorem lt {text rest : List Char} {code : Nat} (given : HexCode text code rest)
    : code < 0x10000 := by
  obtain ⟨_, thousands, hundreds, tens, ones⟩ := given
  have := thousands.lt
  have := hundreds.lt
  have := tens.lt
  have := ones.lt
  omega

theorem append {text rest : List Char} {code : Nat} (given : HexCode text code rest)
    (more : List Char)
    : HexCode (text ++ more) code (rest ++ more) := by
  obtain ⟨_, thousands, hundreds, tens, ones⟩ := given
  exact .digits _ thousands hundreds tens ones

end HexCode

-----------------------------------------------------------------------------------------
-- The closing quote
-----------------------------------------------------------------------------------------

theorem splitAtQuote_escape (char : Char) (rest : List Char)
    : splitAtQuote ('\\' :: char :: rest)
      = (splitAtQuote rest).map fun split => ('\\' :: char :: split.1, split.2) :=
  rfl

theorem splitAtQuote_raw {char : Char} (unquoted : char ≠ '"') (plain : char ≠ '\\')
    (rest : List Char)
    : splitAtQuote (char :: rest)
      = (splitAtQuote rest).map fun split => (char :: split.1, split.2) := by
  rw [splitAtQuote]
  · exact unquoted
  · exact fun _ _ same _ => plain same

/-- A closing quote that is found with something in front is found without it. -/
theorem exists_splitAtQuote_of_map {text body rest : List Char}
    {change : List Char × List Char → List Char × List Char}
    (found : (splitAtQuote text).map change = some (body, rest))
    (keeps : ∀ split, (change split).2 = split.2)
    : ∃ body, splitAtQuote text = some (body, rest) := by
  obtain ⟨split, later, same⟩ := Option.map_eq_some_iff.mp found
  have kept := keeps split
  rw [same] at kept
  subst kept
  exact ⟨split.1, later⟩

/-- The quote that is found is between both sides. -/
theorem eq_of_splitAtQuote {text body rest : List Char}
    (found : splitAtQuote text = some (body, rest))
    : text = body ++ '"' :: rest := by
  fun_induction splitAtQuote text generalizing body rest with
  | case1 => cases found
  | case2 behind =>
      obtain ⟨rfl, rfl⟩ := Prod.mk.inj (Option.some.inj found)
      rfl
  | case3 char behind ih =>
      obtain ⟨split, later, same⟩ := Option.map_eq_some_iff.mp found
      obtain ⟨rfl, rfl⟩ := Prod.mk.inj same
      rw [ih later, List.cons_append, List.cons_append]
  | case4 char behind _ _ ih =>
      obtain ⟨split, later, same⟩ := Option.map_eq_some_iff.mp found
      obtain ⟨rfl, rfl⟩ := Prod.mk.inj same
      rw [ih later, List.cons_append]

/-- The closing quote is found behind the digits of a code. -/
theorem HexCode.splitAtQuote_eq {digits text : List Char} {code : Nat}
    (given : HexCode digits code text)
    : ∃ spelled,
        splitAtQuote digits
          = (splitAtQuote text).map (fun split => (spelled ++ split.1, split.2))
        ∧ ∀ rest, HexCode (spelled ++ rest) code rest := by
  obtain ⟨_, thousands, hundreds, tens, ones⟩ := given
  refine ⟨[_, _, _, _], ?_, fun rest => .digits rest thousands hundreds tens ones⟩
  rw [splitAtQuote_raw thousands.plain.1 thousands.plain.2,
    splitAtQuote_raw hundreds.plain.1 hundreds.plain.2, splitAtQuote_raw tens.plain.1 tens.plain.2,
    splitAtQuote_raw ones.plain.1 ones.plain.2]
  simp only [Option.map_map]
  rfl

/-- A closing quote behind the digits of a code is found without them. -/
theorem HexCode.exists_splitAtQuote {digits text body rest : List Char} {code : Nat}
    (given : HexCode digits code text) (found : splitAtQuote digits = some (body, rest))
    : text.length < digits.length ∧ ∃ body, splitAtQuote text = some (body, rest) := by
  obtain ⟨spelled, split, _⟩ := given.splitAtQuote_eq
  rw [split] at found
  refine ⟨?_, exists_splitAtQuote_of_map found fun _ => rfl⟩
  cases given
  simp only [List.length_cons]
  omega

-----------------------------------------------------------------------------------------
-- Units
-----------------------------------------------------------------------------------------

theorem stringUnits_raw {char : Char} (plain : char ≠ '\\') (rest : List Char)
    : stringUnits (char :: rest) = .char char :: stringUnits rest := by
  rw [stringUnits]
  · exact fun _ _ _ _ _ same _ => plain same
  · exact fun _ _ same _ => plain same

theorem stringUnits_escape {char : Char} (other : char ≠ 'u') (rest : List Char)
    : stringUnits ('\\' :: char :: rest) = .char (escapedMeaning char) :: stringUnits rest := by
  rw [stringUnits]
  exact fun _ _ _ _ _ same _ => other same

theorem stringUnits_code {digits rest : List Char} {code : Nat}
    (given : HexCode digits code rest)
    : stringUnits ('\\' :: 'u' :: digits) = .code code :: stringUnits rest := by
  obtain ⟨first, second, third, fourth, rfl, read⟩ := given.hexValue?
  rw [stringUnits, read]

theorem stringUnits_letter {text : List Char} (none : ∀ code rest, ¬ HexCode text code rest)
    : stringUnits ('\\' :: 'u' :: text) = .char 'u' :: stringUnits text := by
  rw [stringUnits.eq_def]
  split
  · rename_i same
    cases same
  · rename_i same
    cases same
    split
    · rename_i read
      exact absurd (HexCode.of_hexValue? read _) (none _ _)
    · rfl
  · rename_i same
    cases same
    rfl
  · rename_i different same
    cases same
    exact (different 'u' text rfl rfl).elim

/-- Only the digits of a code give a unit that is one. -/
theorem exists_hexCode_of_stringUnits {text : List Char} {code : Nat} {units : List StringUnit}
    (first : stringUnits text = .code code :: units)
    : ∃ digits rest, text = '\\' :: 'u' :: digits ∧ HexCode digits code rest := by
  rw [stringUnits.eq_def] at first
  split at first
  · cases first
  · split at first
    · rename_i read
      obtain ⟨same, _⟩ := List.cons.inj first
      obtain rfl := StringUnit.code.inj same
      exact ⟨_, _, rfl, HexCode.of_hexValue? read _⟩
    · cases first
  · cases first
  · cases first

/-- A unit that is not joined with the next one stands alone. -/
theorem joinUnits_code {code : Nat} {units : List StringUnit}
    (single
      : ∀ low rest,
          units = .code low :: rest → (isHighSurrogate code && isLowSurrogate low) = false)
    : joinUnits (.code code :: units) = loneUnit code :: joinUnits units := by
  cases units with
  | nil => rfl
  | cons unit rest =>
      cases unit with
      | char char => rfl
      | code low =>
          rw [joinUnits, single low rest rfl]
          rfl

/-- A character has the code of no half of a surrogate pair. -/
theorem toNat_not_surrogate (char : Char) : char.toNat < 0xD800 ∨ 0xE000 ≤ char.toNat := by
  have valid := char.valid
  unfold UInt32.isValidChar Nat.isValidChar at valid
  change char.val.toNat < 0xD800 ∨ 0xE000 ≤ char.val.toNat
  omega

/-- The code of a character stands for it. -/
theorem joinUnits_whole (char : Char) (units : List StringUnit)
    : joinUnits (.code char.toNat :: units) = char :: joinUnits units := by
  have whole := toNat_not_surrogate char
  have notHigh : isHighSurrogate char.toNat = false := by
    simp [isHighSurrogate]
    omega
  have notLow : isLowSurrogate char.toNat = false := by
    simp [isLowSurrogate]
    omega
  rw [joinUnits_code (by simp [notHigh]), loneUnit, notHigh, notLow, Char.ofNat_toNat]
  rfl

/-- Two halves of a surrogate pair are joined. -/
theorem joinUnits_pair {high low : Nat} (isHigh : 0xD800 ≤ high ∧ high < 0xDC00)
    (isLow : 0xDC00 ≤ low ∧ low < 0xE000) (units : List StringUnit)
    : joinUnits (.code high :: .code low :: units)
      = Char.ofNat (0x10000 + (high - 0xD800) * 0x400 + (low - 0xDC00)) :: joinUnits units := by
  have halves : (isHighSurrogate high && isLowSurrogate low) = true := by
    simp [isHighSurrogate, isLowSurrogate, isHigh, isLow]
  rw [joinUnits, halves, if_pos rfl, pairedUnits]

/-- A half that is not joined stands for nothing. -/
theorem joinUnits_half {code : Nat} (half : 0xD800 ≤ code ∧ code < 0xE000)
    {units : List StringUnit}
    (single
      : ∀ low rest,
          units = .code low :: rest → (isHighSurrogate code && isLowSurrogate low) = false)
    : joinUnits (.code code :: units) = '\uFFFD' :: joinUnits units := by
  have surrogate : (isHighSurrogate code || isLowSurrogate code) = true := by
    simp [isHighSurrogate, isLowSurrogate]
    omega
  rw [joinUnits_code single, loneUnit, surrogate]
  rfl

-----------------------------------------------------------------------------------------
-- Strings
-----------------------------------------------------------------------------------------

theorem Escape.eq_escapedMeaning {char meaning : Char} (means : Escape char meaning)
    : char ≠ 'u' ∧ escapedMeaning char = meaning := by
  cases means with
  | itself plain =>
      refine ⟨fun same => plain (by simp [same]), ?_⟩
      simp only [List.mem_cons, List.not_mem_nil, or_false, not_or] at plain
      obtain ⟨_, _, _, _, _, _⟩ := plain
      rw [escapedMeaning] <;> assumption
  | backspace | formFeed | lineFeed | carriageReturn | tab => exact ⟨by decide, rfl⟩

theorem exists_escape {char : Char} (other : char ≠ 'u') : ∃ meaning, Escape char meaning := by
  by_cases named : char ∈ ['b', 'f', 'n', 'r', 't']
  · simp only [List.mem_cons, List.not_mem_nil, or_false] at named
    rcases named with rfl | rfl | rfl | rfl | rfl
    · exact ⟨_, .backspace⟩
    · exact ⟨_, .formFeed⟩
    · exact ⟨_, .lineFeed⟩
    · exact ⟨_, .carriageReturn⟩
    · exact ⟨_, .tab⟩
  · refine ⟨char, .itself ?_⟩
    simp only [List.mem_cons, List.not_mem_nil, or_false, not_or] at named ⊢
    exact ⟨named.1, named.2.1, named.2.2.1, named.2.2.2.1, named.2.2.2.2, other⟩

/-- Whatever the grammar derives is read, by induction on the derivation. -/
theorem Quoted.read {text chars rest : List Char} (quoted : Quoted text chars rest)
    : ∃ body, splitAtQuote text = some (body, rest) ∧ joinUnits (stringUnits body) = chars := by
  induction quoted with
  | close rest => exact ⟨[], rfl, rfl⟩
  | @raw char text chars rest unquoted plain _ ih =>
      obtain ⟨body, found, units⟩ := ih
      refine ⟨char :: body, ?_, ?_⟩
      · rw [splitAtQuote_raw unquoted plain, found, Option.map_some]
      · rw [stringUnits_raw plain, joinUnits, units]
  | @escape char meaning text chars rest means _ ih =>
      obtain ⟨body, found, units⟩ := ih
      obtain ⟨other, meant⟩ := means.eq_escapedMeaning
      refine ⟨'\\' :: char :: body, ?_, ?_⟩
      · rw [splitAtQuote_escape, found, Option.map_some]
      · rw [stringUnits_escape other, joinUnits, units, meant]
  | @letter text chars rest none _ ih =>
      obtain ⟨body, found, units⟩ := ih
      have absent : ∀ code behind, ¬ HexCode body code behind := by
        intro code behind given
        have whole := given.append ('"' :: rest)
        rw [← eq_of_splitAtQuote found] at whole
        exact none code _ whole
      refine ⟨'\\' :: 'u' :: body, ?_, ?_⟩
      · rw [splitAtQuote_escape, found, Option.map_some]
      · rw [stringUnits_letter absent, joinUnits, units]
  | @code char digits text chars rest given _ ih =>
      obtain ⟨body, found, units⟩ := ih
      obtain ⟨spelled, split, anywhere⟩ := given.splitAtQuote_eq
      refine ⟨'\\' :: 'u' :: (spelled ++ body), ?_, ?_⟩
      · rw [splitAtQuote_escape, split, found, Option.map_some, Option.map_some]
      · rw [stringUnits_code (anywhere body), joinUnits_whole, units]
  | @pair char high low digits second text chars rest first isHigh next isLow joined _ ih =>
      obtain ⟨body, found, units⟩ := ih
      obtain ⟨spelled, split, anywhere⟩ := first.splitAtQuote_eq
      obtain ⟨spelled', split', anywhere'⟩ := next.splitAtQuote_eq
      refine ⟨'\\' :: 'u' :: (spelled ++ '\\' :: 'u' :: (spelled' ++ body)), ?_, ?_⟩
      · rw [splitAtQuote_escape, split, splitAtQuote_escape, split', found]
        rfl
      · rw [stringUnits_code (anywhere _), stringUnits_code (anywhere' _),
          joinUnits_pair isHigh isLow, units, ← joined, Char.ofNat_toNat]
  | @lone code digits text chars rest given half single _ ih =>
      obtain ⟨body, found, units⟩ := ih
      obtain ⟨spelled, split, anywhere⟩ := given.splitAtQuote_eq
      refine ⟨'\\' :: 'u' :: (spelled ++ body), ?_, ?_⟩
      · rw [splitAtQuote_escape, split, found, Option.map_some, Option.map_some]
      · have alone : ∀ low behind, stringUnits body = .code low :: behind →
            (isHighSurrogate code && isLowSurrogate low) = false := by
          intro low behind starts
          obtain ⟨digits', rest', rfl, given'⟩ := exists_hexCode_of_stringUnits starts
          apply Bool.eq_false_iff.mpr
          intro halves
          simp only [isHighSurrogate, isLowSurrogate, Bool.and_eq_true, decide_eq_true_eq] at halves
          refine single ⟨halves.1.2, digits' ++ '"' :: rest, low, _, ?_, given'.append _, halves.2⟩
          exact eq_of_splitAtQuote found
        rw [stringUnits_code (anywhere body), joinUnits_half half alone, units]

theorem toNat_ofNat {code : Nat} (valid : code < 0xD800 ∨ 0xDFFF < code ∧ code < 0x110000)
    : (Char.ofNat code).toNat = code := by
  rw [Char.ofNat, dif_pos valid]
  rfl

/-- A code has a meaning whatever follows it: it is joined with the next one, stands for
nothing, or is a character.
-/
theorem exists_quoted_of_code {digits text rest : List Char} {code : Nat}
    (given : HexCode digits code text) (behind : ∃ chars, Quoted text chars rest)
    (behindNext
      : ∀ second low next,
          text = '\\' :: 'u' :: second
          → HexCode second low next
          → ∃ chars, Quoted next chars rest)
    : ∃ chars, Quoted ('\\' :: 'u' :: digits) chars rest := by
  obtain ⟨chars, quoted⟩ := behind
  have small := given.lt
  by_cases half : 0xD800 ≤ code ∧ code < 0xE000
  · by_cases paired : code < 0xDC00 ∧ StartsLow text
    · obtain ⟨high, second, low, next, rfl, given', isLow⟩ := paired
      obtain ⟨chars', quoted'⟩ := behindNext second low next rfl given'
      have joined := toNat_ofNat
        (show _ ∨ 0xDFFF < 0x10000 + (code - 0xD800) * 0x400 + (low - 0xDC00) ∧ _ by omega)
      exact ⟨_, .pair given ⟨half.1, high⟩ given' isLow joined quoted'⟩
    · exact ⟨_, .lone given half paired quoted⟩
  · have whole := toNat_ofNat (show code < 0xD800 ∨ _ by omega)
    refine ⟨Char.ofNat code :: chars, .code ?_ quoted⟩
    rwa [whole]

/-- Whatever has a closing quote is derived by the grammar, by induction on the text. -/
theorem exists_quoted {text body rest : List Char}
    (found : splitAtQuote text = some (body, rest))
    : ∃ chars, Quoted text chars rest := by
  induction size : text.length using Nat.strongRecOn generalizing text body with
  | ind count ih =>
      subst size
      cases text with
      | nil => cases found
      | cons char behind =>
          -- A code takes several characters at once, so shorter texts of all lengths are needed.
          have derive {text body : List Char} (shorter : text.length ≤ behind.length)
              (found : splitAtQuote text = some (body, rest))
              : ∃ chars, Quoted text chars rest :=
            ih _ (Nat.lt_succ_of_le shorter) found rfl
          by_cases closing : char = '"'
          · subst closing
            obtain ⟨_, rfl⟩ := Prod.mk.inj (Option.some.inj found)
            exact ⟨[], .close behind⟩
          by_cases escaping : char = '\\'
          · subst escaping
            cases behind with
            | nil => cases found
            | cons escaped behind =>
                rw [List.length_cons] at derive
                rw [splitAtQuote_escape] at found
                obtain ⟨_, later⟩ := exists_splitAtQuote_of_map found fun _ => rfl
                obtain ⟨chars, quoted⟩ := derive (by omega) later
                by_cases letter : escaped = 'u'
                · subst letter
                  by_cases given : ∃ code text, HexCode behind code text
                  · obtain ⟨code, text, given⟩ := given
                    obtain ⟨shorter, _, later⟩ := given.exists_splitAtQuote later
                    refine exists_quoted_of_code given (derive (by omega) later)
                      fun second low next same given' => ?_
                    rw [same, splitAtQuote_escape] at later
                    obtain ⟨_, later⟩ := exists_splitAtQuote_of_map later fun _ => rfl
                    obtain ⟨shorter', _, later⟩ := given'.exists_splitAtQuote later
                    rw [same, List.length_cons, List.length_cons] at shorter
                    exact derive (by omega) later
                  · exact ⟨_, .letter (fun code text code' => given ⟨code, text, code'⟩) quoted⟩
                · obtain ⟨meaning, means⟩ := exists_escape letter
                  exact ⟨meaning :: chars, .escape means quoted⟩
          · rw [splitAtQuote_raw closing escaping] at found
            obtain ⟨_, later⟩ := exists_splitAtQuote_of_map found fun _ => rfl
            obtain ⟨chars, quoted⟩ := derive (Nat.le_refl _) later
            exact ⟨char :: chars, .raw closing escaping quoted⟩

/-- A string is read up to a closing quote as the grammar derives it. -/
theorem quoted_of_splitAtQuote {text body rest : List Char}
    (found : splitAtQuote text = some (body, rest))
    : Quoted text (joinUnits (stringUnits body)) rest := by
  obtain ⟨chars, quoted⟩ := exists_quoted found
  obtain ⟨body', found', units⟩ := quoted.read
  obtain ⟨rfl, _⟩ := Prod.mk.inj (Option.some.inj (found.symm.trans found'))
  rwa [units]

theorem Quoted.length_lt {text chars rest : List Char} (quoted : Quoted text chars rest)
    : rest.length < text.length := by
  obtain ⟨body, found, _⟩ := quoted.read
  rw [eq_of_splitAtQuote found]
  simp
  omega

/-- A string that is read is one of the grammar. -/
theorem readString_sound {input last : Input} {text : List Char} {string : String}
    (starts : input.chars = '"' :: text) (read : readString input = .ok (string, last))
    : Quoted text string.toList last.chars ∧ last.stop = input.stop := by
  unfold readString at read
  rw [starts, List.drop_succ_cons, List.drop_zero] at read
  split at read
  · cases read
  · rename_i body rest found
    obtain ⟨rfl, rfl⟩ := Prod.mk.inj (Except.ok.inj read)
    rw [String.toList_ofList]
    refine ⟨quoted_of_splitAtQuote found, ?_⟩
    rw [Input.stop, Input.stop, starts, eq_of_splitAtQuote found]
    simp only [Input.after, Text.Utf8.size, Text.Utf8.size_append]
    omega

/-- A string of the grammar is read. -/
theorem readString_complete {input : Input} {text chars rest : List Char}
    (starts : input.chars = '"' :: text) (quoted : Quoted text chars rest)
    : ∃ last, readString input = .ok (String.ofList chars, last) ∧ last.chars = rest := by
  obtain ⟨body, found, units⟩ := quoted.read
  unfold readString
  rw [starts, List.drop_succ_cons, List.drop_zero, found, ← units]
  exact ⟨_, rfl, rfl⟩

end LanguageClient.Json
