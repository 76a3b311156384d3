import LanguageClient.Proofs.Json.Reading

/-! What follows a value may be exchanged. A value takes the characters in front of what is left,
and it is read off them alike whatever comes next, as long as no number goes on there.
-/

namespace LanguageClient.Json

-----------------------------------------------------------------------------------------
-- The end of a number
-----------------------------------------------------------------------------------------

/-- The characters that numbers are written with. -/
def numberChars : List Char :=
  decimalDigits ++ ['-', '+', '.', 'e', 'E']

/-- A text that no number goes on with. -/
def StopsNumbers (rest : List Char) : Prop :=
  ∀ char more, rest = char :: more → char ∉ numberChars

theorem stopsNumbers_nil : StopsNumbers [] :=
  nofun

theorem stopsNumbers_cons {char : Char} (other : char ∉ numberChars) (rest : List Char)
    : StopsNumbers (char :: rest) := by
  intro first more same
  obtain ⟨rfl, _⟩ := List.cons.inj same
  exact other

theorem NumberToken.Written.mem_numberChars {token : NumberToken} (written : token.Written)
    : ∀ char ∈ token.chars, char ∈ numberChars := by
  have digits {chars : List Char} (all : ∀ char ∈ chars, char ∈ decimalDigits)
      : ∀ char ∈ chars, char ∈ numberChars :=
    fun char member => List.mem_append_left _ (all char member)
  have marks {char : Char} (mark : char ∈ ['-', '+', '.', 'e', 'E']) : char ∈ numberChars :=
    List.mem_append_right _ mark
  have sign : ∀ char ∈ token.sign, char ∈ numberChars := by
    rcases written.sign with same | same <;> simp [same, marks]
  have fraction : ∀ char ∈ token.point ++ token.fraction, char ∈ numberChars := by
    rcases written.fraction with ⟨point, none⟩ | ⟨point, some⟩
    · simp [point, none]
    · rw [point]
      exact List.forall_mem_cons.mpr ⟨marks (by simp), digits some.2⟩
  have exponent
      : ∀ char ∈ token.exponentMark ++ token.exponentSign ++ token.exponent,
          char ∈ numberChars := by
    rcases written.exponent with ⟨mark, sign, none⟩ | ⟨mark, sign, some⟩
    · simp [mark, sign, none]
    · refine List.forall_mem_append.mpr ⟨?_, digits some.2⟩
      rcases mark with mark | mark <;> rcases sign with sign | sign | sign <;>
        simp [mark, sign, marks]
  rw [NumberToken.chars_eq]
  refine List.forall_mem_append.mpr ⟨sign, List.forall_mem_append.mpr ⟨?_, ?_⟩⟩
  · exact digits written.whole.2
  · exact List.forall_mem_append.mpr ⟨fraction, exponent⟩

/-- A number in front of what no number goes on with is written to its end. -/
theorem NumberToken.longest_of_stops {token : NumberToken} {rest : List Char}
    (stops : StopsNumbers rest)
    : token.Longest (token.chars ++ rest) := by
  intro other written starts
  by_contra longer
  obtain ⟨more, same⟩ := List.prefix_of_prefix_length_le (List.prefix_append token.chars rest)
    starts (by omega)
  rw [← same, List.prefix_append_right_inj] at starts
  obtain ⟨behind, rfl⟩ := starts
  cases more with
  | nil => simp [← same] at longer
  | cons char more =>
      refine stops char _ rfl (written.mem_numberChars char ?_)
      simp [← same]

-----------------------------------------------------------------------------------------
-- White space and strings
-----------------------------------------------------------------------------------------

theorem blanks_append {blanks : List Char} (blank : ∀ char ∈ blanks, isSpace char = true)
    (rest : List Char)
    : Blanks (blanks ++ rest) rest := by
  induction blanks with
  | nil => exact .none rest
  | cons char blanks ih =>
      obtain ⟨first, others⟩ := List.forall_mem_cons.mp blank
      exact .cons ((isSpace_iff char).mp first) (ih others)

theorem Blanks.exists_append {text rest : List Char} (blanks : Blanks text rest)
    : ∃ taken, text = taken ++ rest ∧ ∀ char ∈ taken, isSpace char = true := by
  induction blanks with
  | none => exact ⟨[], rfl, nofun⟩
  | @cons char _ _ blank _ ih =>
      obtain ⟨taken, rfl, blanks⟩ := ih
      exact ⟨char :: taken, rfl, List.forall_mem_cons.mpr ⟨(isSpace_iff char).mpr blank, blanks⟩⟩

/-- No number goes on with white space. -/
theorem stopsNumbers_blanks {blanks : List Char} (some : blanks ≠ [])
    (blank : ∀ char ∈ blanks, isSpace char = true) (rest : List Char)
    : StopsNumbers (blanks ++ rest) := by
  cases blanks with
  | nil => exact absurd rfl some
  | cons char blanks =>
      have apart : ∀ char ∈ [' ', '\t', '\n', '\r'], char ∉ numberChars := by
        simp [numberChars, decimalDigits]
      exact stopsNumbers_cons (apart char ((isSpace_iff char).mp (blank char (by simp)))) _

/-- Nor does it with what no number goes on with behind white space. -/
theorem stopsNumbers_append {blanks rest : List Char}
    (blank : ∀ char ∈ blanks, isSpace char = true) (stops : StopsNumbers rest)
    : StopsNumbers (blanks ++ rest) := by
  by_cases none : blanks = []
  · simpa [none] using stops
  · exact stopsNumbers_blanks none blank rest

/-- The closing quote is found before anything that follows it. -/
theorem splitAtQuote_exchange {text body rest : List Char}
    (found : splitAtQuote text = some (body, rest)) (other : List Char)
    : splitAtQuote (body ++ '"' :: other) = some (body, other) := by
  fun_induction splitAtQuote text generalizing body with
  | case1 => cases found
  | case2 behind =>
      obtain ⟨rfl, _⟩ := Prod.mk.inj (Option.some.inj found)
      rfl
  | case3 char behind ih =>
      obtain ⟨split, later, same⟩ := Option.map_eq_some_iff.mp found
      obtain ⟨rfl, rfl⟩ := Prod.mk.inj same
      simp [splitAtQuote_escape, ih later]
  | case4 char behind unquoted plain ih =>
      obtain ⟨split, later, same⟩ := Option.map_eq_some_iff.mp found
      obtain ⟨rfl, rfl⟩ := Prod.mk.inj same
      have bare : char ≠ '\\' := by
        rintro rfl
        cases behind with
        | nil => cases later
        | cons next behind => exact plain next behind rfl rfl
      simp [splitAtQuote_raw unquoted bare, ih later]

theorem Quoted.exchange {text chars rest : List Char} (quoted : Quoted text chars rest)
    : ∃ taken, text = taken ++ rest ∧ ∀ other, Quoted (taken ++ other) chars other := by
  obtain ⟨body, found, units⟩ := quoted.read
  refine ⟨body ++ ['"'], by simp [eq_of_splitAtQuote found], fun other => ?_⟩
  have whole := quoted_of_splitAtQuote (splitAtQuote_exchange found other)
  simpa [units] using whole

-----------------------------------------------------------------------------------------
-- Values
-----------------------------------------------------------------------------------------

/-- A text is some characters in front of a rest, and they are related in the same way to every
other rest that no number goes on with.
-/
def Exchanges (related : List Char → List Char → Prop) (text rest : List Char) : Prop :=
  ∃ taken, text = taken ++ rest ∧ ∀ other, StopsNumbers other → related (taken ++ other) other

/-- Values of some levels stay the same in front of other rests. -/
def KeepsInFront (levels : Nat) : Prop :=
  ∀ text value rest,
    Spells levels text value rest → Exchanges (Spells levels · value ·) text rest

/-- With white space and a separator behind it, the same is found in front of anything else. -/
theorem Exchanges.separated {related : List Char → List Char → Prop}
    {text behind rest : List Char} {separator : Char} (kept : Exchanges related text behind)
    (after : Blanks behind (separator :: rest)) (apart : separator ∉ numberChars)
    : ∃ taken,
        text = taken ++ separator :: rest
        ∧ ∀ other,
            ∃ behind,
              related (taken ++ separator :: other) behind
              ∧ Blanks behind (separator :: other) := by
  obtain ⟨taken, rfl, kept⟩ := kept
  obtain ⟨blanks, rfl, blank⟩ := after.exists_append
  refine ⟨taken ++ blanks, by simp, fun other => ⟨blanks ++ separator :: other, ?_, ?_⟩⟩
  · simpa using kept _ (stopsNumbers_append blank (stopsNumbers_cons apart other))
  · exact blanks_append blank _

section

variable {levels : Nat}

/-- A value behind white space. -/
def SpellsSpaced (levels : Nat) (text : List Char) (value : Value) (rest : List Char) : Prop :=
  ∃ start, Blanks text start ∧ Spells levels start value rest

/-- White space in front of a value stays there. -/
theorem SpellsSpaced.exchange (inside : KeepsInFront levels) {value : Value}
    {text rest : List Char} (spelled : SpellsSpaced levels text value rest)
    : Exchanges (SpellsSpaced levels · value ·) text rest := by
  obtain ⟨start, before, spelled⟩ := spelled
  obtain ⟨blanks, rfl, blank⟩ := before.exists_append
  obtain ⟨taken, rfl, kept⟩ := inside _ _ _ spelled
  refine ⟨blanks ++ taken, by simp, fun other stops => ⟨taken ++ other, ?_, kept other stops⟩⟩
  simpa using blanks_append blank (taken ++ other)

/-- Items stay the same in front of other rests, by induction on them. -/
theorem SpellsItems.exchange (inside : KeepsInFront levels) {items : List Value}
    {text rest : List Char} (spelled : SpellsItems levels text items rest)
    : Exchanges (SpellsItems levels · items ·) text rest := by
  induction items generalizing text with
  | nil => cases spelled
  | cons item items ih =>
      cases spelled with
      | last before spelled after =>
          have item := SpellsSpaced.exchange inside ⟨_, before, spelled⟩
          obtain ⟨taken, rfl, kept⟩ := item.separated after (by decide)
          refine ⟨taken ++ [']'], by simp, fun other _ => ?_⟩
          obtain ⟨behind, ⟨start, before, spelled⟩, after⟩ := kept other
          simpa using SpellsItems.last before spelled after
      | more before spelled after others =>
          have item := SpellsSpaced.exchange inside ⟨_, before, spelled⟩
          obtain ⟨taken, rfl, kept⟩ := item.separated after (by decide)
          obtain ⟨later, rfl, keptLater⟩ := ih others
          refine ⟨taken ++ ',' :: later, by simp, fun other stops => ?_⟩
          obtain ⟨behind, ⟨start, before, spelled⟩, after⟩ := kept (later ++ other)
          simpa using SpellsItems.more before spelled after (keptLater other stops)

/-- A field stays the same in front of other rests. -/
theorem SpellsField.exchange (inside : KeepsInFront levels) {field : String × Value}
    {text rest : List Char} (spelled : SpellsField levels text field rest)
    : Exchanges (SpellsField levels · field ·) text rest := by
  cases spelled with
  | field beforeName quoted beforeColon before spelled =>
      obtain ⟨front, rfl, blankFront⟩ := beforeName.exists_append
      obtain ⟨name, rfl, keptName⟩ := quoted.exchange
      obtain ⟨middle, rfl, blankMiddle⟩ := beforeColon.exists_append
      obtain ⟨taken, rfl, kept⟩ := SpellsSpaced.exchange inside ⟨_, before, spelled⟩
      refine ⟨front ++ '"' :: (name ++ (middle ++ ':' :: taken)), by simp, fun other stops => ?_⟩
      obtain ⟨start, before, spelled⟩ := kept other stops
      have quote := blanks_append blankFront ('"' :: (name ++ (middle ++ ':' :: (taken ++ other))))
      have colon := blanks_append blankMiddle (':' :: (taken ++ other))
      simpa using SpellsField.field quote (keptName _) colon before spelled

/-- Fields stay the same in front of other rests, by induction on them. -/
theorem SpellsFields.exchange (inside : KeepsInFront levels) {fields : List (String × Value)}
    {text rest : List Char} (spelled : SpellsFields levels text fields rest)
    : Exchanges (SpellsFields levels · fields ·) text rest := by
  induction fields generalizing text with
  | nil => cases spelled
  | cons field fields ih =>
      cases spelled with
      | last spelled after =>
          obtain ⟨taken, rfl, kept⟩ := (spelled.exchange inside).separated after (by decide)
          refine ⟨taken ++ ['\x7d'], by simp, fun other _ => ?_⟩
          obtain ⟨behind, spelled, after⟩ := kept other
          simpa using SpellsFields.last spelled after
      | more spelled after others =>
          obtain ⟨taken, rfl, kept⟩ := (spelled.exchange inside).separated after (by decide)
          obtain ⟨later, rfl, keptLater⟩ := ih others
          refine ⟨taken ++ ',' :: later, by simp, fun other stops => ?_⟩
          obtain ⟨behind, spelled, after⟩ := kept (later ++ other)
          simpa using SpellsFields.more spelled after (keptLater other stops)

end

/-- A value stays the same in front of other rests, by induction on the levels of nesting. -/
theorem keepsInFront (levels : Nat) : KeepsInFront levels := by
  induction levels using Nat.strongRecOn with
  | ind levels ih =>
      intro text value rest spelled
      cases spelled with
      | null => exact ⟨['n', 'u', 'l', 'l'], rfl, fun other _ => .null levels other⟩
      | truth => exact ⟨['t', 'r', 'u', 'e'], rfl, fun other _ => .truth levels other⟩
      | falsity => exact ⟨['f', 'a', 'l', 's', 'e'], rfl, fun other _ => .falsity levels other⟩
      | @number _ token _ written _ finite =>
          refine ⟨token.chars, rfl, fun other stops => ?_⟩
          exact .number levels written (NumberToken.longest_of_stops stops) finite
      | text _ quoted =>
          obtain ⟨taken, rfl, kept⟩ := quoted.exchange
          exact ⟨'"' :: taken, rfl, fun other _ => .text levels (kept other)⟩
      | @emptyArray inner _ _ blanks =>
          obtain ⟨taken, rfl, blank⟩ := blanks.exists_append
          refine ⟨'[' :: (taken ++ [']']), by simp, fun other _ => ?_⟩
          simpa using Spells.emptyArray inner (blanks_append blank (']' :: other))
      | @array inner _ _ _ spelled =>
          obtain ⟨taken, rfl, kept⟩ := spelled.exchange (ih inner (Nat.lt_succ_self inner))
          exact ⟨'[' :: taken, rfl, fun other stops => .array (kept other stops)⟩
      | @emptyObject inner _ _ blanks =>
          obtain ⟨taken, rfl, blank⟩ := blanks.exists_append
          refine ⟨'\x7b' :: (taken ++ ['\x7d']), by simp, fun other _ => ?_⟩
          simpa using Spells.emptyObject inner (blanks_append blank ('\x7d' :: other))
      | @object inner _ _ _ _ spelled last =>
          obtain ⟨taken, rfl, kept⟩ := spelled.exchange (ih inner (Nat.lt_succ_self inner))
          exact ⟨'\x7b' :: taken, rfl, fun other stops => .object (kept other stops) last⟩

/-- A value is read alike off the characters that it takes, wherever they stand and whatever
follows them.
-/
theorem readNested_exchange {levels : Nat} {input last : Input} {value : Value}
    (read : readNested levels input = .ok (value, last))
    : ∃ taken,
        input.chars = taken ++ last.chars
        ∧ ∀ other position,
            StopsNumbers other
            → readNested levels ⟨taken ++ other, position⟩
              = .ok (value, ⟨other, position + Text.Utf8.size taken⟩) := by
  have spelled := (readNested_sound levels _ _ _ read).1
  obtain ⟨taken, split, kept⟩ := SpellsSpaced.exchange (keepsInFront levels) spelled
  refine ⟨taken, split, fun other position stops => ?_⟩
  obtain ⟨start, before, spelled⟩ := kept other stops
  obtain ⟨behind, again, rfl⟩ :=
    readNested_complete levels ⟨taken ++ other, position⟩ start value other before spelled
  have stop := (readNested_sound levels _ _ _ again).2
  have reached : behind = ⟨behind.chars, position + Text.Utf8.size taken⟩ := by
    refine Input.eq_of_stop rfl (stop.trans ?_)
    simp only [Input.stop, Text.Utf8.size_append]
    omega
  rw [again, ← reached]

end LanguageClient.Json
