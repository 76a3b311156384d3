import LanguageClient.Proofs.Json.Behind
import LanguageClient.Proofs.Json.Readable
import LanguageClient.Proofs.Json.StrictGrammar

/-! Whatever is written is a strict document, without white space between its tokens and without
control characters, and its names are in order.
-/

namespace LanguageClient.Json

-----------------------------------------------------------------------------------------
-- Strings and numbers
-----------------------------------------------------------------------------------------

/-- A character is written as one strict unit that stands for it. -/
theorem strictUnits_quotedChar (char : Char) {text : List Char} {units : List StringUnit}
    (strict : StrictUnits text units)
    : ∃ unit,
        StrictUnits (Value.quotedChar char ++ text) (unit :: units)
        ∧ joinUnits (unit :: units) = char :: joinUnits units := by
  have named {escaped meaning : Char} (means : (escaped, meaning) ∈ strictEscapes)
      : ∃ unit,
          StrictUnits ('\\' :: escaped :: text) (unit :: units)
          ∧ joinUnits (unit :: units) = meaning :: joinUnits units :=
    ⟨.char meaning, .escape means strict, rfl⟩
  unfold Value.quotedChar
  split <;> try exact named (by simp [strictEscapes])
  split
  · rename_i control
    have small : char.toNat < 256 := by omega
    have code := hexCode_escapeDigits small text
    exact ⟨.code char.toNat, .code code strict, joinUnits_whole char units⟩
  · rename_i unquoted plain _ _ _ _ _ printable
    exact ⟨.char char, .unescaped (Nat.le_of_not_lt printable) unquoted plain strict, rfl⟩

/-- A text is written as strict units that stand for it, by induction on its characters. -/
theorem exists_strictUnits (chars : List Char)
    : ∃ units, StrictUnits (chars.flatMap Value.quotedChar) units ∧ joinUnits units = chars := by
  induction chars with
  | nil => exact ⟨[], .nothing, rfl⟩
  | cons char rest ih =>
      obtain ⟨units, strict, rfl⟩ := ih
      obtain ⟨unit, first, joined⟩ := strictUnits_quotedChar char strict
      exact ⟨unit :: units, by simpa using first, joined⟩

/-- A number is written strictly as what is left of it. -/
theorem strict_number (number : Number) : StrictValue number.chars number.readBack := by
  unfold Number.readBack
  split
  · rename_i finite
    obtain ⟨decimal, written, reads, plain⟩ := Number.exists_decimal finite
    have strict : decimal.token.Strict := ⟨decimal.token_written, decimal.token_leading plain⟩
    have finite' : decimal.toNumber.isFinite := reads ▸ Number.isFinite_unsignedZero finite
    rw [written, ← decimal.chars_token, ← reads, ← Decimal.toNumber_token finite']
    exact .number strict
  · rename_i infinite
    have null : number.chars = ['n', 'u', 'l', 'l'] := by
      rw [Number.chars]
      exact if_pos (by simpa using infinite)
    rw [null]
    exact .null

-----------------------------------------------------------------------------------------
-- Values
-----------------------------------------------------------------------------------------

theorem StrictSpaced.bare {text : List Char} {value : Value} (strict : StrictValue text value)
    : StrictSpaced text value := by
  have spaced := @StrictSpaced.spaced [] text [] value (List.forall_mem_nil _) strict
    (List.forall_mem_nil _)
  rwa [List.append_nil] at spaced

theorem strictField_quoted (name : String) {text : List Char} {value : Value}
    (strict : StrictValue text value)
    : StrictField (Value.quoted name ++ ':' :: text) (name, value) := by
  obtain ⟨units, spelled, joined⟩ := exists_strictUnits name.toList
  have field := @StrictField.field [] _ [] text units value (List.forall_mem_nil _) spelled
    (List.forall_mem_nil _) (.bare strict)
  rw [joined, String.ofList_toList] at field
  simpa [Value.quoted] using field

open Value

mutual

/-- A value is written strictly as what is left of it. -/
theorem strict_chars (value : Value) : StrictValue value.chars value.readBack := by
  cases value with
  | null => exact .null
  | boolean value =>
      cases value with
      | true => exact .truth
      | false => exact .falsity
  | number number => exact strict_number number
  | text text =>
      obtain ⟨units, strict, joined⟩ := exists_strictUnits text.toList
      have spelled := StrictValue.text strict
      rwa [joined, String.ofList_toList] at spelled
  | array items =>
      rw [chars, readBack, mapNumbers]
      by_cases none : items = []
      · rw [none]
        exact .emptyArray (List.forall_mem_nil _)
      · exact .array (strictItems_chars items none)
  | object fields =>
      rw [chars, readBack, mapNumbers]
      by_cases none : fields = []
      · rw [none]
        exact .emptyObject (List.forall_mem_nil _)
      · exact .object (strictFields_chars fields none)
termination_by sizeOf value

theorem strictItems_chars (items : List Value) (some : items ≠ [])
    : StrictItems (itemsChars items) (mapItems Number.readBack items) := by
  cases items with
  | nil => exact absurd rfl some
  | cons item items =>
      have first : StrictSpaced item.chars item.readBack := .bare (strict_chars item)
      rw [mapItems]
      by_cases none : items = []
      · rw [none]
        exact .last first
      · rw [itemsChars_cons item none]
        exact .more first (strictItems_chars items none)
termination_by sizeOf items

theorem strictFields_chars (fields : List (String × Value)) (some : fields ≠ [])
    : StrictFields (fieldsChars fields) (mapFields Number.readBack fields) := by
  match fields with
  | [] => exact absurd rfl some
  | (name, value) :: fields =>
      have first : StrictField (quoted name ++ ':' :: value.chars) (name, value.readBack) :=
        strictField_quoted name (strict_chars value)
      rw [mapFields]
      by_cases none : fields = []
      · rw [none]
        exact .last first
      · rw [fieldsChars_cons name value none, ← List.cons_append, ← List.append_assoc]
        exact .more first (strictFields_chars fields none)
termination_by sizeOf fields

end

-----------------------------------------------------------------------------------------
-- Tokens
-----------------------------------------------------------------------------------------

/-- A property of texts that holds of the tokens of a document and of texts one after the other.
-/
structure OfTokens (property : List Char → Prop) : Prop where
  nothing : property []
  mark : ∀ mark ∈ ['[', ']', '\x7b', '\x7d', ',', ':'], property [mark]
  word : ∀ word ∈ ["null", "true", "false"], property word.toList
  number : ∀ token : NumberToken, token.Written → property token.chars
  quoted : ∀ name, property (quoted name)
  append : ∀ {front back}, property front → property back → property (front ++ back)

namespace OfTokens

variable {property : List Char → Prop} (tokens : OfTokens property)

include tokens

theorem number_chars (number : Number) : property number.chars := by
  by_cases finite : number.isFinite
  · obtain ⟨token, written, same, _⟩ := Number.exists_token finite
    exact same ▸ tokens.number token written
  · rw [Number.chars, if_pos (by simpa using finite)]
    exact tokens.word "null" (by simp)

mutual

/-- What holds of tokens holds of whatever is written. -/
theorem chars (value : Value) : property value.chars := by
  cases value with
  | null => exact tokens.word "null" (by simp)
  | boolean value =>
      cases value with
      | true => exact tokens.word "true" (by simp)
      | false => exact tokens.word "false" (by simp)
  | number number => exact tokens.number_chars number
  | text text => exact tokens.quoted text
  | array items =>
      have opened := tokens.append (tokens.mark '[' (by simp)) (itemsChars items)
      exact tokens.append opened (tokens.mark ']' (by simp))
  | object fields =>
      have opened := tokens.append (tokens.mark '\x7b' (by simp)) (fieldsChars fields)
      exact tokens.append opened (tokens.mark '\x7d' (by simp))
termination_by sizeOf value

theorem itemsChars (items : List Value) : property (Value.itemsChars items) := by
  cases items with
  | nil => exact tokens.nothing
  | cons item items =>
      by_cases none : items = []
      · rw [none]
        exact chars item
      · rw [itemsChars_cons item none]
        have comma := tokens.append (tokens.mark ',' (by simp)) (itemsChars items)
        exact tokens.append (chars item) comma
termination_by sizeOf items

theorem fieldsChars (fields : List (String × Value)) : property (Value.fieldsChars fields) := by
  match fields with
  | [] => exact tokens.nothing
  | (name, value) :: fields =>
      have colon := tokens.append (tokens.mark ':' (by simp)) (chars value)
      by_cases none : fields = []
      · rw [none]
        exact tokens.append (tokens.quoted name) colon
      · rw [fieldsChars_cons name value none]
        have comma := tokens.append (tokens.mark ',' (by simp)) (fieldsChars fields)
        have field := tokens.append colon comma
        exact tokens.append (tokens.quoted name) field
termination_by sizeOf fields

end

end OfTokens

-----------------------------------------------------------------------------------------
-- Characters
-----------------------------------------------------------------------------------------

/-- The ASCII characters that are neither white space nor control characters. -/
def IsVisible (char : Char) : Prop :=
  0x20 < char.toNat ∧ char.toNat < 0x7F

instance (char : Char) : Decidable (IsVisible char) :=
  inferInstanceAs (Decidable (_ ∧ _))

/-- Visible characters without a meaning around or inside strings. -/
def IsPlain (char : Char) : Prop :=
  IsVisible char ∧ char ≠ '"' ∧ char ≠ '\\'

instance (char : Char) : Decidable (IsPlain char) :=
  inferInstanceAs (Decidable (_ ∧ _))

theorem forall_isPlain {chars : List Char} (all : chars.all (IsPlain ·) = true)
    : ∀ char ∈ chars, IsPlain char :=
  fun char listed => of_decide_eq_true (List.all_eq_true.mp all char listed)

theorem isPlain_numberChars : ∀ char ∈ numberChars, IsPlain char :=
  forall_isPlain (by decide)

theorem isPlain_escapeDigits {code : Nat} (control : code < 32)
    : ∀ char ∈ escapeDigits code, IsPlain char := by
  have all : ∀ code < 32, (escapeDigits code).all (IsPlain ·) = true := by decide
  exact forall_isPlain (all code control)

/-- All tokens are made up of plain characters but those in quotes. -/
theorem ofTokens_of_plain {property : List Char → Prop}
    (plain : ∀ {text}, (∀ char ∈ text, IsPlain char) → property text)
    (quoted : ∀ name, property (quoted name))
    (append : ∀ {front back}, property front → property back → property (front ++ back))
    : OfTokens property where
  nothing := plain (List.forall_mem_nil _)
  mark := by
    intro mark listed
    have marks : ∀ mark ∈ ['[', ']', '\x7b', '\x7d', ',', ':'], IsPlain mark :=
      forall_isPlain (by decide)
    exact plain (List.forall_mem_singleton.mpr (marks mark listed))
  word := by
    intro word listed
    have letters : ∀ char ∈ ["null", "true", "false"].flatMap String.toList, IsPlain char :=
      forall_isPlain (by decide)
    exact plain fun char inside => letters char (List.mem_flatMap_of_mem listed inside)
  number := fun token written =>
    plain fun char listed => isPlain_numberChars char (written.mem_numberChars char listed)
  quoted := quoted
  append := append

/-- Inside quotes, plain characters leave nothing outside, by induction on them. -/
theorem outsideStrings_plain {chars : List Char}
    (plain : ∀ char ∈ chars, char ≠ '"' ∧ char ≠ '\\') (rest : List Char)
    : outsideStrings true (chars ++ rest) = outsideStrings true rest := by
  induction chars with
  | nil => rfl
  | cons char chars ih =>
      obtain ⟨⟨unquoted, bare⟩, others⟩ := List.forall_mem_cons.mp plain
      rw [List.cons_append, outsideStrings]
      · exact ih others
      · exact unquoted
      · exact fun _ _ escape _ => bare escape

/-- Inside quotes, what is written of a character leaves nothing outside. -/
theorem outsideStrings_quotedChar (char : Char) (rest : List Char)
    : outsideStrings true (quotedChar char ++ rest) = outsideStrings true rest := by
  unfold quotedChar
  split <;> try rfl
  split
  · rename_i control
    have digits := isPlain_escapeDigits control
    exact outsideStrings_plain (fun char listed => (digits char listed).2) rest
  · rename_i unquoted bare _ _ _ _ _ _
    exact outsideStrings_plain (List.forall_mem_singleton.mpr ⟨unquoted, bare⟩) rest

/-- A text in quotes leaves nothing outside of them. -/
theorem outsideStrings_quoted (name : String) (rest : List Char)
    : outsideStrings false (quoted name ++ rest) = outsideStrings false rest := by
  have inside (chars : List Char)
      : outsideStrings true (chars.flatMap quotedChar ++ '"' :: rest)
        = outsideStrings false rest := by
    induction chars with
    | nil => rfl
    | cons char chars ih =>
        rw [List.flatMap_cons, List.append_assoc, outsideStrings_quotedChar, ih]
  rw [quoted_append]
  exact inside name.toList

/-- In front of a text with only visible characters outside strings, a text is one as well. -/
def VisibleOutside (text : List Char) : Prop :=
  ∀ rest,
    (∀ char ∈ outsideStrings false rest, IsVisible char)
    → ∀ char ∈ outsideStrings false (text ++ rest), IsVisible char

theorem visibleOutside_plain {text : List Char} (plain : ∀ char ∈ text, IsPlain char)
    : VisibleOutside text := by
  intro rest visible
  induction text with
  | nil => exact visible
  | cons char text ih =>
      obtain ⟨⟨first, unquoted, _⟩, others⟩ := List.forall_mem_cons.mp plain
      rw [List.cons_append, outsideStrings]
      · exact List.forall_mem_cons.mpr ⟨first, ih others⟩
      · exact unquoted

theorem visibleOutside_ofTokens : OfTokens VisibleOutside := by
  refine ofTokens_of_plain visibleOutside_plain ?_ ?_
  · intro name rest visible
    rwa [outsideStrings_quoted]
  · intro front back first second rest visible
    rw [List.append_assoc]
    exact first _ (second rest visible)

/-- Control characters are escaped, and what escapes them is visible. -/
theorem quotedChar_printable (char : Char) : ∀ other ∈ quotedChar char, 0x20 ≤ other.toNat := by
  have escaped {letter : Char} (printable : 0x20 ≤ letter.toNat)
      : ∀ other ∈ ['\\', letter], 0x20 ≤ other.toNat := by
    simpa using printable
  unfold quotedChar
  split <;> try exact escaped (by decide)
  split
  · rename_i control
    have digits := isPlain_escapeDigits control
    simpa using fun char listed => Nat.le_of_lt (digits char listed).1.1
  · rename_i printable
    simpa using printable

theorem printable_ofTokens : OfTokens fun text => ∀ char ∈ text, 0x20 ≤ char.toNat := by
  refine ofTokens_of_plain ?_ ?_ ?_
  · exact fun plain char listed => Nat.le_of_lt (plain char listed).1.1
  · intro name
    have inside : ∀ char ∈ name.toList.flatMap quotedChar, 0x20 ≤ char.toNat := by
      intro char listed
      obtain ⟨original, _, written⟩ := List.mem_flatMap.mp listed
      exact quotedChar_printable original char written
    simpa [quoted, or_imp, forall_and] using inside
  · exact fun first second => List.forall_mem_append.mpr ⟨first, second⟩

/-- The fields of what is left of a value are in order as well. -/
theorem Value.ordered_readBack {value : Value} (ordered : value.Ordered)
    : value.readBack.Ordered := by
  have spelled := spells_chars value ordered (Nat.le_refl _) ends_nil
  exact (spellsReadable _ _ _ _ spelled).ordered

/-- Whatever is written is a strict document with the names of every object in strictly increasing
order. All characters outside its strings are visible, so that there is no white space, and no
character anywhere is a control character.
-/
theorem Value.print_strict (value : Value) (ordered : value.Ordered)
    : StrictSpaced value.print.toList value.readBack
      ∧ value.readBack.Ordered
      ∧ (∀ char ∈ outsideStrings false value.print.toList, IsVisible char)
      ∧ (∀ char ∈ value.print.toList, 0x20 ≤ char.toNat) := by
  rw [print, String.toList_ofList]
  refine ⟨.bare (strict_chars value), ordered_readBack ordered, ?_, printable_ofTokens.chars value⟩
  have visible := visibleOutside_ofTokens.chars value []
  rw [List.append_nil] at visible
  exact visible (List.forall_mem_nil _)

/-- An object of a text that needs escapes, a number that is not finite and a negative zero. -/
theorem Value.print_strict_of_object
    : Ordered (.object
        [("\n", .text "\"\\\x01 "), ("inf", infinity), ("zero", .number (.ofMagnitude true 0))])
      ∧ ∀ char ∈ outsideStrings false
          (print (.object
            [("\n", .text "\"\\\x01 "), ("inf", infinity),
              ("zero", .number (.ofMagnitude true 0))])).toList,
          IsVisible char := by
  have ordered : Ordered (.object
      [("\n", .text "\"\\\x01 "), ("inf", infinity), ("zero", .number (.ofMagnitude true 0))]) := by
    refine ⟨?_, trivial, trivial, trivial, trivial⟩
    unfold Keyed.Sorted
    decide
  exact ⟨ordered, (print_strict _ ordered).2.2.1⟩

end LanguageClient.Json
