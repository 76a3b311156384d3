import Mathlib.Data.List.Sort
import LanguageClient.Proofs.Json.Fields
import LanguageClient.Proofs.Json.NumberTokens
import LanguageClient.Proofs.Json.Strings

/-! Documents are read exactly as the grammar derives them. Both directions follow the levels of
nesting, and inside an array or an object its items one after another.
-/

namespace LanguageClient

namespace Keyed

/-- Values with the same lookups in the same order are the same. -/
theorem Sorted.ext {α : Type} {left right : Keyed α} (leftSorted : left.Sorted)
    (rightSorted : right.Sorted) (same : ∀ name, left.get? name = right.get? name)
    : left = right := by
  have irreflexive : Std.Irrefl fun (first second : String × α) => first.1 < second.1 :=
    ⟨fun entry => String.lt_irrefl entry.1⟩
  have antisymmetric : Std.Antisymm fun (first second : String × α) => first.1 < second.1 :=
    ⟨fun first second less greater => absurd (String.lt_trans less greater) (String.lt_irrefl _)⟩
  refine List.Pairwise.eq_of_mem_iff leftSorted rightSorted fun entry => ?_
  constructor
  · intro member
    exact mem_of_get? ((same entry.1).symm.trans (leftSorted.get?_of_mem member))
  · intro member
    exact mem_of_get? ((same entry.1).trans (rightSorted.get?_of_mem member))

/-- Values set one after another are in the order of their names. -/
theorem sorted_ofList {α : Type} (values : List (String × α)) : (ofList values).Sorted := by
  suffices from_sorted
      : ∀ kept : Keyed α,
          kept.Sorted
          → (values.foldl (fun kept named => insert named.1 named.2 kept) kept).Sorted from
    from_sorted [] Sorted.nil
  induction values with
  | nil => exact fun kept sorted => sorted
  | cons first rest ih => exact fun kept sorted => ih _ (sorted.insert first.1 first.2)

/-- A name that stands somewhere has a value, by induction on the values. -/
theorem exists_get?_of_mem {α : Type} {name : String} {value : α} {values : List (String × α)}
    (member : (name, value) ∈ values)
    : ∃ found, get? name values = some found := by
  induction values with
  | nil => cases member
  | cons first rest ih =>
      rw [get?]
      split
      · exact ⟨first.2, rfl⟩
      · rename_i differs
        rcases List.mem_cons.mp member with rfl | later
        · exact absurd rfl differs
        · exact ih later

/-- With increasing names lookup does not depend on the end from which it starts. -/
theorem Sorted.get?_reverse {α : Type} {values : Keyed α} (sorted : values.Sorted)
    (name : String)
    : get? name values.reverse = get? name values := by
  have forward {value : α} (found : get? name values.reverse = some value)
      : get? name values = some value :=
    sorted.get?_of_mem (List.mem_reverse.mp (mem_of_get? found))
  cases found : get? name values.reverse with
  | some value => exact (forward found).symm
  | none =>
      cases other : get? name values with
      | none => rfl
      | some value =>
          obtain ⟨_, there⟩ := exists_get?_of_mem (List.mem_reverse.mpr (mem_of_get? other))
          rw [there] at found
          cases found

end Keyed

namespace Json

/-- The fields that an object keeps are those that are set one after another. -/
theorem keepsLast_iff (written : List (String × Value)) (fields : Fields)
    : KeepsLast written fields ↔ Keyed.ofList written = fields := by
  constructor
  · rintro ⟨sorted, last⟩
    refine (Keyed.sorted_ofList written).ext sorted fun name => ?_
    rw [Keyed.get?_ofList, last]
  · rintro rfl
    exact ⟨Keyed.sorted_ofList written, Keyed.get?_ofList written⟩

-----------------------------------------------------------------------------------------
-- The start and the length of a spelling
-----------------------------------------------------------------------------------------

/-- A value starts with neither white space nor a closing bracket. -/
theorem Spells.head {levels : Nat} {text rest : List Char} {value : Value}
    (spelled : Spells levels text value rest)
    : ∃ first more, text = first :: more ∧ isSpace first = false ∧ first ≠ ']' := by
  cases spelled with
  | number _ written _ _ =>
      obtain ⟨first, more, starts, kind⟩ := written.exists_cons
      refine ⟨first, more ++ rest, by rw [starts]; rfl, ?_⟩
      rcases kind with rfl | digit
      · decide
      · have listed : ∀ char ∈ decimalDigits, isSpace char = false ∧ char ≠ ']' := by
          simp [decimalDigits, isSpace]
        exact listed first ((isDigit_iff first).mp digit)
  | null | truth | falsity | text | emptyArray | array | emptyObject | object =>
      exact ⟨_, _, rfl, by decide⟩

/-- Values of some levels take characters. -/
def TakesChars (levels : Nat) : Prop :=
  ∀ text value rest, Spells levels text value rest → rest.length < text.length

/-- Every item takes a character, by induction on the items. -/
theorem SpellsItems.length_lt {levels : Nat} (inside : TakesChars levels) {items : List Value}
    {text rest : List Char} (spelled : SpellsItems levels text items rest)
    : rest.length < text.length := by
  induction items generalizing text with
  | nil => cases spelled
  | cons item items ih =>
      cases spelled with
      | last before spelled after =>
          have taken := inside _ _ _ spelled
          have := before.length_le
          have := after.length_le
          simp only [List.length_cons] at this
          omega
      | more before spelled after others =>
          have taken := inside _ _ _ spelled
          have := before.length_le
          have := ih others
          have := after.length_le
          simp only [List.length_cons] at this
          omega

theorem SpellsField.length_lt {levels : Nat} (inside : TakesChars levels)
    {field : String × Value} {text rest : List Char}
    (spelled : SpellsField levels text field rest)
    : rest.length < text.length := by
  cases spelled with
  | field beforeName quoted beforeColon before spelled =>
      have taken := inside _ _ _ spelled
      have := before.length_le
      have := quoted.length_lt
      have opened := beforeName.length_le
      have closed := beforeColon.length_le
      simp only [List.length_cons] at opened closed
      omega

/-- Every field takes a character, by induction on the fields. -/
theorem SpellsFields.length_lt {levels : Nat} (inside : TakesChars levels)
    {fields : List (String × Value)} {text rest : List Char}
    (spelled : SpellsFields levels text fields rest)
    : rest.length < text.length := by
  induction fields generalizing text with
  | nil => cases spelled
  | cons field fields ih =>
      cases spelled with
      | last spelled after =>
          have taken := spelled.length_lt inside
          have := after.length_le
          simp only [List.length_cons] at this
          omega
      | more spelled after others =>
          have taken := spelled.length_lt inside
          have := ih others
          have := after.length_le
          simp only [List.length_cons] at this
          omega

/-- A value takes a character, by induction on the levels of nesting. -/
theorem takesChars (levels : Nat) : TakesChars levels := by
  induction levels using Nat.strongRecOn with
  | ind levels ih =>
      intro text value rest spelled
      cases spelled with
      | null | truth | falsity =>
          simp only [List.length_cons]
          omega
      | number _ written _ _ =>
          obtain ⟨first, more, starts, _⟩ := written.exists_cons
          rw [starts, List.length_append, List.length_cons]
          omega
      | text _ quoted => exact Nat.lt_succ_of_lt quoted.length_lt
      | emptyArray _ blanks | emptyObject _ blanks =>
          have taken := blanks.length_le
          rw [List.length_cons] at taken ⊢
          omega
      | @array inner _ _ _ spelled =>
          exact Nat.lt_succ_of_lt (spelled.length_lt (ih inner (Nat.lt_succ_self inner)))
      | @object inner _ _ _ _ spelled _ =>
          exact Nat.lt_succ_of_lt (spelled.length_lt (ih inner (Nat.lt_succ_self inner)))

-----------------------------------------------------------------------------------------
-- Soundness
-----------------------------------------------------------------------------------------

/-- Skipping leaves what white space is in front of. -/
theorem blanks_skipSpaces {input : Input} {char : Char} {rest : List Char}
    (starts : input.skipSpaces.chars = char :: rest)
    : Blanks input.chars (char :: rest) ∧ input.skipSpaces.advance.chars = rest := by
  refine ⟨starts ▸ Blanks.dropWhile input.chars, ?_⟩
  rw [Input.chars_advance, starts]
  rfl

/-- Whatever a reader reads is a value of some levels behind white space. -/
def ReadsOnly (levels : Nat) (readItem : ValueReader) : Prop :=
  ∀ input item last,
    readItem input = .ok (item, last)
    → (∃ start, Blanks input.chars start ∧ Spells levels start item last.chars)
      ∧ last.stop = input.stop

section

variable {levels : Nat} {readItem : ValueReader}

/-- Items that are read are spelled, by induction on the bound of their number. -/
theorem readItems_sound (inside : ReadsOnly levels readItem) {bound : Nat} {input last : Input}
    {items : List Value} (read : readItems readItem bound input = .ok (items, last))
    : SpellsItems levels input.chars items last.chars ∧ last.stop = input.stop := by
  induction bound generalizing input items with
  | zero => cases read
  | succ bound ih =>
      obtain ⟨⟨item, behind⟩, first, read⟩ := exists_of_bind_ok read
      obtain ⟨⟨start, before, spelled⟩, stop⟩ := inside _ _ _ first
      dsimp only at read
      split at read
      · rename_i next comma
        obtain ⟨after, left⟩ := blanks_skipSpaces comma
        obtain ⟨⟨items, end'⟩, others, read⟩ := exists_of_bind_ok read
        obtain ⟨rfl, rfl⟩ := Prod.mk.inj (Except.ok.inj read)
        obtain ⟨spelled', stop'⟩ := ih others
        rw [left] at spelled'
        refine ⟨.more before spelled after spelled', ?_⟩
        rw [stop', Input.stop_advance, Input.stop_skipSpaces, stop]
      · rename_i next bracket
        obtain ⟨after, left⟩ := blanks_skipSpaces bracket
        obtain ⟨rfl, rfl⟩ := Prod.mk.inj (Except.ok.inj read)
        rw [left, Input.stop_advance, Input.stop_skipSpaces, stop]
        exact ⟨.last before spelled after, rfl⟩
      · cases read

theorem readField_sound (inside : ReadsOnly levels readItem) {input last : Input}
    {field : String × Value} (read : readField readItem input = .ok (field, last))
    : SpellsField levels input.chars field last.chars ∧ last.stop = input.stop := by
  unfold readField at read
  dsimp only at read
  split at read
  · rename_i text quote
    obtain ⟨beforeName, _⟩ := blanks_skipSpaces quote
    obtain ⟨⟨name, behind⟩, named, read⟩ := exists_of_bind_ok read
    obtain ⟨quoted, stop⟩ := readString_sound quote named
    dsimp only at read
    split at read
    · rename_i next colon
      obtain ⟨beforeColon, left⟩ := blanks_skipSpaces colon
      obtain ⟨⟨item, end'⟩, value, read⟩ := exists_of_bind_ok read
      obtain ⟨rfl, rfl⟩ := Prod.mk.inj (Except.ok.inj read)
      obtain ⟨⟨start, before, spelled⟩, stop'⟩ := inside _ _ _ value
      rw [left] at before
      have field := SpellsField.field beforeName quoted beforeColon before spelled
      rw [String.ofList_toList] at field
      refine ⟨field, ?_⟩
      rw [stop', Input.stop_advance, Input.stop_skipSpaces, stop, Input.stop_skipSpaces]
    · cases read
  · cases read

/-- Fields that are read are spelled, by induction on the bound of their number. -/
theorem readFields_sound (inside : ReadsOnly levels readItem) {bound : Nat}
    {input last : Input} {fields : List (String × Value)}
    (read : readFields readItem bound input = .ok (fields, last))
    : SpellsFields levels input.chars fields last.chars ∧ last.stop = input.stop := by
  induction bound generalizing input fields with
  | zero => cases read
  | succ bound ih =>
      obtain ⟨⟨field, behind⟩, first, read⟩ := exists_of_bind_ok read
      obtain ⟨spelled, stop⟩ := readField_sound inside first
      dsimp only at read
      split at read
      · rename_i next comma
        obtain ⟨after, left⟩ := blanks_skipSpaces comma
        obtain ⟨⟨fields, end'⟩, others, read⟩ := exists_of_bind_ok read
        obtain ⟨rfl, rfl⟩ := Prod.mk.inj (Except.ok.inj read)
        obtain ⟨spelled', stop'⟩ := ih others
        rw [left] at spelled'
        refine ⟨.more spelled after spelled', ?_⟩
        rw [stop', Input.stop_advance, Input.stop_skipSpaces, stop]
      · rename_i next brace
        obtain ⟨after, left⟩ := blanks_skipSpaces brace
        obtain ⟨rfl, rfl⟩ := Prod.mk.inj (Except.ok.inj read)
        rw [left, Input.stop_advance, Input.stop_skipSpaces, stop]
        exact ⟨.last spelled after, rfl⟩
      · cases read

/-- White space in front of the first item belongs to it. -/
theorem SpellsItems.after_blanks {text start rest : List Char} {items : List Value}
    (blanks : Blanks text start) (spelled : SpellsItems levels start items rest)
    : SpellsItems levels text items rest := by
  cases spelled with
  | last before spelled after => exact .last (blanks.trans before) spelled after
  | more before spelled after others => exact .more (blanks.trans before) spelled after others

theorem SpellsFields.after_blanks {text start rest : List Char}
    {fields : List (String × Value)} (blanks : Blanks text start)
    (spelled : SpellsFields levels start fields rest)
    : SpellsFields levels text fields rest := by
  have moved {field : String × Value} {behind : List Char}
      (spelled : SpellsField levels start field behind) : SpellsField levels text field behind := by
    cases spelled with
    | field beforeName quoted beforeColon before spelled =>
        exact .field (blanks.trans beforeName) quoted beforeColon before spelled
  cases spelled with
  | last spelled after => exact .last (moved spelled) after
  | more spelled after others => exact .more (moved spelled) after others

theorem readArray_sound (inside : ReadsOnly levels readItem) {input last : Input}
    {value : Value} (read : readArray readItem input = .ok (value, last))
    : Spells (levels + 1) ('[' :: input.chars) value last.chars ∧ last.stop = input.stop := by
  unfold readArray at read
  dsimp only at read
  split at read
  · rename_i rest bracket
    obtain ⟨blanks, left⟩ := blanks_skipSpaces bracket
    obtain ⟨rfl, rfl⟩ := Prod.mk.inj (Except.ok.inj read)
    rw [left, Input.stop_advance, Input.stop_skipSpaces]
    exact ⟨.emptyArray levels blanks, rfl⟩
  · obtain ⟨⟨items, end'⟩, inner, read⟩ := exists_of_bind_ok read
    obtain ⟨rfl, rfl⟩ := Prod.mk.inj (Except.ok.inj read)
    obtain ⟨spelled, stop⟩ := readItems_sound inside inner
    rw [stop, Input.stop_skipSpaces]
    exact ⟨.array (spelled.after_blanks (Blanks.dropWhile input.chars)), rfl⟩

theorem readObject_sound (inside : ReadsOnly levels readItem) {input last : Input}
    {value : Value} (read : readObject readItem input = .ok (value, last))
    : Spells (levels + 1) ('\x7b' :: input.chars) value last.chars ∧ last.stop = input.stop := by
  unfold readObject at read
  dsimp only at read
  split at read
  · rename_i rest brace
    obtain ⟨blanks, left⟩ := blanks_skipSpaces brace
    obtain ⟨rfl, rfl⟩ := Prod.mk.inj (Except.ok.inj read)
    rw [left, Input.stop_advance, Input.stop_skipSpaces]
    exact ⟨.emptyObject levels blanks, rfl⟩
  · obtain ⟨⟨fields, end'⟩, inner, read⟩ := exists_of_bind_ok read
    obtain ⟨rfl, rfl⟩ := Prod.mk.inj (Except.ok.inj read)
    obtain ⟨spelled, stop⟩ := readFields_sound inside inner
    rw [stop, Input.stop_skipSpaces]
    refine ⟨.object (spelled.after_blanks (Blanks.dropWhile input.chars)) ?_, rfl⟩
    exact (keepsLast_iff _ _).mpr rfl

end

/-- A literal that is read is one of the three words. -/
theorem readLiteral_sound {levels : Nat} {input last : Input} {value : Value}
    (read : readLiteral input = .ok (value, last))
    : Spells levels input.chars value last.chars ∧ last.stop = input.stop := by
  unfold readLiteral at read
  split at read
  · rename_i rest word
    obtain ⟨rfl, rfl⟩ := Prod.mk.inj (Except.ok.inj read)
    exact ⟨word ▸ .truth levels rest, Input.stop_after word⟩
  · rename_i rest word
    obtain ⟨rfl, rfl⟩ := Prod.mk.inj (Except.ok.inj read)
    exact ⟨word ▸ .falsity levels rest, Input.stop_after word⟩
  · rename_i rest word
    obtain ⟨rfl, rfl⟩ := Prod.mk.inj (Except.ok.inj read)
    exact ⟨word ▸ .null levels rest, Input.stop_after word⟩
  · cases read

/-- A value that is read is spelled behind white space, given that for the values inside it. -/
theorem readValueWith_sound {levels : Nat} {readItem : Option ValueReader}
    (inside
      : ∀ reader, readItem = some reader → ∃ inner, levels = inner + 1 ∧ ReadsOnly inner reader)
    : ReadsOnly levels (readValueWith readItem) := by
  intro input value last read
  unfold readValueWith at read
  dsimp only at read
  split at read
  · cases read
  · rename_i first rest starts
    obtain ⟨blanks, left⟩ := blanks_skipSpaces starts
    have behind : input.skipSpaces.advance.stop = input.stop := by
      rw [Input.stop_advance, Input.stop_skipSpaces]
    suffices spelled
        : Spells levels (first :: rest) value last.chars ∧ last.stop = input.stop from
      ⟨⟨_, blanks, spelled.1⟩, spelled.2⟩
    split at read
    · rename_i container
      split at read
      · cases read
      · rename_i reader
        obtain ⟨inner, rfl, reads⟩ := inside reader rfl
        split at read
        · rename_i bracket
          obtain rfl : first = '[' := by simpa using bracket
          rw [← left, ← behind]
          exact readArray_sound reads read
        · rename_i bracket
          obtain rfl : first = '\x7b' := by simpa [bracket] using container
          rw [← left, ← behind]
          exact readObject_sound reads read
    · split at read
      · rename_i quote
        obtain rfl : first = '"' := by simpa using quote
        obtain ⟨⟨string, end'⟩, found, same⟩ := exists_of_map_ok read
        obtain ⟨rfl, rfl⟩ := Prod.mk.inj same
        obtain ⟨quoted, stop⟩ := readString_sound starts found
        have spelled := Spells.text levels quoted
        rw [String.ofList_toList] at spelled
        exact ⟨spelled, by rw [stop, Input.stop_skipSpaces]⟩
      · split at read
        · obtain ⟨token, split, written, longest, finite, rfl, stop⟩ := readNumber_sound read
          rw [← starts, stop, Input.stop_skipSpaces]
          rw [split] at longest ⊢
          exact ⟨.number levels written longest finite, rfl⟩
        · rw [← starts, ← Input.stop_skipSpaces input]
          exact readLiteral_sound read

/-- A value that is read is spelled behind white space, by induction on the levels of
nesting.
-/
theorem readNested_sound (levels : Nat) : ReadsOnly levels (readNested levels) := by
  induction levels with
  | zero => exact readValueWith_sound fun reader none => nomatch none
  | succ levels ih =>
      refine readValueWith_sound fun reader same => ⟨levels, rfl, ?_⟩
      rw [← Option.some.inj same]
      exact ih

-----------------------------------------------------------------------------------------
-- Completeness
-----------------------------------------------------------------------------------------

/-- Every value of some levels is read behind white space. -/
def ReadsAll (levels : Nat) (readItem : ValueReader) : Prop :=
  ∀ input start item rest,
    Blanks input.chars start
    → Spells levels start item rest
    → ∃ last, readItem input = .ok (item, last) ∧ last.chars = rest

section

variable {levels : Nat} {readItem : ValueReader}

/-- Items that are spelled are read, by induction on them. -/
theorem readItems_complete (inside : ReadsAll levels readItem) {bound : Nat} {input : Input}
    {items : List Value} {rest : List Char}
    (spelled : SpellsItems levels input.chars items rest) (covered : input.chars.length ≤ bound)
    : ∃ last, readItems readItem bound input = .ok (items, last) ∧ last.chars = rest := by
  induction items generalizing bound input with
  | nil => cases spelled
  | cons item items ih =>
      have taken := spelled.length_lt (takesChars levels)
      obtain ⟨bound, rfl⟩ : ∃ smaller, bound = smaller + 1 := ⟨bound - 1, by omega⟩
      unfold readItems
      cases spelled with
      | last before spelled after =>
          obtain ⟨behind, first, rfl⟩ := inside _ _ _ _ before spelled
          obtain ⟨bracket, left⟩ := after.skipSpaces_eq (by decide)
          rw [first]
          dsimp only [Bind.bind, Except.bind]
          rw [bracket]
          exact ⟨_, rfl, left⟩
      | more before spelled after others =>
          obtain ⟨behind, first, rfl⟩ := inside _ _ _ _ before spelled
          obtain ⟨comma, left⟩ := after.skipSpaces_eq (by decide)
          have shorter := takesChars _ _ _ _ spelled
          have front := before.length_le
          have back := after.length_le
          rw [List.length_cons, ← left] at back
          rw [← left] at others
          obtain ⟨last, later, same⟩ := @ih bound _ others (by omega)
          rw [first]
          dsimp only [Bind.bind, Except.bind]
          rw [comma]
          rw [later]
          exact ⟨last, rfl, same⟩

theorem readField_complete (inside : ReadsAll levels readItem) {input : Input}
    {field : String × Value} {rest : List Char}
    (spelled : SpellsField levels input.chars field rest)
    : ∃ last, readField readItem input = .ok (field, last) ∧ last.chars = rest := by
  cases spelled with
  | field beforeName quoted beforeColon before spelled =>
      obtain ⟨quote, _⟩ := beforeName.skipSpaces_eq (by decide)
      obtain ⟨behind, named, rfl⟩ := readString_complete quote quoted
      obtain ⟨colon, left⟩ := beforeColon.skipSpaces_eq (by decide)
      rw [← left] at before
      obtain ⟨last, value, same⟩ := inside _ _ _ _ before spelled
      unfold readField
      dsimp only [Bind.bind, Except.bind]
      rw [quote]
      rw [named]
      dsimp only
      rw [colon]
      rw [value]
      exact ⟨last, rfl, same⟩

/-- Fields that are spelled are read, by induction on them. -/
theorem readFields_complete (inside : ReadsAll levels readItem) {bound : Nat} {input : Input}
    {fields : List (String × Value)} {rest : List Char}
    (spelled : SpellsFields levels input.chars fields rest)
    (covered : input.chars.length ≤ bound)
    : ∃ last, readFields readItem bound input = .ok (fields, last) ∧ last.chars = rest := by
  induction fields generalizing bound input with
  | nil => cases spelled
  | cons field fields ih =>
      have taken := spelled.length_lt (takesChars levels)
      obtain ⟨bound, rfl⟩ : ∃ smaller, bound = smaller + 1 := ⟨bound - 1, by omega⟩
      unfold readFields
      cases spelled with
      | last spelled after =>
          obtain ⟨behind, first, rfl⟩ := readField_complete inside spelled
          obtain ⟨brace, left⟩ := after.skipSpaces_eq (by decide)
          rw [first]
          dsimp only [Bind.bind, Except.bind]
          rw [brace]
          exact ⟨_, rfl, left⟩
      | more spelled after others =>
          have shorter := spelled.length_lt (takesChars levels)
          obtain ⟨behind, first, rfl⟩ := readField_complete inside spelled
          obtain ⟨comma, left⟩ := after.skipSpaces_eq (by decide)
          have back := after.length_le
          rw [List.length_cons, ← left] at back
          rw [← left] at others
          obtain ⟨last, later, same⟩ := @ih bound _ others (by omega)
          rw [first]
          dsimp only [Bind.bind, Except.bind]
          rw [comma]
          rw [later]
          exact ⟨last, rfl, same⟩

/-- Items start, behind white space, with something that closes no array. -/
theorem SpellsItems.skipSpaces {input : Input} {items : List Value} {rest : List Char}
    (spelled : SpellsItems levels input.chars items rest)
    : SpellsItems levels input.skipSpaces.chars items rest
      ∧ ∀ more, input.skipSpaces.chars ≠ ']' :: more := by
  have skip {start behind : List Char} {item : Value} (before : Blanks input.chars start)
      (spelled : Spells levels start item behind)
      : input.skipSpaces.chars = start ∧ ∀ more, start ≠ ']' :: more := by
    obtain ⟨first, more, rfl, token, opens⟩ := spelled.head
    refine ⟨(before.skipSpaces_eq token).1, fun more same => ?_⟩
    exact opens (List.cons.inj same).1
  cases spelled with
  | last before spelled after =>
      obtain ⟨same, opens⟩ := skip before spelled
      rw [same]
      exact ⟨.last (.none _) spelled after, opens⟩
  | more before spelled after others =>
      obtain ⟨same, opens⟩ := skip before spelled
      rw [same]
      exact ⟨.more (.none _) spelled after others, opens⟩

/-- Fields start, behind white space, with a quote. -/
theorem SpellsFields.skipSpaces {input : Input} {fields : List (String × Value)}
    {rest : List Char} (spelled : SpellsFields levels input.chars fields rest)
    : SpellsFields levels input.skipSpaces.chars fields rest
      ∧ ∀ more, input.skipSpaces.chars ≠ '\x7d' :: more := by
  have skip {field : String × Value} {behind : List Char}
      (spelled : SpellsField levels input.chars field behind)
      : SpellsField levels input.skipSpaces.chars field behind
        ∧ ∀ more, input.skipSpaces.chars ≠ '\x7d' :: more := by
    cases spelled with
    | field beforeName quoted beforeColon before spelled =>
        rw [(beforeName.skipSpaces_eq (by decide)).1]
        refine ⟨.field (.none _) quoted beforeColon before spelled, fun more same => ?_⟩
        exact absurd (List.cons.inj same).1 (by decide)
  cases spelled with
  | last spelled after => exact (skip spelled).imp_left fun moved => .last moved after
  | more spelled after others =>
      exact (skip spelled).imp_left fun moved => .more moved after others

theorem readArray_empty {input : Input} {rest : List Char}
    (blanks : Blanks input.chars (']' :: rest))
    : ∃ last, readArray readItem input = .ok (.array [], last) ∧ last.chars = rest := by
  obtain ⟨bracket, left⟩ := blanks.skipSpaces_eq (by decide)
  unfold readArray
  dsimp only
  rw [bracket]
  exact ⟨_, rfl, left⟩

theorem readArray_items (inside : ReadsAll levels readItem) {input : Input}
    {items : List Value} {rest : List Char}
    (spelled : SpellsItems levels input.chars items rest)
    : ∃ last, readArray readItem input = .ok (.array items, last) ∧ last.chars = rest := by
  obtain ⟨trimmed, opens⟩ := spelled.skipSpaces
  obtain ⟨last, read, same⟩ := readItems_complete inside trimmed (Nat.le_refl _)
  unfold readArray
  dsimp only
  split
  · rename_i more bracket
    exact absurd bracket (opens more)
  · rw [read]
    exact ⟨last, rfl, same⟩

theorem readObject_empty {input : Input} {rest : List Char}
    (blanks : Blanks input.chars ('\x7d' :: rest))
    : ∃ last, readObject readItem input = .ok (.object [], last) ∧ last.chars = rest := by
  obtain ⟨brace, left⟩ := blanks.skipSpaces_eq (by decide)
  unfold readObject
  dsimp only
  rw [brace]
  exact ⟨_, rfl, left⟩

theorem readObject_fields (inside : ReadsAll levels readItem) {input : Input}
    {fields : List (String × Value)} {rest : List Char}
    (spelled : SpellsFields levels input.chars fields rest)
    : ∃ last, readObject readItem input = .ok (.ofFields fields, last) ∧ last.chars = rest := by
  obtain ⟨trimmed, opens⟩ := spelled.skipSpaces
  obtain ⟨last, read, same⟩ := readFields_complete inside trimmed (Nat.le_refl _)
  unfold readObject
  dsimp only
  split
  · rename_i more brace
    exact absurd brace (opens more)
  · rw [read]
    exact ⟨last, rfl, same⟩

end

/-- What a number starts with is no white space and starts no other value. -/
theorem numberStart {first : Char} (kind : first = '-' ∨ Decimal.isDigit first = true)
    : isSpace first = false
      ∧ (first == '\x7b' || first == '[') = false
      ∧ (first == '"') = false
      ∧ (first == '-' || Decimal.isDigit first) = true := by
  rcases kind with rfl | digit
  · decide
  · have listed
        : ∀ char ∈ decimalDigits,
            isSpace char = false
            ∧ (char == '\x7b' || char == '[') = false
            ∧ (char == '"') = false
            ∧ (char == '-' || Decimal.isDigit char) = true := by
      simp [decimalDigits, isSpace, Decimal.isDigit]
    exact listed first ((isDigit_iff first).mp digit)

/-- A value that is spelled behind white space is read, given that for the values inside it. -/
theorem readValueWith_complete {levels : Nat} {readItem : Option ValueReader}
    (inside
      : ∀ inner, levels = inner + 1 → ∃ reader, readItem = some reader ∧ ReadsAll inner reader)
    : ReadsAll levels (readValueWith readItem) := by
  intro input start value rest before spelled
  have skip {first : Char} {more : List Char} (starts : start = first :: more)
      (token : isSpace first = false)
      : input.skipSpaces.chars = first :: more ∧ input.skipSpaces.advance.chars = more :=
    (starts ▸ before).skipSpaces_eq token
  unfold readValueWith
  dsimp only
  cases spelled with
  | null | truth | falsity =>
      obtain ⟨word, _⟩ := skip rfl (by decide)
      have read := congrArg (fun chars => readLiteral ⟨chars, input.skipSpaces.position⟩) word
      rw [word]
      exact ⟨_, read, rfl⟩
  | @number _ token _ written longest finite =>
      obtain ⟨first, more, starts, kind⟩ := written.exists_cons
      obtain ⟨blank, noContainer, noQuote, starting⟩ := numberStart kind
      obtain ⟨number, _⟩ := skip (by rw [starts]; rfl) blank
      have spelled : input.skipSpaces.chars = token.chars ++ rest := by
        rw [number, starts]
        rfl
      obtain ⟨last, read, same⟩ := readNumber_complete spelled written longest finite
      rw [number]
      dsimp only
      rw [noContainer, noQuote, starting]
      exact ⟨last, read, same⟩
  | text _ quoted =>
      obtain ⟨quote, _⟩ := skip rfl (by decide)
      obtain ⟨last, read, same⟩ := readString_complete quote quoted
      rw [quote]
      exact ⟨last, congrArg (Except.map _) read, same⟩
  | emptyArray _ blanks =>
      obtain ⟨bracket, left⟩ := skip rfl (by decide)
      obtain ⟨reader, rfl, reads⟩ := inside _ rfl
      rw [bracket]
      rw [← left] at blanks
      exact readArray_empty blanks
  | array spelled =>
      obtain ⟨bracket, left⟩ := skip rfl (by decide)
      obtain ⟨reader, rfl, reads⟩ := inside _ rfl
      rw [bracket]
      rw [← left] at spelled
      exact readArray_items reads spelled
  | emptyObject _ blanks =>
      obtain ⟨brace, left⟩ := skip rfl (by decide)
      obtain ⟨reader, rfl, reads⟩ := inside _ rfl
      rw [brace]
      rw [← left] at blanks
      exact readObject_empty blanks
  | object spelled kept =>
      obtain ⟨brace, left⟩ := skip rfl (by decide)
      obtain ⟨reader, rfl, reads⟩ := inside _ rfl
      rw [brace]
      rw [← left] at spelled
      rw [← (keepsLast_iff _ _).mp kept]
      exact readObject_fields reads spelled

/-- A value that is spelled behind white space is read, by induction on the levels of
nesting.
-/
theorem readNested_complete (levels : Nat) : ReadsAll levels (readNested levels) := by
  induction levels with
  | zero => exact readValueWith_complete fun inner same => nomatch same
  | succ levels ih =>
      refine readValueWith_complete fun inner same => ⟨_, rfl, ?_⟩
      obtain rfl := Nat.succ.inj same
      exact ih

-----------------------------------------------------------------------------------------
-- Documents
-----------------------------------------------------------------------------------------

/-- Reading a value takes what the grammar derives at the start of the input, and moves on by
the bytes of it.
-/
theorem readValue_ok_iff (input last : Input) (value : Value)
    : readValue input = .ok (value, last)
      ↔ (∃ start, Blanks input.chars start ∧ Spells nestingLimit start value last.chars)
        ∧ last.stop = input.stop := by
  constructor
  · exact fun read => readNested_sound nestingLimit input value last read
  · rintro ⟨⟨start, before, spelled⟩, stop⟩
    obtain ⟨other, read, same⟩ :=
      readNested_complete nestingLimit input start value _ before spelled
    have stop' := (readNested_sound nestingLimit input value other read).2
    rw [← Input.eq_of_stop same (stop'.trans stop.symm)]
    exact read

/-- A value is read from what is written of it between white space. -/
theorem Value.read_of_spells {text : String} {value : Value} {start rest : List Char}
    (before : Blanks text.toList start) (spelled : Spells 512 start value rest)
    (after : Blanks rest [])
    : Value.read text = .ok value := by
  obtain ⟨behind, read, rfl⟩ :=
    readNested_complete 512 ⟨text.toList, 0⟩ start value rest before spelled
  have nothing : behind.skipSpaces.chars = [] := by
    rw [Input.chars_skipSpaces, after.dropWhile_eq]
    rfl
  have read' : readValue ⟨text.toList, 0⟩ = .ok (value, behind) := read
  unfold Value.read
  rw [read']
  dsimp only [Bind.bind, Except.bind]
  rw [nothing]
  rfl

/-- A text is read as a value exactly if the grammar derives it as that value, between white
space and with at most 512 arrays and objects inside one another.
-/
theorem Value.read_ok_iff (text : String) (value : Value)
    : Value.read text = .ok value
      ↔ ∃ start rest,
          Blanks text.toList start ∧ Spells 512 start value rest ∧ Blanks rest [] := by
  constructor
  · intro read
    obtain ⟨⟨found, behind⟩, value', read⟩ := exists_of_bind_ok read
    obtain ⟨⟨start, before, spelled⟩, _⟩ := (readValue_ok_iff _ _ _).mp value'
    dsimp only at read
    split at read
    · rename_i nothing
      obtain rfl := Except.ok.inj read
      have after := Blanks.dropWhile behind.chars
      rw [← Input.chars_skipSpaces, List.isEmpty_iff.mp nothing] at after
      exact ⟨start, behind.chars, before, spelled, after⟩
    · cases read
  · rintro ⟨start, rest, before, spelled, after⟩
    exact Value.read_of_spells before spelled after

end Json

end LanguageClient
