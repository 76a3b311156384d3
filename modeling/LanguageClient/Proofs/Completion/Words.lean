import Mathlib.Data.List.DropRight
import LanguageClient.Completion.Word
import LanguageClient.Proofs.Text.LineBytes

/-! The word before a column. It is the longest one that ends there, the bytes that cut it out of
its line are between characters, and it starts where it did as long as nothing but word characters
is added to it.
-/

namespace LanguageClient.Word

open Text (isWordChar Utf8.size)

-----------------------------------------------------------------------------------------
-- Bytes of a line
-----------------------------------------------------------------------------------------

/-- The bytes of two columns cut out what is between the columns. -/
theorem slice?_take {line : List Char} {first last : Nat} (ordered : first ≤ last)
    (within : last ≤ line.length)
    : slice? line (Utf8.size (line.take first)) (Utf8.size (line.take last))
      = some ((line.take last).drop first) := by
  have inside : first ≤ line.length := Nat.le_trans ordered within
  have bytes := (Text.size_take_le_iff inside within).mpr ordered
  have starts := Text.isBoundary_iff.mpr ⟨first, inside, rfl⟩
  have stops := Text.isBoundary_iff.mpr ⟨last, within, rfl⟩
  have front : line.take first = (line.take last).take first := by
    rw [List.take_take, Nat.min_eq_left ordered]
  rw [slice?, if_pos (by simp [bytes, starts, stops]), Text.splitAtByte_size, front,
    Text.splitAtByte_size]

/-- Nothing is cut out by bytes that are out of order or within characters. -/
theorem bounds_of_slice? {line part : List Char} {start stop : Nat}
    (cut : slice? line start stop = some part)
    : start ≤ stop
      ∧ TextEdit.isBoundary line start = true
      ∧ TextEdit.isBoundary line stop = true := by
  unfold slice? at cut
  split at cut
  · rename_i bounds
    simpa [and_assoc] using bounds
  · cases cut

theorem take_indexed (byte : Nat) (line : List Char) (count : Nat)
    : (indexed byte line).take count = indexed byte (line.take count) := by
  induction line generalizing byte count with
  | nil => simp [indexed]
  | cons char rest ih =>
      cases count with
      | zero => rfl
      | succ count => rw [indexed, List.take_succ_cons, ih, List.take_succ_cons, indexed]

theorem map_indexed (byte : Nat) (line : List Char)
    : (indexed byte line).map Prod.snd = line := by
  induction line generalizing byte with
  | nil => rfl
  | cons char rest ih => rw [indexed, List.map_cons, ih]

/-- The byte behind the last character is behind all of them, by induction on the line. -/
theorem stop_indexed (byte : Nat) (line : List Char)
    : (indexed byte line).getLast?.elim byte (fun last => last.1 + last.2.utf8Size)
      = byte + Utf8.size line := by
  induction line generalizing byte with
  | nil => rfl
  | cons char rest ih =>
      have later := ih (byte + char.utf8Size)
      rw [indexed, List.getLast?_cons, Option.elim_some, Utf8.size, ← Nat.add_assoc, ← later]
      -- Without characters behind this one, the byte behind it is the last one.
      cases (indexed (byte + char.utf8Size) rest).getLast? <;> rfl

/-- The byte where a character starts is behind those before it. A column past the last one is at
the end of the line.
-/
theorem start_indexed (byte : Nat) (line : List Char) (column : Nat)
    : (indexed byte line)[column]?.elim (byte + Utf8.size line) (·.1)
      = byte + Utf8.size (line.take column) := by
  induction line generalizing byte column with
  | nil => simp [indexed]
  | cons char rest ih =>
      cases column with
      | zero => rfl
      | succ column =>
          have later := ih (byte + char.utf8Size) column
          rw [indexed, List.getElem?_cons_succ, List.take_succ_cons, Utf8.size, Utf8.size,
            ← Nat.add_assoc, ← Nat.add_assoc, later]

/-- Characters are told apart in the same way with their bytes and without them. -/
theorem length_takeWhile_indexed (byte : Nat) (line : List Char)
    : ((indexed byte line).reverse.takeWhile fun item => isWordChar item.2).length
      = (line.reverse.takeWhile isWordChar).length := by
  have chars : line.reverse = (indexed byte line).reverse.map Prod.snd := by
    rw [List.map_reverse, map_indexed]
  rw [chars, List.takeWhile_map, List.length_map]
  rfl

/-- The span of a word is where its columns are in the bytes of the line. -/
theorem span_eq (line : List Char) (column : Nat)
    : span line column
      = {
          column := start line column
          start := Utf8.size (line.take (start line column))
          stop := Utf8.size (line.take column)
        } := by
  have stop := stop_indexed 0 (line.take column)
  have first := start_indexed 0 (line.take column) (start line column)
  have length : (indexed 0 (line.take column)).length = (line.take column).length := by
    rw [← List.length_map Prod.snd, map_indexed]
  have column' : (line.take column).length
        - (((indexed 0 (line.take column)).reverse.takeWhile
            fun item => isWordChar item.2)).length
      = start line column := by
    rw [length_takeWhile_indexed, start, before, List.length_reverse]
  rw [Nat.zero_add] at stop first
  rw [List.take_take, Nat.min_eq_left (start_le line column), Nat.zero_add] at first
  rw [span, take_indexed, length, column', stop, first]

-----------------------------------------------------------------------------------------
-- The longest word
-----------------------------------------------------------------------------------------

/-- What is in front of a word does not end with a word character. -/
theorem append_before (line : List Char) (column : Nat)
    : (line.take column).rdropWhile isWordChar ++ before line column = line.take column :=
  List.rdropWhile_append_rtakeWhile

theorem start_eq (line : List Char) (column : Nat)
    : start line column = ((line.take column).rdropWhile isWordChar).length := by
  have whole := congrArg List.length (append_before line column)
  rw [List.length_append] at whole
  rw [start]
  omega

/-- The characters from its start up to the column. -/
theorem before_eq (line : List Char) (column : Nat)
    : before line column = (line.take column).drop (start line column) := by
  have behind
      : ((line.take column).rdropWhile isWordChar ++ before line column).drop
          (start line column)
        = before line column :=
    List.drop_left' (start_eq line column).symm
  rw [append_before] at behind
  exact behind.symm

theorem isWordChar_of_mem_before {line : List Char} {column : Nat} {char : Char}
    (listed : char ∈ before line column)
    : isWordChar char = true :=
  List.mem_rtakeWhile_imp listed

/-- Word characters behind a text do not change what is in front of its last word. -/
theorem rdropWhile_append (front : List Char) {added : List Char}
    (isWord : ∀ char ∈ added, isWordChar char = true)
    : (front ++ added).rdropWhile isWordChar = front.rdropWhile isWordChar := by
  have reversed : ∀ char ∈ added.reverse, isWordChar char = true :=
    fun char listed => isWord char (List.mem_reverse.mp listed)
  rw [List.rdropWhile, List.reverse_append, List.dropWhile_append_of_pos reversed,
    List.rdropWhile]

/-- What a word before a column must be: the characters from its start up to the column or to the
end of the line, word characters all of them, and no more of these in front of them.
-/
structure Longest (text : List Char) (column start : Nat) (word : List Char) : Prop where
  within : start ≤ min column text.length
  chars : word = (text.take (min column text.length)).drop start
  isWord : ∀ char ∈ word, isWordChar char = true
  whole : start = 0 ∨ ∃ char, text[start - 1]? = some char ∧ isWordChar char = false

/-- A start is not behind a word character exactly if none is dropped from the end in front of it.
-/
theorem rdropWhile_take_iff {text : List Char} {start : Nat} (within : start ≤ text.length)
    : (text.take start).rdropWhile isWordChar = text.take start
      ↔ start = 0 ∨ ∃ char, text[start - 1]? = some char ∧ isWordChar char = false := by
  rw [List.rdropWhile_eq_self_iff]
  cases start with
  | zero => simp
  | succ last =>
      have found : text[last]? = some text[last] := List.getElem?_eq_getElem within
      rw [List.take_succ_eq_append_getElem within]
      simp [found, -List.take_append_getElem]

theorem take_start (line : List Char) (column : Nat)
    : line.take (start line column) = (line.take column).rdropWhile isWordChar := by
  have front : (line.take column).take (start line column)
      = (line.take column).rdropWhile isWordChar := by
    rw [start_eq]
    exact (List.prefix_iff_eq_take.mp (List.rdropWhile_prefix _ _)).symm
  rw [← front, List.take_take, Nat.min_eq_left (start_le line column)]

theorem longest_before (line : List Char) (column : Nat)
    : Longest line column (start line column) (before line column) where
  within := by
    rw [← List.length_take]
    exact start_le_length line column
  chars := by
    rw [← List.take_eq_take_min]
    exact before_eq line column
  isWord _ := isWordChar_of_mem_before
  whole := by
    have within := Nat.le_trans (start_le_length line column) (List.length_take_le' _ _)
    rw [← rdropWhile_take_iff within, take_start, List.rdropWhile_idempotent]

/-- What is before a column, cut at an earlier one. -/
theorem take_append_between (line : List Char) {first last : Nat} (ordered : first ≤ last)
    : line.take first ++ (line.take last).drop first = line.take last := by
  have parts := List.take_append_drop first (line.take last)
  rwa [List.take_take, Nat.min_eq_left ordered] at parts

/-- There is no other word that is the longest one. -/
theorem Longest.unique {line : List Char} {column first : Nat} {word : List Char}
    (longest : Longest line column first word)
    : first = start line column ∧ word = before line column := by
  obtain ⟨within, chars, isWord, whole⟩ := longest
  obtain ⟨ahead, inside⟩ := Nat.le_min.mp within
  rw [← List.take_eq_take_min] at chars
  have split : line.take column = line.take first ++ word := by
    rw [chars, take_append_between line ahead]
  have same : first = start line column := by
    rw [start_eq, split, rdropWhile_append _ isWord, (rdropWhile_take_iff inside).mpr whole,
      List.length_take_of_le inside]
  refine ⟨same, ?_⟩
  rw [chars, before_eq, same]

/-- The word is cut out of the line, so both of its bytes are between characters. -/
theorem cut?_eq (line : List Char) (column : Nat)
    : cut? line column = some (start line column, before line column) := by
  have longest := longest_before line column
  have cut := slice?_take longest.within (Nat.min_le_right column line.length)
  rw [← List.take_eq_take_min, ← before_eq] at cut
  rw [cut?, span_eq, cut]
  rfl

/-- The bytes that a word is cut out by are in order, within its line and between characters. -/
theorem span_between (line : String) (column : Nat)
    : let span := span line.toList column
      span.start ≤ span.stop
      ∧ span.stop ≤ line.utf8ByteSize
      ∧ String.Pos.Raw.IsValid line ⟨span.start⟩
      ∧ String.Pos.Raw.IsValid line ⟨span.stop⟩ := by
  intro span
  obtain ⟨part, cut, -⟩ := Option.map_eq_some_iff.mp (cut?_eq line.toList column)
  obtain ⟨ordered, starts, stops⟩ := bounds_of_slice? cut
  obtain ⟨count, -, size⟩ := Text.isBoundary_iff.mp stops
  refine ⟨ordered, ?_, Text.isValid_of_isBoundary starts, Text.isValid_of_isBoundary stops⟩
  rw [Text.utf8ByteSize_eq, ← size]
  exact Text.size_take_le line.toList count

-----------------------------------------------------------------------------------------
-- Growing words
-----------------------------------------------------------------------------------------

section Growing

variable {line grown : List Char} {column behind : Nat} {added : List Char}

/-- With text added behind it, a word starts where it did exactly if word characters are added. -/
theorem start_append_iff (front : grown.take behind = line.take column ++ added)
    : start grown behind = start line column ↔ ∀ char ∈ added, isWordChar char = true := by
  constructor
  · intro same char listed
    -- The word starts within what has been there, so all that is added belongs to it.
    have word := before_eq grown behind
    rw [same, front, List.drop_append_of_le_length (start_le_length line column)] at word
    have inside : char ∈ before grown behind := by
      rw [word]
      exact List.mem_append_right _ listed
    exact isWordChar_of_mem_before inside
  · intro isWord
    rw [start_eq, front, rdropWhile_append _ isWord, ← start_eq]

/-- What is added to a word is at its end. -/
theorem before_append (front : grown.take behind = line.take column ++ added)
    (isWord : ∀ char ∈ added, isWordChar char = true)
    : before grown behind = before line column ++ added := by
  rw [before_eq, (start_append_iff front).mpr isWord, front,
    List.drop_append_of_le_length (start_le_length line column), ← before_eq]

end Growing

/-- Columns are behind the start of one word exactly if word characters alone are between them. -/
theorem start_eq_iff {line : List Char} {column behind : Nat} (ordered : column ≤ behind)
    : start line behind = start line column
      ↔ ∀ char ∈ (line.take behind).drop column, isWordChar char = true :=
  start_append_iff (take_append_between line ordered).symm

end LanguageClient.Word
