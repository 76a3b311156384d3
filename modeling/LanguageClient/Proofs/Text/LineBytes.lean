import Mathlib.Algebra.Group.Nat.Defs
import LanguageClient.Proofs.Text.Columns
import LanguageClient.Proofs.Text.Utf8

/-! Where the columns of a line are among the bytes of a text. The lines of a text are described by
what stands before and behind them, apart from how a text is split. A character column of a line
is turned into a position and from there into the byte behind the characters before the column,
and later positions are not at earlier bytes.
-/

namespace LanguageClient.Text

open TextEdit (byteOffset isBoundary)

-----------------------------------------------------------------------------------------
-- Bytes of strings
-----------------------------------------------------------------------------------------

/-- A byte is between the characters of a string if it is so in the list of them. -/
theorem isValid_of_isBoundary {text : String} {byte : Nat}
    (between : isBoundary text.toList byte = true)
    : String.Pos.Raw.IsValid text ⟨byte⟩ := by
  obtain ⟨count, -, size⟩ := isBoundary_iff.mp between
  apply String.Pos.Raw.isValid_iff_exists_append.mpr
  refine ⟨.ofList (text.toList.take count), .ofList (text.toList.drop count), ?_, ?_⟩
  · simp [← String.ofList_append]
  · rw [String.rawEndPos, utf8ByteSize_ofList, size]

-----------------------------------------------------------------------------------------
-- Lines within a text
-----------------------------------------------------------------------------------------

/-- How a text goes on behind a line: with a newline, which a carriage return may precede, or not
at all. A carriage return at the end of the text is no part of the line either.
-/
inductive EndsLine : List Char → List Char → Prop
  | newline {line rest : List Char} (bare : line.getLast? ≠ some '\r')
    : EndsLine line ('\n' :: rest)
  | returnNewline {line rest : List Char} : EndsLine line ('\r' :: '\n' :: rest)
  | nothing {line : List Char} (bare : line.getLast? ≠ some '\r') : EndsLine line []
  | lastReturn {line : List Char} : EndsLine line ['\r']

/-- A line of a text, without its line break: its number is that of the newlines before it, and it
starts with the text or behind a newline.
-/
structure IsLine (text : List Char) (number : Nat) (before line : List Char) : Prop where
  numbered : before.count '\n' = number
  starts : before = [] ∨ before.getLast? = some '\n'
  plain : '\n' ∉ line
  ends : ∃ rest, EndsLine line rest ∧ text = before ++ (line ++ rest)

/-- Whole lines in front of a text are split off as they are. -/
theorem splitLines_append_of_starts {before : List Char}
    (starts : before = [] ∨ before.getLast? = some '\n') (after : List Char)
    : ∃ lines,
        splitLines (before ++ after) = lines ++ splitLines after
        ∧ lines.length = before.count '\n'
        ∧ Utf8.sizeOfLines lines = Utf8.size before := by
  rcases starts with rfl | last
  · exact ⟨[], rfl, rfl, rfl⟩
  · obtain ⟨front, rfl⟩ := List.getLast?_eq_some_iff.mp last
    have whole : linesBefore (splitLines front) = front ++ ['\n'] := by
      rw [linesBefore_eq (List.ne_nil_of_length_pos (length_splitLines_pos front)),
        joinLines_splitLines]
    refine ⟨splitLines front, ?_, ?_, ?_⟩
    · rw [List.append_assoc]
      exact splitLines_append_cons front after
    · rw [length_splitLines, List.count_append, List.count_singleton_self]
    · rw [← size_linesBefore, whole]

/-- What is split off first is the line with at most a carriage return behind it. -/
theorem EndsLine.splitLines_append {line rest : List Char} (ends : EndsLine line rest)
    (plain : '\n' ∉ line)
    : ∃ whole others,
        splitLines (line ++ rest) = whole :: others ∧ withoutReturn whole = line := by
  have returned : '\n' ∉ line ++ ['\r'] := by simp [plain]
  cases ends with
  | newline bare => exact ⟨line, _, Text.splitLines_append line plain _, if_neg bare⟩
  | @returnNewline rest =>
      refine ⟨line ++ ['\r'], splitLines rest, ?_, by simp [withoutReturn]⟩
      simpa using Text.splitLines_append (line ++ ['\r']) returned rest
  | nothing bare =>
      rw [List.append_nil]
      exact ⟨line, [], splitLines_of_plain plain, if_neg bare⟩
  | lastReturn => exact ⟨line ++ ['\r'], [], splitLines_of_plain returned, by simp [withoutReturn]⟩

/-- A line of a text is found under its number, at most with a carriage return, and the lines
before it are what stands before it.
-/
theorem IsLine.splitLines {text before line : List Char} {number : Nat}
    (isLine : IsLine text number before line)
    : ∃ whole,
        (splitLines text)[number]? = some whole
        ∧ withoutReturn whole = line
        ∧ Utf8.sizeOfLines ((Text.splitLines text).take number) = Utf8.size before := by
  obtain ⟨rest, ends, rfl⟩ := isLine.ends
  obtain ⟨lines, split, length, size⟩ := splitLines_append_of_starts isLine.starts (line ++ rest)
  obtain ⟨whole, others, behind, bare⟩ := ends.splitLines_append isLine.plain
  rw [isLine.numbered] at length
  subst length
  refine ⟨whole, ?_, bare, ?_⟩
  · simp [split, behind]
  · simp [split, size]

/-- A text with enough newlines has a start with just so many that ends with the last of them. -/
theorem exists_lines_before (text : List Char) {number : Nat} (enough : number ≤ text.count '\n')
    : ∃ before after,
        text = before ++ after
        ∧ before.count '\n' = number
        ∧ (before = [] ∨ before.getLast? = some '\n') := by
  induction number with
  | zero => exact ⟨[], text, rfl, rfl, Or.inl rfl⟩
  | succ number ih =>
      obtain ⟨before, after, rfl, counted, -⟩ := ih (by omega)
      have more : '\n' ∈ after := by
        rw [List.count_append] at enough
        exact List.count_pos_iff.mp (by omega)
      obtain ⟨line, rest, rfl, plain⟩ := List.eq_append_cons_of_mem more
      refine ⟨before ++ line ++ ['\n'], rest, by simp, ?_, Or.inr (by simp)⟩
      simp [counted, List.count_eq_zero.mpr plain]

/-- Every text starts with a line. -/
theorem exists_endsLine (text : List Char)
    : ∃ line rest, '\n' ∉ line ∧ EndsLine line rest ∧ text = line ++ rest := by
  obtain ⟨whole, rest, plain, breaks, rfl⟩
      : ∃ whole rest,
          '\n' ∉ whole ∧ (rest = [] ∨ ∃ more, rest = '\n' :: more) ∧ text = whole ++ rest := by
    by_cases newline : '\n' ∈ text
    · obtain ⟨whole, more, rfl, plain⟩ := List.eq_append_cons_of_mem newline
      exact ⟨whole, _, plain, Or.inr ⟨more, rfl⟩, rfl⟩
    · exact ⟨text, [], newline, Or.inl rfl, (List.append_nil text).symm⟩
  by_cases returned : whole.getLast? = some '\r'
  · obtain ⟨line, rfl⟩ := List.getLast?_eq_some_iff.mp returned
    have bare : '\n' ∉ line := fun inside => plain (List.mem_append_left _ inside)
    rcases breaks with rfl | ⟨more, rfl⟩
    · exact ⟨line, ['\r'], bare, .lastReturn, by simp⟩
    · exact ⟨line, '\r' :: '\n' :: more, bare, .returnNewline, by simp⟩
  · rcases breaks with rfl | ⟨more, rfl⟩
    · exact ⟨whole, [], plain, .nothing returned, rfl⟩
    · exact ⟨whole, '\n' :: more, plain, .newline returned, rfl⟩

/-- A text has a line for every number up to that of its newlines. -/
theorem exists_isLine (text : List Char) {number : Nat} (enough : number ≤ text.count '\n')
    : ∃ before line, IsLine text number before line := by
  obtain ⟨before, after, rfl, counted, starts⟩ := exists_lines_before text enough
  obtain ⟨line, rest, plain, ends, rfl⟩ := exists_endsLine after
  exact ⟨before, line, counted, starts, plain, rest, ends, rfl⟩

-----------------------------------------------------------------------------------------
-- Positions of columns
-----------------------------------------------------------------------------------------

/-- Starts of a line have as many bytes only if they have as many characters. -/
theorem size_take_inj {line : List Char} {count count' : Nat} (within : count ≤ line.length)
    (within' : count' ≤ line.length)
    : Utf8.size (line.take count) = Utf8.size (line.take count') ↔ count = count' := by
  rw [Nat.le_antisymm_iff, size_take_le_iff within within', size_take_le_iff within' within,
    ← Nat.le_antisymm_iff]

/-- The UTF-16 column of a character column comes back as it exactly if 32 bits hold it. A larger one
is taken for one that is far before it.
-/
theorem ofUnits_mod_iff {line : List Char} {column : Nat} (within : column ≤ line.length)
    : Column.ofUnits line (Column.toUnits line column % 2 ^ 32) = column
      ↔ Column.toUnits line column < 2 ^ 32 := by
  constructor
  · intro back
    by_contra large
    have far : Column.toUnits line column % 2 ^ 32 + 2 ≤ Column.toUnits line column := by omega
    exact Nat.lt_irrefl _ (back ▸ Column.ofUnits_lt within far)
  · intro small
    rw [Nat.mod_eq_of_lt small, ofUnits_toUnits within]

/-- The position of a column of a line is at the byte where the line starts and the bytes of the
characters before the column, exactly if 32 bits hold the number of the line and the UTF-16
column.
-/
theorem IsLine.byteOffset_ofColumn_iff {text before line : List Char} {number column : Nat}
    (isLine : IsLine text number before line) (within : column ≤ line.length)
    : byteOffset text (.ofColumn line number column)
          = Utf8.size before + Utf8.size (line.take column)
      ↔ number < 2 ^ 32 ∧ Column.toUnits line column < 2 ^ 32 := by
  obtain ⟨whole, found, rfl, size⟩ := isLine.splitLines
  have number'
      : (Position.ofColumn (withoutReturn whole) number column).line.toNat = number % 2 ^ 32 :=
    UInt32.toNat_ofNat'
  by_cases lineFits : number < 2 ^ 32
  · rw [Nat.mod_eq_of_lt lineFits] at number'
    have whole' : column ≤ whole.length := Nat.le_trans within (length_withoutReturn_le whole)
    have reduced
        : columnOf whole (.ofColumn (withoutReturn whole) number column)
          = Column.ofUnits (withoutReturn whole)
              (Column.toUnits (withoutReturn whole) column % 2 ^ 32) :=
      congrArg (Column.ofUnits _) UInt32.toNat_ofNat'
    rw [byteOffset_of_line (number'.symm ▸ found), number', size, take_withoutReturn within,
      Nat.add_left_cancel_iff, size_take_inj (columnOf_le _ _) whole', reduced,
      ofUnits_mod_iff within, and_iff_right lineFits]
  · -- The line's number is taken for that of a line above it.
    have above : (Position.ofColumn (withoutReturn whole) number column).line.toNat < number := by
      omega
    have early := byteOffset_lt_line above (List.getElem?_eq_some_iff.mp found).1
    constructor
    · intro same
      omega
    · rintro ⟨fits, -⟩
      exact absurd fits lineFits

/-- Positions and bytes of a text. The bytes of positions in order are in order, within the text
and between its characters. Every line has its number, and the position of a column of it is at the
byte where the line starts and the bytes of the characters before the column, exactly if 32 bits
hold the line's number and the UTF-16 column.
-/
theorem positions_reach_bytes (text : String)
    : (∀ left right : Position,
        left.isLe right = true
        → byteOffset text.toList left ≤ byteOffset text.toList right
          ∧ byteOffset text.toList right ≤ text.utf8ByteSize
          ∧ String.Pos.Raw.IsValid text ⟨byteOffset text.toList left⟩
          ∧ String.Pos.Raw.IsValid text ⟨byteOffset text.toList right⟩)
      ∧ (∀ number,
        number ≤ text.toList.count '\n' → ∃ before line, IsLine text.toList number before line)
      ∧ (∀ number before line column,
        IsLine text.toList number before line
        → column ≤ line.length
        → (byteOffset text.toList (.ofColumn line number column)
            = (String.ofList before).utf8ByteSize
              + (String.ofList (line.take column)).utf8ByteSize
          ↔ number < 2 ^ 32 ∧ Column.toUnits line column < 2 ^ 32)) := by
  refine ⟨?_, fun number enough => exists_isLine text.toList enough, ?_⟩
  · intro left right ordered
    refine ⟨byteOffset_mono _ ordered, ?_, ?_, ?_⟩
    · rw [utf8ByteSize_eq]
      exact byteOffset_le text.toList right
    · exact isValid_of_isBoundary (byteOffset_isBoundary text.toList left)
    · exact isValid_of_isBoundary (byteOffset_isBoundary text.toList right)
  · intro number before line column isLine within
    rw [utf8ByteSize_ofList, utf8ByteSize_ofList]
    exact isLine.byteOffset_ofColumn_iff within

/-- The second line of a text with both line breaks, at the column behind a surrogate pair. -/
theorem positions_reach_bytes_of_pair
    : (Position.isLe ⟨0, 1⟩ ⟨1, 2⟩ = true
        ∧ byteOffset "a\r\n😀b\nc".toList ⟨0, 1⟩ ≤ byteOffset "a\r\n😀b\nc".toList ⟨1, 2⟩)
      ∧ (1 ≤ "a\r\n😀b\nc".toList.count '\n'
        ∧ ∃ before line, IsLine "a\r\n😀b\nc".toList 1 before line)
      ∧ (IsLine "a\r\n😀b\nc".toList 1 ['a', '\r', '\n'] ['😀', 'b']
        ∧ Column.toUnits ['😀', 'b'] 1 < 2 ^ 32
        ∧ byteOffset "a\r\n😀b\nc".toList (.ofColumn ['😀', 'b'] 1 1) = 3 + 4) := by
  obtain ⟨ordered, numbered, reached⟩ := positions_reach_bytes "a\r\n😀b\nc"
  have isLine : IsLine "a\r\n😀b\nc".toList 1 ['a', '\r', '\n'] ['😀', 'b'] :=
    ⟨rfl, Or.inr rfl, by decide, ['\n', 'c'], .newline (by decide), rfl⟩
  exact ⟨
    ⟨by decide, (ordered ⟨0, 1⟩ ⟨1, 2⟩ (by decide)).1⟩,
    ⟨by decide, numbered 1 (by decide)⟩,
    ⟨
      isLine,
      by decide,
      (reached 1 ['a', '\r', '\n'] ['😀', 'b'] 1 isLine (by decide)).mpr ⟨by decide, by decide⟩
    ⟩
  ⟩

end LanguageClient.Text
