import LanguageClient.Proofs.Edit.ApplicationOrder
import LanguageClient.Proofs.Text.Bytes

/-! The bytes between the characters of a text. The byte of a position is one of them, whatever
the lines of the text end with, and a later position is not at an earlier byte.
-/

namespace LanguageClient.Text

open TextEdit (byteOffset isBoundary splitAtByte)

-----------------------------------------------------------------------------------------
-- Bytes between characters
-----------------------------------------------------------------------------------------

/-- A byte is between characters if it is behind the bytes of the first ones, by induction on
the text.
-/
theorem isBoundary_iff {text : List Char} {byte : Nat}
    : isBoundary text byte = true
      ↔ ∃ count, count ≤ text.length ∧ Utf8.size (text.take count) = byte := by
  induction text generalizing byte with
  | nil =>
      cases byte with
      | zero => exact ⟨fun _ => ⟨0, Nat.le_refl 0, rfl⟩, fun _ => rfl⟩
      | succ byte =>
          constructor
          · intro between
            cases between
          · rintro ⟨count, -, size⟩
            rw [List.take_nil] at size
            cases size
  | cons char rest ih =>
      cases byte with
      | zero => exact ⟨fun _ => ⟨0, Nat.zero_le _, rfl⟩, fun _ => by rw [isBoundary]⟩
      | succ byte =>
          have positive := char.utf8Size_pos
          rw [isBoundary, Bool.and_eq_true, decide_eq_true_eq, ih]
          · constructor
            · rintro ⟨first, count, within, size⟩
              refine ⟨count + 1, Nat.succ_le_succ within, ?_⟩
              rw [List.take_succ_cons, Utf8.size, size]
              omega
            · rintro ⟨count, within, size⟩
              cases count with
              | zero => cases size
              | succ count =>
                  rw [List.take_succ_cons, Utf8.size] at size
                  exact ⟨by omega, count, Nat.le_of_succ_le_succ within, by omega⟩
          · exact Nat.succ_ne_zero byte

theorem size_take_le (text : List Char) (count : Nat)
    : Utf8.size (text.take count) ≤ Utf8.size text := by
  rcases Nat.le_total count text.length with within | past
  · have whole := (size_take_le_iff within (Nat.le_refl _)).mpr within
    rwa [List.take_length] at whole
  · exact Nat.le_of_eq (by rw [List.take_of_length_le past])

-----------------------------------------------------------------------------------------
-- Columns
-----------------------------------------------------------------------------------------

/-- A later column is not at an earlier character. -/
theorem ofUnits_mono (line : List Char) {column column' : Nat} (ordered : column ≤ column')
    : Column.ofUnits line column ≤ Column.ofUnits line column' := by
  induction line generalizing column column' with
  | nil => exact Nat.le_refl 0
  | cons char rest ih =>
      have later := ih (Nat.sub_le_sub_right ordered (Column.unitsOf char))
      rw [Column.ofUnits, Column.ofUnits]
      split
      · exact Nat.zero_le _
      · rw [if_neg (by omega)]
        omega

/-- A column of characters is the one of its units. -/
theorem ofUnits_toUnits {line : List Char} {column : Nat} (within : column ≤ line.length)
    : Column.ofUnits line (Column.toUnits line column) = column := by
  rw [Column.toUnits]
  induction line generalizing column with
  | nil =>
      rw [List.length_nil] at within
      rw [Nat.le_zero.mp within]
      rfl
  | cons char rest ih =>
      cases column with
      | zero => exact ofUnits_zero (char :: rest)
      | succ column =>
          have some : Column.unitsOf char ≠ 0 := by
            rw [Column.unitsOf]
            split <;> omega
          rw [List.take_succ_cons, Column.units, Column.ofUnits, if_neg (by omega),
            Nat.add_sub_cancel_left, ih (Nat.le_of_succ_le_succ within), Nat.add_comm]

/-- The start of a line is the same without the carriage return at its end. -/
theorem take_withoutReturn {line : List Char} {column : Nat}
    (within : column ≤ (withoutReturn line).length)
    : (withoutReturn line).take column = line.take column := by
  unfold withoutReturn at within ⊢
  split
  · rename_i returns
    rw [if_pos returns, List.length_dropLast] at within
    rw [List.dropLast_eq_take, List.take_take, Nat.min_eq_left within]
  · rfl

theorem length_withoutReturn_le (line : List Char)
    : (withoutReturn line).length ≤ line.length := by
  unfold withoutReturn
  split
  · rw [List.length_dropLast]
    exact Nat.sub_le _ _
  · exact Nat.le_refl _

-----------------------------------------------------------------------------------------
-- Positions
-----------------------------------------------------------------------------------------

/-- The character that a position names on its line. -/
def columnOf (line : List Char) (position : Position) : Nat :=
  position.column (withoutReturn line)

theorem columnOf_le (line : List Char) (position : Position)
    : columnOf line position ≤ line.length :=
  Nat.le_trans (ofUnits_le_length _ _) (length_withoutReturn_le line)

theorem byteOffset_of_past {text : List Char} {position : Position}
    (past : (splitLines text).length ≤ position.line.toNat)
    : byteOffset text position = Utf8.size text := by
  rw [byteOffset, List.drop_eq_nil_iff.mpr past]

/-- A position on a line is behind the lines before it and the start of its own. -/
theorem byteOffset_of_line {text line : List Char} {position : Position}
    (found : (splitLines text)[position.line.toNat]? = some line)
    : byteOffset text position
      = Utf8.sizeOfLines ((splitLines text).take position.line.toNat)
        + Utf8.size (line.take (columnOf line position)) := by
  obtain ⟨inside, here⟩ := List.getElem?_eq_some_iff.mp found
  have column : columnOf line position ≤ (withoutReturn line).length := ofUnits_le_length _ _
  rw [byteOffset, List.drop_eq_getElem_cons inside, here, ← take_withoutReturn column]
  rfl

/-- The start of a line with the lines before it is a start of the text. -/
theorem exists_take_of_line {text line : List Char} {number column : Nat}
    (found : (splitLines text)[number]? = some line) (within : column ≤ line.length)
    : ∃ count,
        count ≤ text.length
        ∧ Utf8.size (text.take count)
          = Utf8.sizeOfLines ((splitLines text).take number) + Utf8.size (line.take column) := by
  have reached := sizeOfLines_add_size found (Column.toUnits line column)
  rw [ofUnits_toUnits within] at reached
  exact ⟨_, seek_le_length text _ _, reached.symm⟩

/-- Positions are between characters. -/
theorem byteOffset_isBoundary (text : List Char) (position : Position)
    : isBoundary text (byteOffset text position) = true := by
  rw [isBoundary_iff]
  cases found : (splitLines text)[position.line.toNat]? with
  | none =>
      rw [byteOffset_of_past (List.getElem?_eq_none_iff.mp found)]
      exact ⟨text.length, Nat.le_refl _, by rw [List.take_length]⟩
  | some line =>
      rw [byteOffset_of_line found]
      exact exists_take_of_line found (columnOf_le line position)

theorem byteOffset_le (text : List Char) (position : Position)
    : byteOffset text position ≤ Utf8.size text := by
  obtain ⟨count, -, size⟩ := isBoundary_iff.mp (byteOffset_isBoundary text position)
  rw [← size]
  exact size_take_le text count

theorem sizeOfLines_append (lines more : List (List Char))
    : Utf8.sizeOfLines (lines ++ more) = Utf8.sizeOfLines lines + Utf8.sizeOfLines more := by
  have both : linesBefore (lines ++ more) = linesBefore lines ++ linesBefore more :=
    List.flatMap_append
  rw [← size_linesBefore, both, Utf8.size_append, size_linesBefore, size_linesBefore]

/-- A line takes its bytes and a newline. -/
theorem sizeOfLines_take_succ {lines : List (List Char)} {line : List Char} {number : Nat}
    (found : lines[number]? = some line)
    : Utf8.sizeOfLines (lines.take (number + 1))
      = Utf8.sizeOfLines (lines.take number) + Utf8.size line + 1 := by
  rw [List.take_add_one, found, sizeOfLines_append]
  rfl

/-- More lines take more bytes. -/
theorem sizeOfLines_take_mono (lines : List (List Char)) {number number' : Nat}
    (fewer : number ≤ number')
    : Utf8.sizeOfLines (lines.take number) ≤ Utf8.sizeOfLines (lines.take number') := by
  have all := sizeOfLines_append ((lines.take number').take number)
    ((lines.take number').drop number)
  rw [List.take_append_drop, List.take_take, Nat.min_eq_left fewer] at all
  omega

/-- A position is before the lines below its own, because it is before the newline between. -/
theorem byteOffset_lt_line {text : List Char} {position : Position} {number : Nat}
    (above : position.line.toNat < number) (inside : number < (splitLines text).length)
    : byteOffset text position < Utf8.sizeOfLines ((splitLines text).take number) := by
  obtain ⟨line, found⟩ : ∃ line, (splitLines text)[position.line.toNat]? = some line :=
    ⟨_, List.getElem?_eq_getElem (Nat.lt_trans above inside)⟩
  have next : position.line.toNat + 1 ≤ number := above
  have passed := sizeOfLines_take_succ found
  have before := sizeOfLines_take_mono (splitLines text) next
  have start := size_take_le line (columnOf line position)
  rw [byteOffset_of_line found]
  omega

/-- A later position is not at an earlier byte. On one line that holds of the columns, and
otherwise the first position is before the newline of its line.
-/
theorem byteOffset_mono (text : List Char) {left right : Position}
    (ordered : left.isLe right = true)
    : byteOffset text left ≤ byteOffset text right := by
  cases foundRight : (splitLines text)[right.line.toNat]? with
  | none =>
      rw [byteOffset_of_past (List.getElem?_eq_none_iff.mp foundRight)]
      exact byteOffset_le text left
  | some lineRight =>
      rw [byteOffset_of_line foundRight]
      rcases Position.isLe_iff.mp ordered with above | ⟨same, columns⟩
      · have before := byteOffset_lt_line above (List.getElem?_eq_some_iff.mp foundRight).1
        omega
      · rw [← same] at foundRight ⊢
        rw [byteOffset_of_line foundRight]
        refine Nat.add_le_add_left ?_ _
        exact (size_take_le_iff (columnOf_le _ _) (columnOf_le _ _)).mpr
          (ofUnits_mono (withoutReturn lineRight) columns)

end LanguageClient.Text
