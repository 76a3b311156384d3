import LanguageClient.Edit
import LanguageClient.Proofs.Text.Seek
import LanguageClient.Proofs.Text.Utf8

/-! The bytes of a text. The byte of a position is behind as many bytes as the characters before
the position take, and a text is split between characters.
-/

namespace LanguageClient.Text

/-- A longer start of a text takes more bytes. -/
theorem size_take_lt {text : List Char} {count count' : Nat} (shorter : count < count')
    (within : count' ≤ text.length)
    : Utf8.size (text.take count) < Utf8.size (text.take count') := by
  induction text generalizing count count' with
  | nil =>
      rw [List.length_nil] at within
      omega
  | cons char rest ih =>
      have positive := char.utf8Size_pos
      cases count' with
      | zero => omega
      | succ count' =>
          rw [List.length_cons] at within
          cases count with
          | zero =>
              rw [List.take_zero, List.take_succ_cons, Utf8.size, Utf8.size]
              omega
          | succ count =>
              have later := ih (Nat.lt_of_succ_lt_succ shorter) (Nat.le_of_succ_le_succ within)
              rw [List.take_succ_cons, List.take_succ_cons, Utf8.size, Utf8.size]
              omega

/-- Starts of a text are ordered as their bytes are. -/
theorem size_take_le_iff {text : List Char} {count count' : Nat}
    (within : count ≤ text.length) (within' : count' ≤ text.length)
    : Utf8.size (text.take count) ≤ Utf8.size (text.take count') ↔ count ≤ count' := by
  constructor
  · intro fewer
    refine Nat.not_lt.mp fun longer => ?_
    have more := size_take_lt longer within
    omega
  · intro shorter
    rcases Nat.lt_or_eq_of_le shorter with shorter | rfl
    · exact Nat.le_of_lt (size_take_lt shorter within')
    · exact Nat.le_refl _

theorem size_linesBefore (lines : List (List Char))
    : Utf8.size (linesBefore lines) = Utf8.sizeOfLines lines := by
  induction lines with
  | nil => rfl
  | cons line rest ih =>
      have one : '\n'.utf8Size = 1 := rfl
      rw [linesBefore_cons, Utf8.size_append, Utf8.size, one, ih, Utf8.sizeOfLines]
      omega

/-- A column of a line is as many bytes behind the start of the line as it has before it. -/
theorem sizeOfLines_add_size {text line : List Char} {number : Nat}
    (found : (splitLines text)[number]? = some line) (column : Nat)
    : Utf8.sizeOfLines ((splitLines text).take number)
        + Utf8.size (line.take (Column.ofUnits line column))
      = Utf8.size (text.take (seek text number column)) := by
  rw [← lengthOfLines_add_ofUnits found column,
    take_of_line found (ofUnits_le_length line column), Utf8.size_append, size_linesBefore]

/-- The byte of a position is behind the bytes of the characters before it. -/
theorem byteOffset_eq {text : List Char} (plain : '\r' ∉ text) (position : Position)
    : TextEdit.byteOffset text position
      = Utf8.size (text.take (seek text position.line.toNat position.character.toNat)) := by
  unfold TextEdit.byteOffset
  dsimp only
  split
  · rename_i past
    rw [seek_eq_length (List.drop_eq_nil_iff.mp past), List.take_length]
  · rename_i line others rest
    have found : (splitLines text)[position.line.toNat]? = some line := by
      rw [← List.head?_drop, rest]
      rfl
    have kept : withoutReturn line = line :=
      withoutReturn_of_plain fun inside =>
        plain (mem_of_mem_splitLines (List.mem_of_getElem? found) inside).2
    rw [kept]
    exact sizeOfLines_add_size found position.character.toNat

/-- Splitting a text behind the bytes of its first characters splits it behind these. -/
theorem splitAtByte_size (text : List Char) (count : Nat)
    : TextEdit.splitAtByte text (Utf8.size (text.take count))
      = (text.take count, text.drop count) := by
  induction text generalizing count with
  | nil => simp [TextEdit.splitAtByte]
  | cons char rest ih =>
      cases count with
      | zero =>
          have misses : ¬ char.utf8Size ≤ 0 := Nat.not_le.mpr char.utf8Size_pos
          exact if_neg misses
      | succ count =>
          have fits : char.utf8Size ≤ char.utf8Size + Utf8.size (rest.take count) :=
            Nat.le_add_right _ _
          rw [List.take_succ_cons, Utf8.size, TextEdit.splitAtByte, if_pos fits,
            Nat.add_sub_cancel_left, ih]
          rfl

end LanguageClient.Text
