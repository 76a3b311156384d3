import LanguageClient.Proofs.Json.Grammar
import LanguageClient.Proofs.Text.Utf8

/-! Positions and white space. Whatever is read, the text ends at the same byte, so that the
position of what is left follows from its characters.
-/

namespace LanguageClient

namespace Json

open Text

namespace Input

/-- The byte at which the text ends. -/
def stop (input : Input) : Nat :=
  input.position + Utf8.size input.chars

/-- What is left is known by its characters and the end of the text. -/
theorem eq_of_stop {left right : Input} (chars : left.chars = right.chars)
    (stop : left.stop = right.stop)
    : left = right := by
  obtain ⟨leftChars, leftPosition⟩ := left
  obtain ⟨rightChars, rightPosition⟩ := right
  obtain rfl : leftChars = rightChars := chars
  obtain rfl : leftPosition = rightPosition := Nat.add_right_cancel stop
  rfl

theorem stop_after {input : Input} {taken rest : List Char}
    (split : input.chars = taken ++ rest)
    : (input.after taken rest).stop = input.stop := by
  rw [stop, stop, split, Utf8.size_append, after, Nat.add_assoc]

@[simp]
theorem stop_advance (input : Input) : input.advance.stop = input.stop :=
  stop_after (List.take_append_drop 1 input.chars).symm

@[simp]
theorem stop_skipSpaces (input : Input) : input.skipSpaces.stop = input.stop :=
  stop_after List.takeWhile_append_dropWhile.symm

@[simp]
theorem chars_advance (input : Input) : input.advance.chars = input.chars.drop 1 :=
  rfl

theorem chars_skipSpaces (input : Input)
    : input.skipSpaces.chars = input.chars.dropWhile isSpace :=
  rfl

end Input

-----------------------------------------------------------------------------------------
-- White space
-----------------------------------------------------------------------------------------

theorem isSpace_iff (char : Char) : isSpace char = true ↔ char ∈ [' ', '\t', '\n', '\r'] := by
  simp [isSpace, or_assoc]

/-- White space is skipped as far as it goes, by induction on the text. -/
theorem Blanks.dropWhile (text : List Char) : Blanks text (text.dropWhile isSpace) := by
  induction text with
  | nil => exact .none []
  | cons char rest ih =>
      rw [List.dropWhile_cons]
      split
      · rename_i blank
        exact .cons ((isSpace_iff char).mp blank) ih
      · exact .none _

/-- White space in front makes no difference to what is left after skipping, by induction on
the white space.
-/
theorem Blanks.dropWhile_eq {text rest : List Char} (blanks : Blanks text rest)
    : text.dropWhile isSpace = rest.dropWhile isSpace := by
  induction blanks with
  | none => rfl
  | cons blank _ ih => rw [List.dropWhile_cons, if_pos ((isSpace_iff _).mpr blank), ih]

theorem Blanks.trans {text middle rest : List Char} (front : Blanks text middle)
    (back : Blanks middle rest)
    : Blanks text rest := by
  induction front with
  | none => exact back
  | cons blank _ ih => exact .cons blank (ih back)

theorem Blanks.length_le {text rest : List Char} (blanks : Blanks text rest)
    : rest.length ≤ text.length := by
  induction blanks with
  | none => exact Nat.le_refl _
  | cons _ _ ih => exact Nat.le_succ_of_le ih

/-- White space up to a token is skipped exactly. -/
theorem Blanks.skipSpaces_eq {input : Input} {char : Char} {rest : List Char}
    (blanks : Blanks input.chars (char :: rest)) (token : isSpace char = false)
    : input.skipSpaces.chars = char :: rest ∧ input.skipSpaces.advance.chars = rest := by
  have skipped : input.skipSpaces.chars = char :: rest := by
    rw [Input.chars_skipSpaces, blanks.dropWhile_eq, List.dropWhile_cons, token]
    rfl
  refine ⟨skipped, ?_⟩
  rw [Input.chars_advance, skipped]
  rfl

end Json

end LanguageClient
