import LanguageClient.Proofs.Edit.ApplicationOrder
import LanguageClient.Proofs.Text.Seek

/-! The places of positions, and the places where an editor finds them. The two agree on the
lines of a text, also when what is behind the place has been edited, unless the position is past
the end of its line.
-/

namespace LanguageClient

namespace Text

/-- How many characters of a text are before a position. -/
def place (text : List Char) (position : Position) : Nat :=
  seek text position.line.toNat position.character.toNat

/-- How many characters an editor finds before a position. What is past the last line is at
the start of it.
-/
def editorPlace (text : List Char) (position : Position) : Nat :=
  if position.line.toNat < (splitLines text).length then
    place text position
  else
    lastLineStart text

/-- A line of the text is too short for a position. -/
def Overhangs (text : List Char) (position : Position) : Prop :=
  ∀ line,
    (splitLines text)[position.line.toNat]? = some line
    → Column.units line < position.character.toNat

/-- An editor finds a position that is past the last line, because that line is empty, or the
position is not past it.
-/
def OnLines (text : List Char) (position : Position) : Prop :=
  position.line.toNat < (splitLines text).length ∨ (splitLines text).getLast? = some []

theorem overhangs_iff {text : List Char} {position : Position}
    : Overhangs text position
      ↔ overshoots text position.line.toNat position.character.toNat = true :=
  (overshoots_iff text _ _).symm

instance (text : List Char) (position : Position) : Decidable (Overhangs text position) :=
  decidable_of_iff _ overhangs_iff.symm

instance (text : List Char) (position : Position) : Decidable (OnLines text position) :=
  inferInstanceAs (Decidable (_ ∨ _))

theorem place_le_length (text : List Char) (position : Position)
    : place text position ≤ text.length :=
  seek_le_length text _ _

theorem before_of_isLe {left right : Position} (ordered : left.isLe right = true)
    : Before left.line.toNat left.character.toNat right.line.toNat right.character.toNat :=
  Position.isLe_iff.mp ordered

theorem place_mono (text : List Char) {left right : Position}
    (ordered : left.isLe right = true)
    : place text left ≤ place text right :=
  seek_mono text (before_of_isLe ordered)

/-- A position that is not past one on the lines is on the lines. -/
theorem OnLines.of_isLe {text : List Char} {left right : Position}
    (onLines : OnLines text right) (ordered : left.isLe right = true)
    : OnLines text left := by
  have before := Position.isLe_iff.mp ordered
  exact onLines.imp_left fun inside => by omega

theorem editorPlace_of_lt {text : List Char} {position : Position}
    (inside : position.line.toNat < (splitLines text).length)
    : editorPlace text position = place text position :=
  if_pos inside

/-- An editor finds the positions on the lines where they are. -/
theorem OnLines.editorPlace_eq {text : List Char} {position : Position}
    (onLines : OnLines text position)
    : editorPlace text position = place text position := by
  by_cases inside : position.line.toNat < (splitLines text).length
  · exact editorPlace_of_lt inside
  · have last := onLines.resolve_left inside
    rw [editorPlace, if_neg inside, place, seek_eq_length (Nat.not_lt.mp inside)]
    exact seek_eq_length_of_last last (by omega) 0

/-- Texts that start alike are what they share and what they do not. -/
theorem split_of_take {text edited : List Char} {bound : Nat} (within : bound ≤ text.length)
    (kept : edited.take bound = text.take bound)
    : ∃ front back back',
        front.length = bound ∧ text = front ++ back ∧ edited = front ++ back' := by
  refine ⟨text.take bound, text.drop bound, edited.drop bound, ?_, ?_, ?_⟩
  · exact List.length_take_of_le within
  · exact (List.take_append_drop bound text).symm
  · rw [← kept]
    exact (List.take_append_drop bound edited).symm

/-- An edited text has positions that settle in what it keeps where they were. -/
theorem editorPlace_of_settles {text edited : List Char} {bound : Nat} {position : Position}
    (within : bound ≤ text.length) (kept : edited.take bound = text.take bound)
    (settles : Settles text position.line.toNat position.character.toNat bound)
    : editorPlace edited position = place text position := by
  have inside := settles.line_lt within
  obtain ⟨front, back, back', rfl, rfl, rfl⟩ := split_of_take within kept
  rw [editorPlace_of_lt (line_lt_of_seek_le front inside settles.le)]
  exact seek_append front settles

/-- A newline where some text ended leaves the positions up to there where they were. -/
theorem editorPlace_of_newline {text back : List Char} {bound : Nat} {position : Position}
    (within : bound ≤ text.length)
    (inside : position.line.toNat < (splitLines text).length)
    (before : place text position ≤ bound)
    : editorPlace (text.take bound ++ '\n' :: back) position = place text position := by
  obtain ⟨front, rest, -, length, rfl, -⟩ := split_of_take within rfl
  subst length
  rw [List.take_left, editorPlace_of_lt (line_lt_of_seek_le front inside before)]
  exact seek_append_newline front inside before

end Text

end LanguageClient
