import LanguageClient.Editor.Buffer
import LanguageClient.Position
import LanguageClient.Proofs.Text.Lines

/-! Where positions are in a text. All places are read off one walk over its characters, which
passes newlines down to the line and then units down to the column.
-/

namespace LanguageClient.Text

-----------------------------------------------------------------------------------------
-- Walking
-----------------------------------------------------------------------------------------

/-- How many characters are before a line and a UTF-16 column. What is past the end of a line
is at its end, and what is past the last line is at the end of the text.
-/
def seek : List Char → Nat → Nat → Nat
  | [], _, _ => 0
  | char :: rest, 0, column =>
    if column = 0 then
      0
    else if char = '\n' then
      0
    else
      1 + seek rest 0 (column - Column.unitsOf char)
  | char :: rest, line + 1, column =>
    1 + seek rest (if char = '\n' then line else line + 1) column

/-- Whether a line and a column are past the end of the line or past the last line. -/
def overshoots : List Char → Nat → Nat → Bool
  | [], line, column => line != 0 || column != 0
  | char :: rest, 0, column =>
    if column = 0 then
      false
    else if char = '\n' then
      true
    else
      overshoots rest 0 (column - Column.unitsOf char)
  | char :: rest, line + 1, column =>
    overshoots rest (if char = '\n' then line else line + 1) column

@[simp] theorem seek_start (text : List Char) : seek text 0 0 = 0 := by
  cases text with
  | nil => rfl
  | cons char rest => exact if_pos rfl

theorem seek_le_length (text : List Char) (line column : Nat)
    : seek text line column ≤ text.length := by
  induction text generalizing line column with
  | nil => exact Nat.le_refl 0
  | cons char rest ih =>
      cases line with
      | zero =>
          unfold seek
          split
          · exact Nat.zero_le _
          · split
            · exact Nat.zero_le _
            · have below := ih 0 (column - Column.unitsOf char)
              rw [List.length_cons]
              omega
      | succ line =>
          have below := ih (if char = '\n' then line else line + 1) column
          rw [seek, List.length_cons]
          omega

/-- The order of lines and columns. -/
def Before (line column line' column' : Nat) : Prop :=
  line < line' ∨ line = line' ∧ column ≤ column'

/-- Passing one character keeps the order. -/
theorem Before.pass {line column line' column' : Nat}
    (before : Before (line + 1) column (line' + 1) column') (char : Char)
    : Before (if char = '\n' then line else line + 1) column
        (if char = '\n' then line' else line' + 1) column' := by
  unfold Before at before ⊢
  split <;> omega

/-- A later position is not at an earlier place, by induction on the text. -/
theorem seek_mono (text : List Char) {line column line' column' : Nat}
    (before : Before line column line' column')
    : seek text line column ≤ seek text line' column' := by
  induction text generalizing line column line' column' with
  | nil => exact Nat.le_refl 0
  | cons char rest ih =>
      cases line with
      | zero =>
          rw [seek]
          split
          · exact Nat.zero_le _
          · split
            · exact Nat.zero_le _
            · rename_i positive ordinary
              cases line' with
              | zero =>
                  have columns : column ≤ column' := by unfold Before at before; omega
                  rw [seek, if_neg (by omega), if_neg ordinary]
                  have later := ih
                    (show Before 0 (column - Column.unitsOf char) 0
                      (column' - Column.unitsOf char) by unfold Before; omega)
                  omega
              | succ line' =>
                  rw [seek, if_neg ordinary]
                  have later := ih
                    (show Before 0 (column - Column.unitsOf char) (line' + 1) column' by
                      unfold Before; omega)
                  omega
      | succ line =>
          cases line' with
          | zero => unfold Before at before; omega
          | succ line' =>
              rw [seek, seek]
              have later := ih (before.pass char)
              omega

/-- A position behind one that overshoots overshoots, too, if both are at one place. -/
theorem overshoots_of_before {text : List Char} {line column line' column' : Nat}
    (before : Before line column line' column') (beyond : overshoots text line column = true)
    (same : seek text line column = seek text line' column')
    : overshoots text line' column' = true := by
  induction text generalizing line column line' column' with
  | nil =>
      unfold Before at before
      simp only [overshoots, Bool.or_eq_true, bne_iff_ne] at beyond ⊢
      omega
  | cons char rest ih =>
      cases line with
      | zero =>
          simp only [overshoots] at beyond
          split at beyond
          · cases beyond
          · rename_i positive
            cases line' with
            | zero =>
                have columns : column ≤ column' := by unfold Before at before; omega
                have positive' : ¬ column' = 0 := by omega
                simp only [overshoots, if_neg positive']
                split at beyond
                · rename_i newline
                  rw [if_pos newline]
                · rename_i ordinary
                  rw [if_neg ordinary]
                  simp only [seek, if_neg positive, if_neg positive', if_neg ordinary] at same
                  refine ih ?_ beyond (by omega)
                  unfold Before
                  omega
            | succ line' =>
                split at beyond
                · rename_i newline
                  simp only [seek, if_neg positive, if_pos newline] at same
                  omega
                · rename_i ordinary
                  simp only [overshoots, if_neg ordinary]
                  simp only [seek, if_neg positive, if_neg ordinary] at same
                  refine ih ?_ beyond (by omega)
                  unfold Before
                  omega
      | succ line =>
          cases line' with
          | zero => unfold Before at before; omega
          | succ line' =>
              simp only [overshoots] at beyond ⊢
              simp only [seek] at same
              exact ih (before.pass char) beyond (by omega)

-----------------------------------------------------------------------------------------
-- Lines
-----------------------------------------------------------------------------------------

/-- What is past the last line is at the end of the text. -/
theorem seek_eq_length {text : List Char} {line : Nat}
    (past : (splitLines text).length ≤ line) (column : Nat)
    : seek text line column = text.length := by
  induction text generalizing line with
  | nil => rfl
  | cons char rest ih =>
      cases line with
      | zero => exact absurd past (Nat.not_le.mpr (length_splitLines_pos _))
      | succ line =>
          have still := mt (length_splitLines_pass char rest).mp (Nat.not_lt.mpr past)
          rw [seek, ih (Nat.not_lt.mp still), List.length_cons, Nat.add_comm]

/-- An empty last line is at the end of the text. -/
theorem seek_eq_length_of_last {text : List Char} {line : Nat}
    (last : (splitLines text).getLast? = some [])
    (past : (splitLines text).length ≤ line + 1) (column : Nat)
    : seek text line column = text.length := by
  induction text generalizing line with
  | nil => rfl
  | cons char rest ih =>
      by_cases newline : char = '\n'
      · subst newline
        rw [getLast?_splitLines_newline] at last
        rw [splitLines_newline, List.length_cons] at past
        have rest_lines := length_splitLines_pos rest
        cases line with
        | zero => omega
        | succ line =>
            rw [seek, if_pos rfl, ih last (by omega), List.length_cons, Nat.add_comm]
      · obtain ⟨first, others, lines⟩ := splitLines_eq_cons rest
        rw [splitLines_cons newline lines] at last past
        cases others with
        | nil => cases last
        | cons other others =>
            cases line with
            | zero =>
                rw [List.length_cons, List.length_cons] at past
                omega
            | succ line =>
                rw [seek, if_neg newline, ih (lines ▸ last) (lines ▸ past), List.length_cons,
                  Nat.add_comm]

/-- How many characters are before the last line. -/
def lastLineStart (text : List Char) : Nat :=
  seek text ((splitLines text).length - 1) 0

/-- A last line that is not empty starts with a character that ends no line. -/
theorem exists_last_char {text : List Char} (last : (splitLines text).getLast? ≠ some [])
    : ∃ char, char ≠ '\n' ∧ text[lastLineStart text]? = some char := by
  unfold lastLineStart
  induction text with
  | nil => exact absurd rfl last
  | cons char rest ih =>
      obtain ⟨first, others, lines⟩ := splitLines_eq_cons rest
      by_cases newline : char = '\n'
      · subst newline
        rw [getLast?_splitLines_newline] at last
        obtain ⟨other, ordinary, found⟩ := ih last
        refine ⟨other, ordinary, ?_⟩
        rw [splitLines_newline, lines, List.length_cons, List.length_cons, Nat.add_sub_cancel,
          seek, if_pos rfl, Nat.add_comm, List.getElem?_cons_succ]
        rwa [lines, List.length_cons, Nat.add_sub_cancel] at found
      · cases others with
        | nil =>
            rw [splitLines_cons newline lines]
            exact ⟨char, newline, rfl⟩
        | cons next others =>
            obtain ⟨other, ordinary, found⟩ :=
              ih (by rw [splitLines_cons newline lines] at last; rwa [lines])
            refine ⟨other, ordinary, ?_⟩
            rw [length_splitLines_cons newline, lines, List.length_cons, Nat.add_sub_cancel,
              List.length_cons, seek, if_neg newline, Nat.add_comm 1, List.getElem?_cons_succ]
            rwa [lines, List.length_cons, Nat.add_sub_cancel, List.length_cons] at found

theorem ofUnits_le_length (line : List Char) (column : Nat)
    : Column.ofUnits line column ≤ line.length := by
  induction line generalizing column with
  | nil => exact Nat.le_refl 0
  | cons char rest ih =>
      have below := ih (column - Column.unitsOf char)
      rw [Column.ofUnits, List.length_cons]
      split <;> omega

theorem ofUnits_zero (line : List Char) : Column.ofUnits line 0 = 0 := by
  cases line with
  | nil => rfl
  | cons char rest => exact if_pos rfl

/-- A column of a line is that many characters behind the start of the line. -/
theorem lengthOfLines_add_ofUnits {text line : List Char} {number : Nat}
    (found : (splitLines text)[number]? = some line) (column : Nat)
    : TextBuffer.lengthOfLines ((splitLines text).take number) + Column.ofUnits line column
      = seek text number column := by
  induction text generalizing line number column with
  | nil =>
      cases number with
      | zero =>
          obtain rfl := Option.some.inj found
          rfl
      | succ number => cases found
  | cons char rest ih =>
      by_cases newline : char = '\n'
      · subst newline
        rw [splitLines_newline] at found ⊢
        cases number with
        | zero =>
            obtain rfl := Option.some.inj found
            rw [seek, if_pos rfl, ite_self]
            rfl
        | succ number =>
            rw [seek, if_pos rfl, ← ih found column, List.take_succ_cons,
              TextBuffer.lengthOfLines, List.length_nil]
            omega
      · obtain ⟨first, others, lines⟩ := splitLines_eq_cons rest
        rw [splitLines_cons newline lines] at found ⊢
        rw [lines] at ih
        cases number with
        | zero =>
            obtain rfl := Option.some.inj found
            have here : (first :: others)[0]? = some first := rfl
            have inner := ih here (column - Column.unitsOf char)
            rw [List.take_zero, TextBuffer.lengthOfLines, Nat.zero_add] at inner ⊢
            rw [seek, Column.ofUnits, if_neg newline, inner]
        | succ number =>
            have later : (first :: others)[number + 1]? = some line := found
            have inner := ih later column
            rw [List.take_succ_cons, TextBuffer.lengthOfLines] at inner ⊢
            rw [seek, if_neg newline, ← inner, List.length_cons]
            omega

/-- A position overshoots if its column is past the end of its line. -/
theorem overshoots_iff (text : List Char) (number column : Nat)
    : overshoots text number column = true
      ↔ ∀ line, (splitLines text)[number]? = some line → Column.units line < column := by
  induction text generalizing number column with
  | nil =>
      cases number with
      | zero => simp [overshoots, Column.units, Nat.pos_iff_ne_zero]
      | succ number => simp [overshoots]
  | cons char rest ih =>
      by_cases newline : char = '\n'
      · subst newline
        cases number with
        | zero => simp [overshoots, Column.units, Nat.pos_iff_ne_zero]
        | succ number => simpa [overshoots] using ih number column
      · obtain ⟨first, others, lines⟩ := splitLines_eq_cons rest
        rw [splitLines_cons newline lines]
        rw [lines] at ih
        cases number with
        | zero =>
            have inner := ih 0 (column - Column.unitsOf char)
            simp only [List.getElem?_cons_zero, Option.some.injEq, forall_eq'] at inner ⊢
            rw [overshoots, if_neg newline, Column.units]
            by_cases zero : column = 0
            · rw [if_pos zero, zero]
              exact iff_of_false Bool.false_ne_true (Nat.not_lt_zero _)
            · rw [if_neg zero, inner]
              omega
        | succ number => simpa [overshoots, newline] using ih (number + 1) column

-----------------------------------------------------------------------------------------
-- Texts that start alike
-----------------------------------------------------------------------------------------

/-- The start of a text is at no other line and column, unless these overshoot. -/
theorem eq_zero_of_seek_eq_zero {text : List Char} {line column : Nat}
    (here : seek text line column = 0) (fits : overshoots text line column = false)
    : line = 0 ∧ column = 0 := by
  cases text with
  | nil => simpa [overshoots] using fits
  | cons char rest =>
      cases line with
      | zero =>
          by_cases zero : column = 0
          · exact ⟨rfl, zero⟩
          · simp only [seek, overshoots, if_neg zero] at here fits
            split at fits
            · cases fits
            · rename_i ordinary
              rw [if_neg ordinary] at here
              omega
      | succ line =>
          rw [seek] at here
          omega

/-- A position is before a bound, or right at it without overshooting. -/
def Settles (text : List Char) (line column bound : Nat) : Prop :=
  seek text line column < bound
  ∨ seek text line column = bound ∧ overshoots text line column = false

theorem Settles.le {text : List Char} {line column bound : Nat}
    (settles : Settles text line column bound)
    : seek text line column ≤ bound :=
  settles.elim Nat.le_of_lt fun here => Nat.le_of_eq here.1

/-- A position on a later line settles in what follows a character. -/
theorem Settles.pass {char : Char} {rest : List Char} {line column bound : Nat}
    (settles : Settles (char :: rest) (line + 1) column (bound + 1))
    : Settles rest (if char = '\n' then line else line + 1) column bound := by
  unfold Settles at settles ⊢
  simp only [seek, overshoots] at settles
  exact settles.imp (fun below => by omega) fun ⟨here, fits⟩ => ⟨by omega, fits⟩

/-- A position on the line of a character settles in what follows it. -/
theorem Settles.passWithin {char : Char} {rest : List Char} {column bound : Nat}
    (positive : ¬ column = 0) (ordinary : ¬ char = '\n')
    (settles : Settles (char :: rest) 0 column (bound + 1))
    : Settles rest 0 (column - Column.unitsOf char) bound := by
  unfold Settles at settles ⊢
  simp only [seek, overshoots, if_neg positive, if_neg ordinary] at settles
  exact settles.imp (fun below => by omega) fun ⟨here, fits⟩ => ⟨by omega, fits⟩

/-- Nothing but the start settles at the start. -/
theorem Settles.eq_zero {text : List Char} {line column : Nat}
    (settles : Settles text line column 0)
    : line = 0 ∧ column = 0 := by
  rcases settles with below | ⟨here, fits⟩
  · cases below
  · exact eq_zero_of_seek_eq_zero here fits

/-- Only what is before a position counts for it, unless the position overshoots. -/
theorem seek_append (front : List Char) {back back' : List Char} {line column : Nat}
    (settles : Settles (front ++ back) line column front.length)
    : seek (front ++ back') line column = seek (front ++ back) line column := by
  induction front generalizing line column with
  | nil =>
      obtain ⟨rfl, rfl⟩ := settles.eq_zero
      simp only [seek_start]
  | cons char rest ih =>
      cases line with
      | zero =>
          by_cases zero : column = 0
          · simp only [zero, seek_start]
          · by_cases newline : char = '\n'
            · simp only [List.cons_append, seek, if_neg zero, if_pos newline]
            · simp only [List.cons_append, seek, if_neg zero, if_neg newline]
              rw [ih (settles.passWithin zero newline)]
      | succ line =>
          simp only [List.cons_append, seek]
          rw [ih settles.pass]

/-- The line of a position is there if it starts in what is before the position. -/
theorem line_lt_of_seek_le (front : List Char) {back back' : List Char} {line column : Nat}
    (exists_line : line < (splitLines (front ++ back)).length)
    (within : seek (front ++ back) line column ≤ front.length)
    : line < (splitLines (front ++ back')).length := by
  induction front generalizing line column with
  | nil =>
      cases line with
      | zero => exact length_splitLines_pos _
      | succ line =>
          cases back with
          | nil => exact absurd exists_line (by simp)
          | cons char back =>
              rw [List.nil_append, seek, List.length_nil] at within
              omega
  | cons char rest ih =>
      cases line with
      | zero => exact length_splitLines_pos _
      | succ line =>
          rw [List.cons_append, seek, List.length_cons, Nat.add_comm 1] at within
          have passed := (length_splitLines_pass char (rest ++ back)).mpr exists_line
          exact (length_splitLines_pass char _).mp (ih passed (Nat.le_of_succ_le_succ within))

/-- A position that settles is on a line. -/
theorem Settles.line_lt {text : List Char} {line column bound : Nat}
    (settles : Settles text line column bound) (within : bound ≤ text.length)
    : line < (splitLines text).length := by
  refine Nat.not_le.mp fun past => ?_
  rcases settles with below | ⟨_, fits⟩
  · rw [seek_eq_length past] at below
    omega
  · have beyond := (overshoots_iff text line column).mpr fun found known => by
      rw [List.getElem?_eq_none past] at known
      cases known
    exact absurd (fits.symm.trans beyond) Bool.false_ne_true

/-- A position settles if one behind it does. -/
theorem Settles.of_before {text : List Char} {line column line' column' bound : Nat}
    (settles : Settles text line' column' bound) (before : Before line column line' column')
    : Settles text line column bound := by
  have earlier := seek_mono text before
  rcases settles with below | ⟨here, fits⟩
  · exact Or.inl (by omega)
  · rcases Nat.lt_or_eq_of_le (here ▸ earlier) with below | same
    · exact Or.inl below
    · refine Or.inr ⟨same, Bool.eq_false_iff.mpr fun beyond => ?_⟩
      have still := overshoots_of_before before beyond (same.trans here.symm)
      exact absurd (fits.symm.trans still) Bool.false_ne_true

/-- A newline behind the end of a line leaves the positions up to there where they are, also
those that overshoot.
-/
theorem seek_append_newline (front : List Char) {back back' : List Char} {line column : Nat}
    (exists_line : line < (splitLines (front ++ back)).length)
    (within : seek (front ++ back) line column ≤ front.length)
    : seek (front ++ '\n' :: back') line column = seek (front ++ back) line column := by
  induction front generalizing line column with
  | nil =>
      simp only [List.nil_append] at *
      have here : seek back line column = 0 := Nat.le_zero.mp within
      cases line with
      | zero =>
          by_cases zero : column = 0
          · rw [zero, seek_start, seek_start]
          · rw [here, seek, if_neg zero, if_pos rfl]
      | succ line =>
          cases back with
          | nil => exact absurd exists_line (by simp)
          | cons char back =>
              rw [seek] at here
              omega
  | cons char rest ih =>
      simp only [List.cons_append] at *
      cases line with
      | zero =>
          by_cases zero : column = 0
          · rw [zero, seek_start, seek_start]
          · by_cases newline : char = '\n'
            · rw [seek, seek, if_neg zero, if_pos newline, if_neg zero, if_pos newline]
            · rw [seek, if_neg zero, if_neg newline, List.length_cons, Nat.add_comm 1] at within
              rw [seek, seek, if_neg zero, if_neg newline, if_neg zero,
                if_neg newline,
                ih (length_splitLines_pos _) (Nat.le_of_succ_le_succ within)]
      | succ line =>
          rw [seek, List.length_cons, Nat.add_comm 1] at within
          have passed := (length_splitLines_pass char (rest ++ back)).mpr exists_line
          rw [seek, seek, ih passed (Nat.le_of_succ_le_succ within)]

/-- A position that overshoots goes on behind a character that ends no line. -/
theorem lt_seek_of_overshoots (front : List Char) {back back' : List Char} {char : Char}
    {line column : Nat} (ordinary : char ≠ '\n')
    (exists_line : line < (splitLines (front ++ back)).length)
    (beyond : overshoots (front ++ back) line column = true)
    (here : seek (front ++ back) line column = front.length)
    : front.length < seek (front ++ char :: back') line column := by
  induction front generalizing line column with
  | nil =>
      rw [List.nil_append] at *
      cases line with
      | zero =>
          have positive : ¬ column = 0 := by
            rintro rfl
            cases back <;> cases beyond
          rw [seek, if_neg positive, if_neg ordinary, List.length_nil]
          omega
      | succ line =>
          cases back with
          | nil => exact absurd exists_line (by simp)
          | cons next back =>
              rw [seek, List.length_nil] at here
              omega
  | cons first front ih =>
      rw [List.cons_append] at exists_line beyond here
      rw [List.cons_append]
      cases line with
      | zero =>
          by_cases zero : column = 0
          · rw [overshoots, if_pos zero] at beyond
            cases beyond
          · by_cases newline : first = '\n'
            · rw [seek, if_neg zero, if_pos newline] at here
              cases here
            · rw [seek, if_neg zero, if_neg newline, List.length_cons] at *
              rw [overshoots, if_neg zero, if_neg newline] at beyond
              have later := ih (length_splitLines_pos _) beyond (by omega)
              omega
      | succ line =>
          rw [seek, List.length_cons] at *
          rw [overshoots] at beyond
          have later := ih ((length_splitLines_pass first _).mpr exists_line) beyond (by omega)
          omega

end LanguageClient.Text
