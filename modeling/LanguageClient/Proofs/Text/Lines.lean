import LanguageClient.Editor.Buffer
import LanguageClient.Text.Affix
import LanguageClient.Text.Lines

/-! Lines and texts. A text is split into its lines one character after another, and lines
without newlines are those of the text that they make up.
-/

namespace LanguageClient.Text

open TextBuffer (lengthOfLines)

/-- There is a first line. -/
theorem splitLines_eq_cons (text : List Char)
    : ∃ first others, splitLines text = first :: others := by
  unfold splitLines
  cases text with
  | nil => exact ⟨[], [], rfl⟩
  | cons char rest =>
      unfold splitOn
      split
      · exact ⟨_, _, rfl⟩
      · split <;> exact ⟨_, _, rfl⟩

@[simp] theorem splitLines_nil : splitLines [] = [[]] :=
  rfl

@[simp] theorem splitLines_newline (rest : List Char)
    : splitLines ('\n' :: rest) = [] :: splitLines rest :=
  rfl

/-- A character that is no newline is on the first line. -/
theorem splitLines_cons {char : Char} {rest first : List Char} {others : List (List Char)}
    (ordinary : char ≠ '\n') (lines : splitLines rest = first :: others)
    : splitLines (char :: rest) = (char :: first) :: others := by
  unfold splitLines at lines ⊢
  rw [splitOn, if_neg ordinary, lines]

theorem length_splitLines_pos (text : List Char) : 0 < (splitLines text).length := by
  obtain ⟨first, others, lines⟩ := splitLines_eq_cons text
  rw [lines]
  exact Nat.succ_pos _

theorem length_splitLines_cons {char : Char} (ordinary : char ≠ '\n') (rest : List Char)
    : (splitLines (char :: rest)).length = (splitLines rest).length := by
  obtain ⟨first, others, lines⟩ := splitLines_eq_cons rest
  rw [splitLines_cons ordinary lines, lines]
  rfl

/-- There is a line more than there are newlines. -/
theorem length_splitLines (text : List Char)
    : (splitLines text).length = text.count '\n' + 1 := by
  induction text with
  | nil => rfl
  | cons char rest ih =>
      by_cases newline : char = '\n'
      · simp [newline, ih]
      · simpa [newline] using (length_splitLines_cons newline rest).trans ih

/-- Passing one character passes at most one line. -/
theorem length_splitLines_pass (char : Char) (rest : List Char) {line : Nat}
    : (if char = '\n' then line else line + 1) < (splitLines rest).length
      ↔ line + 1 < (splitLines (char :: rest)).length := by
  split
  · rename_i newline
    rw [newline, splitLines_newline, List.length_cons]
    omega
  · rename_i ordinary
    rw [length_splitLines_cons ordinary]

/-- The last line of a text behind a newline is the last line behind it. -/
theorem getLast?_splitLines_newline (rest : List Char)
    : (splitLines ('\n' :: rest)).getLast? = (splitLines rest).getLast? := by
  obtain ⟨first, others, lines⟩ := splitLines_eq_cons rest
  rw [splitLines_newline, lines]
  rfl

/-- A newline separates the lines before it from those behind it. -/
theorem splitLines_append_cons (text rest : List Char)
    : splitLines (text ++ '\n' :: rest) = splitLines text ++ splitLines rest := by
  induction text with
  | nil => rfl
  | cons char text ih =>
      by_cases newline : char = '\n'
      · subst newline
        rw [List.cons_append, splitLines_newline, ih, splitLines_newline, List.cons_append]
      · obtain ⟨first, others, lines⟩ := splitLines_eq_cons text
        rw [lines] at ih
        rw [List.cons_append, splitLines_cons newline ih, splitLines_cons newline lines]
        rfl

/-- A newline at the end of a text starts an empty last line. -/
theorem splitLines_append_newline (text : List Char)
    : splitLines (text ++ ['\n']) = splitLines text ++ [[]] :=
  splitLines_append_cons text []

/-- Lines with newlines between them are the text that they are the lines of. -/
theorem joinLines_splitLines (text : List Char) : joinLines (splitLines text) = text := by
  induction text with
  | nil => rfl
  | cons char rest ih =>
      obtain ⟨first, others, lines⟩ := splitLines_eq_cons rest
      rw [lines] at ih
      by_cases newline : char = '\n'
      · subst newline
        rw [splitLines_newline, lines]
        exact congrArg ('\n' :: ·) ih
      · rw [splitLines_cons newline lines]
        cases others with
        | nil => exact congrArg (char :: ·) ih
        | cons other others => exact congrArg (char :: ·) ih

/-- A first line without newlines ends at the first newline. -/
theorem splitLines_append (line : List Char) (plain : '\n' ∉ line) (rest : List Char)
    : splitLines (line ++ '\n' :: rest) = line :: splitLines rest := by
  induction line with
  | nil => rfl
  | cons char line ih =>
      have ordinary : char ≠ '\n' := fun newline => plain (newline ▸ List.mem_cons_self)
      exact splitLines_cons ordinary (ih fun inside => plain (List.mem_cons_of_mem _ inside))

/-- A text without newlines is one line. -/
theorem splitLines_of_plain {line : List Char} (plain : '\n' ∉ line)
    : splitLines line = [line] := by
  induction line with
  | nil => rfl
  | cons char line ih =>
      have ordinary : char ≠ '\n' := fun newline => plain (newline ▸ List.mem_cons_self)
      exact splitLines_cons ordinary (ih fun inside => plain (List.mem_cons_of_mem _ inside))

/-- The lines of a text that lines without newlines make up are these lines. -/
theorem splitLines_joinLines {lines : List (List Char)} (inhabited : lines ≠ [])
    (plain : ∀ line ∈ lines, '\n' ∉ line)
    : splitLines (joinLines lines) = lines := by
  induction lines with
  | nil => exact absurd rfl inhabited
  | cons line others ih =>
      have first : '\n' ∉ line := plain line List.mem_cons_self
      cases others with
      | nil => exact splitLines_of_plain first
      | cons other others =>
          have later := ih (List.cons_ne_nil other others) fun line inside =>
            plain line (List.mem_cons_of_mem _ inside)
          exact (splitLines_append line first _).trans (congrArg (line :: ·) later)

/-- Lines with a newline behind each of them. -/
def linesBefore (lines : List (List Char)) : List Char :=
  lines.flatMap (· ++ ['\n'])

/-- Lines with a newline in front of each of them. -/
def linesBehind (lines : List (List Char)) : List Char :=
  lines.flatMap ('\n' :: ·)

theorem linesBefore_cons (line : List Char) (rest : List (List Char))
    : linesBefore (line :: rest) = line ++ '\n' :: linesBefore rest := by
  simp [linesBefore]

theorem length_linesBefore (lines : List (List Char))
    : (linesBefore lines).length = lengthOfLines lines := by
  induction lines with
  | nil => rfl
  | cons line rest ih =>
      rw [linesBefore_cons, List.length_append, List.length_cons, ih, lengthOfLines]
      omega

/-- A line among others in the text that they make up. -/
theorem joinLines_around (before behind : List (List Char)) (line : List Char)
    : joinLines (before ++ line :: behind) = linesBefore before ++ (line ++ linesBehind behind) := by
  induction before with
  | nil =>
      induction behind generalizing line with
      | nil => simp [joinLines, joinOn, linesBefore, linesBehind]
      | cons next behind ih => simpa [joinLines, joinOn, linesBefore, linesBehind] using ih next
  | cons first before ih =>
      cases before with
      | nil => simpa [joinLines, joinOn, linesBefore] using ih
      | cons second before => simpa [joinLines, joinOn, linesBefore] using ih

/-- With a newline behind the last line too, lines make up one character more. -/
theorem linesBefore_eq {lines : List (List Char)} (inhabited : lines ≠ [])
    : linesBefore lines = joinLines lines ++ ['\n'] := by
  obtain ⟨before, last, rfl⟩ := (List.eq_nil_or_concat lines).resolve_left inhabited
  rw [List.concat_eq_append, joinLines_around]
  simp [linesBefore, linesBehind]

theorem splitLines_linesBefore {lines : List (List Char)} (plain : ∀ line ∈ lines, '\n' ∉ line)
    (rest : List Char)
    : splitLines (linesBefore lines ++ rest) = lines ++ splitLines rest := by
  induction lines with
  | nil => rfl
  | cons line lines ih =>
      obtain ⟨first, others⟩ := List.forall_mem_cons.mp plain
      rw [linesBefore_cons, List.append_assoc, List.cons_append, splitLines_append line first,
        ih others]
      rfl

/-- Lines are cut at a column of one of them into whole lines and the parts of this one. -/
theorem joinLines_cut {lines : List (List Char)} {line : List Char} {number column : Nat}
    (found : lines[number]? = some line) (within : column ≤ line.length)
    : (joinLines lines).take (lengthOfLines (lines.take number) + column)
        = linesBefore (lines.take number) ++ line.take column
      ∧ (joinLines lines).drop (lengthOfLines (lines.take number) + column)
        = line.drop column ++ linesBehind (lines.drop (number + 1)) := by
  obtain ⟨inside, rfl⟩ := List.getElem?_eq_some_iff.mp found
  have around : joinLines lines
      = linesBefore (lines.take number)
          ++ (lines[number] ++ linesBehind (lines.drop (number + 1))) := by
    rw [← joinLines_around, ← List.drop_eq_getElem_cons inside, List.take_append_drop]
  rw [around, ← length_linesBefore, List.take_length_add_append, List.drop_length_add_append,
    List.take_append_of_le_length within, List.drop_append_of_le_length within]
  exact ⟨rfl, rfl⟩

/-- Up to a column of a line, a text has the lines before it and a part of this one. -/
theorem take_of_line {text line : List Char} {number column : Nat}
    (found : (splitLines text)[number]? = some line) (within : column ≤ line.length)
    : text.take (lengthOfLines ((splitLines text).take number) + column)
      = linesBefore ((splitLines text).take number) ++ line.take column := by
  have front := (joinLines_cut found within).1
  rwa [joinLines_splitLines] at front

/-- A line has no newline, and no character that the text does not have. -/
theorem mem_of_mem_splitLines {text line : List Char} {char : Char}
    (found : line ∈ splitLines text) (member : char ∈ line)
    : char ≠ '\n' ∧ char ∈ text := by
  induction text generalizing line with
  | nil =>
      obtain rfl := List.mem_singleton.mp found
      cases member
  | cons head rest ih =>
      have later {line : List Char} (found : line ∈ splitLines rest) (member : char ∈ line)
          : char ≠ '\n' ∧ char ∈ head :: rest :=
        (ih found member).imp_right (List.mem_cons_of_mem head)
      by_cases newline : head = '\n'
      · subst newline
        rcases List.mem_cons.mp found with rfl | found
        · cases member
        · exact later found member
      · obtain ⟨first, others, lines⟩ := splitLines_eq_cons rest
        rw [splitLines_cons newline lines] at found
        rcases List.mem_cons.mp found with rfl | found
        · rcases List.mem_cons.mp member with rfl | member
          · exact ⟨newline, List.mem_cons_self⟩
          · exact later (lines ▸ List.mem_cons_self) member
        · exact later (lines ▸ List.mem_cons_of_mem first found) member

/-- A line without carriage returns ends with none. -/
theorem withoutReturn_of_plain {line : List Char} (plain : '\r' ∉ line)
    : withoutReturn line = line :=
  if_neg fun last => plain (List.mem_of_getLast? last)

theorem mem_of_mem_withoutReturn {line : List Char} {char : Char}
    (member : char ∈ withoutReturn line)
    : char ∈ line := by
  unfold withoutReturn at member
  split at member
  · exact List.dropLast_subset line member
  · exact member

/-- The lines of a text without carriage returns end with none. -/
theorem map_withoutReturn {text : List Char} (plain : '\r' ∉ text)
    : (splitLines text).map withoutReturn = splitLines text := by
  have kept (line : List Char) (found : line ∈ splitLines text) : withoutReturn line = line :=
    withoutReturn_of_plain fun inside => plain (mem_of_mem_splitLines found inside).2
  exact (List.map_congr_left kept).trans (List.map_id _)

end LanguageClient.Text
