import LanguageClient.Proofs.Edit.ReadsAlike

/-! Ranges that an editor does not find. Then there are new texts for all ranges with which the
editor ends up with another text than the edits mean: one or two ranges show the difference and
the others keep their texts.
-/

namespace LanguageClient

open Text (place editorPlace replaceBetween Overhangs OnLines)

namespace TextEdit

-----------------------------------------------------------------------------------------
-- Texts that are kept
-----------------------------------------------------------------------------------------

/-- The replacement of a range by some characters. -/
def replacing (range : Range) (chars : List Char) : TextEdit where
  range
  newText := String.ofList chars

/-- The replacement of a range by what it holds. -/
def keeping (text : List Char) (range : Range) : TextEdit :=
  replacing range ((text.take (place text range.stop)).drop (place text range.start))

theorem replacing_plain {chars : List Char} (range : Range) (plain : '\r' ∉ chars)
    : '\r' ∉ (replacing range chars).newText.toList := by
  rwa [replacing, String.toList_ofList]

theorem applyOriginal_replacing (text edited : List Char) (range : Range) (chars : List Char)
    : applyOriginal text edited (replacing range chars)
      = replaceBetween edited (place text range.start) (place text range.stop) chars := by
  rw [applyOriginal, replacing, String.toList_ofList]

theorem applyCurrent_replacing (edited : List Char) (range : Range) (chars : List Char)
    : applyCurrent edited (replacing range chars)
      = replaceBetween edited (editorPlace edited range.start) (editorPlace edited range.stop)
          chars := by
  rw [applyCurrent, replacing, String.toList_ofList]

/-- A range of which nothing is edited yet keeps an edited text as it is. -/
theorem applyOriginal_keeping {text edited : List Char} {range : Range}
    (ordered : range.start.isLe range.stop = true)
    (kept : edited.take (place text range.stop) = text.take (place text range.stop))
    : applyOriginal text edited (keeping text range) = edited := by
  have places := Text.place_mono text ordered
  have front
      : edited.take (place text range.start)
        = (edited.take (place text range.stop)).take (place text range.start) := by
    rw [List.take_take, Nat.min_eq_left places]
  rw [keeping, applyOriginal_replacing, Text.replaceBetween_of_le places, ← kept, front,
    List.take_append_drop, List.take_append_drop]

/-- So it does in an editor that finds the range. -/
theorem applyCurrent_keeping {text edited : List Char} {range : Range}
    (ordered : range.start.isLe range.stop = true)
    (kept : edited.take (place text range.stop) = text.take (place text range.stop))
    (start : editorPlace edited range.start = place text range.start)
    (stop : editorPlace edited range.stop = place text range.stop)
    : applyCurrent edited (keeping text range) = edited := by
  have same
      : applyCurrent edited (keeping text range)
        = applyOriginal text edited (keeping text range) := by
    rw [keeping, applyCurrent_replacing, applyOriginal_replacing, start, stop]
  exact same.trans (applyOriginal_keeping ordered kept)

/-- An edit of the text itself is applied as it is meant if its range ends on the lines. -/
theorem applyCurrent_of_onLines {text : List Char} {edit : TextEdit}
    (ordered : edit.range.start.isLe edit.range.stop = true)
    (onLines : OnLines text edit.range.stop)
    : applyCurrent text edit = applyOriginal text text edit := by
  rw [applyCurrent, (onLines.of_isLe ordered).editorPlace_eq, onLines.editorPlace_eq]
  rfl

/-- Ranges that each keep a text keep it together. -/
theorem foldl_keeping {text edited : List Char} {apply : List Char → TextEdit → List Char}
    {ranges : List Range}
    (fixed : ∀ range ∈ ranges, apply edited (keeping text range) = edited)
    : (ranges.map (keeping text)).foldl apply edited = edited := by
  induction ranges with
  | nil => rfl
  | cons range rest ih =>
      rw [List.map_cons, List.foldl_cons, fixed range List.mem_cons_self]
      exact ih fun later member => fixed later (List.mem_cons_of_mem range member)

/-- What a range holds has no carriage return if the text has none. -/
theorem keeping_plain {text : List Char} (plain : '\r' ∉ text) (range : Range)
    : '\r' ∉ (keeping text range).newText.toList :=
  replacing_plain range fun inside =>
    plain (List.mem_of_mem_take (List.mem_of_mem_drop inside))

/-- Edits of some ranges in order are applied in an editor as they are meant, whatever their
new texts are.
-/
def AlwaysAlike (text : List Char) (ranges : List Range) : Prop :=
  ∀ sorted : List TextEdit,
    sorted.map (·.range) = ranges
    → (∀ edit ∈ sorted, '\r' ∉ edit.newText.toList)
    → sorted.foldl applyCurrent text = sorted.foldl (applyOriginal text) text

/-- If all ranges but one or two keep their texts, the edits of these are alike on their own. -/
theorem AlwaysAlike.within {text : List Char} {front back : List Range} {edits : List TextEdit}
    (alike : AlwaysAlike text (front ++ (edits.map (·.range) ++ back))) (plain : '\r' ∉ text)
    (plainEdits : ∀ edit ∈ edits, '\r' ∉ edit.newText.toList)
    (ordered : ∀ range ∈ front, range.start.isLe range.stop = true)
    (found : ∀ range ∈ front, applyCurrent text (keeping text range) = text)
    : (back.map (keeping text)).foldl applyCurrent (edits.foldl applyCurrent text)
      = (back.map (keeping text)).foldl (applyOriginal text)
          (edits.foldl (applyOriginal text) text) := by
  have ranges (some : List Range)
      : (some.map (keeping text)).map (·.range) = some := by
    rw [List.map_map]
    exact List.map_id _
  have keeps (some : List Range)
      : ∀ edit ∈ some.map (keeping text), '\r' ∉ edit.newText.toList := by
    intro edit member
    obtain ⟨range, -, rfl⟩ := List.mem_map.mp member
    exact keeping_plain plain range
  have same := alike (front.map (keeping text) ++ (edits ++ back.map (keeping text)))
    (by rw [List.map_append, List.map_append, ranges, ranges])
    (by
      intro edit member
      rcases List.mem_append.mp member with member | member
      · exact keeps front edit member
      · rcases List.mem_append.mp member with member | member
        · exact plainEdits edit member
        · exact keeps back edit member)
  rw [List.foldl_append, List.foldl_append, List.foldl_append, List.foldl_append,
    foldl_keeping found,
    foldl_keeping fun range member => applyOriginal_keeping (ordered range member) rfl] at same
  exact same

-----------------------------------------------------------------------------------------
-- Past the last line
-----------------------------------------------------------------------------------------

theorem editorPlace_of_past {text : List Char} {position : Position}
    (past : (Text.splitLines text).length ≤ position.line.toNat)
    : editorPlace text position = Text.lastLineStart text :=
  if_neg (Nat.not_lt.mpr past)

theorem place_of_past {text : List Char} {position : Position}
    (past : (Text.splitLines text).length ≤ position.line.toNat)
    : place text position = text.length :=
  Text.seek_eq_length past _

/-- An editor finds nothing to replace between two positions past the last line. -/
theorem applyCurrent_keeping_of_past {text : List Char} {range : Range}
    (ordered : range.start.isLe range.stop = true)
    (past : (Text.splitLines text).length ≤ range.start.line.toNat)
    : applyCurrent text (keeping text range) = text := by
  have before := Position.isLe_iff.mp ordered
  have stopPast : (Text.splitLines text).length ≤ range.stop.line.toNat := by omega
  have nothing : (text.take (place text range.stop)).drop text.length = [] :=
    List.drop_of_length_le (List.length_take_le' _ _)
  rw [keeping, applyCurrent_replacing, place_of_past past, nothing, editorPlace_of_past past,
    editorPlace_of_past stopPast, Text.replaceBetween_of_le (Nat.le_refl _), List.append_nil,
    List.take_append_drop]

/-- The replacement of a range by a newline, behind what is removed with it if its end is read
as the start of the last line.
-/
def endingLine (text : List Char) (range : Range) : TextEdit :=
  replacing range
    ((text.take (place text range.start)).drop (Text.lastLineStart text) ++ ['\n'])

theorem endingLine_plain {text : List Char} (plain : '\r' ∉ text) (range : Range)
    : '\r' ∉ (endingLine text range).newText.toList := by
  refine replacing_plain range fun inside => ?_
  rcases List.mem_append.mp inside with held | newline
  · exact plain (List.mem_of_mem_take (List.mem_of_mem_drop held))
  · exact absurd newline (by decide)

/-- A position past a last line that is not empty is lost: what is on that line stays. What is
left of the line in front of the range ends with the newline, so that the ranges before it are
found.
-/
theorem endingLine_misread {text : List Char} (range : Range)
    (past : (Text.splitLines text).length ≤ range.stop.line.toNat)
    (last : (Text.splitLines text).getLast? ≠ some [])
    : (∃ back,
        applyCurrent text (endingLine text range)
          = text.take (place text range.start) ++ '\n' :: back)
      ∧ applyCurrent text (endingLine text range)
        ≠ applyOriginal text text (endingLine text range) := by
  obtain ⟨char, ordinary, here⟩ := Text.exists_last_char last
  obtain ⟨remains, -⟩ := List.getElem?_eq_some_iff.mp here
  have startRead
      : editorPlace text range.start = place text range.start
        ∨ editorPlace text range.start = Text.lastLineStart text
          ∧ place text range.start = text.length := by
    rcases Nat.lt_or_ge range.start.line.toNat (Text.splitLines text).length with inside | past
    · exact Or.inl (Text.editorPlace_of_lt inside)
    · exact Or.inr ⟨editorPlace_of_past past, place_of_past past⟩
  rw [endingLine, applyCurrent_replacing, applyOriginal_replacing, editorPlace_of_past past,
    place_of_past past]
  exact ⟨⟨_, Text.replaceBetween_early remains startRead⟩,
    Text.replaceBetween_early_ne (Text.place_le_length text _) here ordinary startRead⟩

/-- A range ends on the lines, if it is always applied as it is meant and so are the ranges
around it, of which those before it end on the lines.
-/
theorem onLines_of_alwaysAlike {text : List Char} (plain : '\r' ∉ text)
    {front back : List Range} {range : Range}
    (backwards : Range.Backwards (front ++ range :: back))
    (alike : AlwaysAlike text (front ++ range :: back))
    (onLines : ∀ earlier ∈ back, OnLines text earlier.stop)
    : OnLines text range.stop := by
  by_cases inside : range.stop.line.toNat < (Text.splitLines text).length
  · exact Or.inl inside
  by_cases last : (Text.splitLines text).getLast? = some []
  · exact Or.inr last
  have past := Nat.not_lt.mp inside
  obtain ⟨⟨rest, read⟩, differ⟩ := endingLine_misread range past last
  obtain ⟨-, apart, across⟩ := List.pairwise_append.mp backwards.apart
  have ordered (other : Range) (member : other ∈ back) : other.start.isLe other.stop = true :=
    backwards.ordered other (List.mem_append_right front (List.mem_cons_of_mem range member))
  have before (other : Range) (member : other ∈ back)
      : place text other.stop ≤ place text range.start :=
    Text.place_mono text ((List.pairwise_cons.mp apart).1 other member)
  have within := Text.place_le_length text range.start
  have alone : AlwaysAlike text (front ++ ([endingLine text range].map (·.range) ++ back)) :=
    alike
  have same := alone.within plain ?_ ?_ ?_
  · rw [List.foldl_cons, List.foldl_cons, List.foldl_nil, List.foldl_nil, foldl_keeping,
      foldl_keeping] at same
    · exact absurd same differ
    · intro other member
      refine applyOriginal_keeping (ordered other member) ?_
      rw [endingLine, applyOriginal_replacing, place_of_past past]
      exact Text.take_replaceBetween_of_le (Text.place_le_length text _)
        (by have := before other member; omega) _
    · intro other member
      have inside : other.stop.line.toNat < (Text.splitLines text).length :=
        (onLines other member).resolve_right last
      have earlier := Position.isLe_iff.mp (ordered other member)
      have start := Text.place_mono text (ordered other member)
      have stop := before other member
      rw [read]
      refine applyCurrent_keeping (ordered other member) ?_ ?_ ?_
      · exact Text.take_front_append stop (Text.place_le_length text _) _
      · exact Text.editorPlace_of_newline within (by omega) (by omega)
      · exact Text.editorPlace_of_newline within inside stop
  · exact List.forall_mem_singleton.mpr (endingLine_plain plain range)
  · exact fun other member => backwards.ordered other (List.mem_append_left _ member)
  · intro other member
    have behind := Position.isLe_iff.mp (across other member range List.mem_cons_self)
    have ordered := backwards.ordered other (List.mem_append_left _ member)
    exact applyCurrent_keeping_of_past ordered (by omega)

-----------------------------------------------------------------------------------------
-- Past the end of a line
-----------------------------------------------------------------------------------------

/-- Behind which characters a position is read if it is past the end of a line where a
character has been inserted.
-/
theorem lt_editorPlace_of_overhangs {text : List Char} {position : Position} {bound : Nat}
    {char : Char} {back : List Char} (ordinary : char ≠ '\n')
    (inside : position.line.toNat < (Text.splitLines text).length)
    (beyond : Overhangs text position) (here : place text position = bound)
    : bound < editorPlace (text.take bound ++ char :: back) position := by
  have within : bound ≤ text.length := here ▸ Text.place_le_length text position
  obtain ⟨front, rest, -, length, rfl, -⟩ := Text.split_of_take within rfl
  subst length
  have still
      : position.line.toNat < (Text.splitLines (front ++ char :: back)).length :=
    Text.line_lt_of_seek_le front inside (Nat.le_of_eq here)
  rw [List.take_left, Text.editorPlace_of_lt still]
  exact Text.lt_seek_of_overshoots front ordinary inside (Text.overhangs_iff.mp beyond) here

/-- The end of a range is read too far behind in an edited text. So is its start, if it is
not where it was.
-/
structure ReadBehind (text edited : List Char) (range : Range) : Prop where
  stop : place text range.stop < editorPlace edited range.stop
  start
    : editorPlace edited range.start = place text range.start
      ∨ place text range.start = place text range.stop
        ∧ place text range.stop < editorPlace edited range.start

/-- What is inserted at the end of a line is taken for a part of a range that ends past it. -/
theorem readBehind_of_overhangs {text : List Char} {range : Range} {char : Char}
    (ordinary : char ≠ '\n') (ordered : range.start.isLe range.stop = true)
    (inside : range.stop.line.toNat < (Text.splitLines text).length)
    (beyond : Overhangs text range.stop) (back : List Char)
    : ReadBehind text (text.take (place text range.stop) ++ char :: back) range where
  stop := lt_editorPlace_of_overhangs ordinary inside beyond rfl
  start := by
    have within := Text.place_le_length text range.stop
    have before := Position.isLe_iff.mp ordered
    have kept
        : (text.take (place text range.stop) ++ char :: back).take (place text range.stop)
          = text.take (place text range.stop) :=
      Text.take_front_append (Nat.le_refl _) within _
    rcases Nat.lt_or_eq_of_le (Text.place_mono text ordered) with ahead | same
    · exact Or.inl (Text.editorPlace_of_settles within kept (Or.inl ahead))
    · cases startBeyond
        : Text.overshoots text range.start.line.toNat range.start.character.toNat with
      | false => exact Or.inl (Text.editorPlace_of_settles within kept (Or.inr ⟨same, startBeyond⟩))
      | true =>
          exact Or.inr ⟨same, lt_editorPlace_of_overhangs ordinary (by omega)
            (Text.overhangs_iff.mpr startBeyond) same⟩

/-- A newline that is inserted at the end of the text is taken for a part of a range that ends
past the last line.
-/
theorem readBehind_of_past {text : List Char} {range : Range}
    (past : (Text.splitLines text).length ≤ range.stop.line.toNat)
    : ReadBehind text (text ++ ['\n']) range := by
  have last : (Text.splitLines (text ++ ['\n'])).getLast? = some [] := by
    rw [Text.splitLines_append_newline, List.getLast?_concat]
  have read (position : Position)
      : editorPlace (text ++ ['\n']) position = place (text ++ ['\n']) position :=
    OnLines.editorPlace_eq (Or.inr last)
  have atEnd {position : Position}
      (past : (Text.splitLines text).length ≤ position.line.toNat)
      : place text position = text.length
        ∧ editorPlace (text ++ ['\n']) position = text.length + 1 := by
    refine ⟨Text.seek_eq_length past _, (read position).trans ?_⟩
    rw [place, Text.seek_eq_length_of_last last, List.length_append, List.length_singleton]
    rw [Text.splitLines_append_newline, List.length_append, List.length_singleton]
    omega
  obtain ⟨stop, stopRead⟩ := atEnd past
  refine ⟨by omega, ?_⟩
  by_cases inside : range.start.line.toNat < (Text.splitLines text).length
  · have found
        : editorPlace (text.take text.length ++ ['\n']) range.start
          = place text range.start :=
      Text.editorPlace_of_newline (Nat.le_refl _) inside (Text.place_le_length text _)
    rw [List.take_length] at found
    exact Or.inl found
  · obtain ⟨start, startRead⟩ := atEnd (Nat.not_lt.mp inside)
    exact Or.inr ⟨by omega, by omega⟩

/-- Some character in place of a range behind a range's end, at the same place, makes the end
be read too far behind.
-/
theorem exists_readBehind {text : List Char} {earlier later : Range}
    (ordered : earlier.start.isLe earlier.stop = true)
    (laterOrdered : later.start.isLe later.stop = true) (beyond : Overhangs text earlier.stop)
    (here : place text earlier.stop = place text later.start)
    : ∃ char,
        char ≠ '\r'
        ∧ char ≠ 'y'
        ∧ ReadBehind text (applyOriginal text text (replacing later [char])) earlier := by
  have laterPlaces := Text.place_mono text laterOrdered
  by_cases inside : earlier.stop.line.toNat < (Text.splitLines text).length
  · refine ⟨'x', by decide, by decide, ?_⟩
    rw [applyOriginal_replacing, Text.replaceBetween_of_le laterPlaces, List.append_assoc, ← here]
    exact readBehind_of_overhangs (by decide) ordered inside beyond _
  · have past := Nat.not_lt.mp inside
    have start : place text later.start = text.length := here ▸ Text.seek_eq_length past _
    have stop : place text later.stop = text.length :=
      Nat.le_antisymm (Text.place_le_length text _) (start ▸ laterPlaces)
    refine ⟨'\n', by decide, by decide, ?_⟩
    rw [applyOriginal_replacing, start, stop, Text.replaceBetween_of_le (Nat.le_refl _),
      List.take_length, List.drop_length, List.append_nil]
    exact readBehind_of_past past

/-- A range that is read too far behind is lost: more is removed, or the new text is further
behind. What is before the range is kept.
-/
theorem readBehind_misread {text edited : List Char} {range : Range} {first second : Char}
    (ordered : range.start.isLe range.stop = true) (behind : ReadBehind text edited range)
    (here : edited[place text range.stop]? = some first) (differ : first ≠ second)
    : (applyCurrent edited (replacing range [second])).take (place text range.start)
        = edited.take (place text range.start)
      ∧ applyCurrent edited (replacing range [second])
        ≠ applyOriginal text edited (replacing range [second]) := by
  have places := Text.place_mono text ordered
  obtain ⟨within, -⟩ := List.getElem?_eq_some_iff.mp here
  obtain ⟨stop, start⟩ := behind
  rw [applyCurrent_replacing, applyOriginal_replacing]
  exact ⟨Text.take_replaceBetween_of_le (by omega) (by omega) _,
    Text.replaceBetween_ne_of_behind places stop here differ start⟩

/-- A range that meets one behind it is misread behind some character in place of that one. What
is before the range is kept.
-/
theorem exists_misread {text : List Char} (plain : '\r' ∉ text) {range later : Range}
    (ordered : range.start.isLe range.stop = true)
    (laterOrdered : later.start.isLe later.stop = true) (meets : Meets text range later)
    : ∃ edited char,
        char ≠ '\r'
        ∧ edited = applyOriginal text text (replacing later [char])
        ∧ edited.take (place text range.stop) = text.take (place text range.stop)
        ∧ (applyCurrent edited (replacing range ['y'])).take (place text range.start)
          = text.take (place text range.start)
        ∧ applyCurrent edited (replacing range ['y'])
          ≠ applyOriginal text edited (replacing range ['y']) := by
  obtain ⟨_, beyond, bytes⟩ := meets
  have here := (byteOffset_eq_iff plain).mp bytes
  obtain ⟨char, ordinary, differ, behind⟩ := exists_readBehind ordered laterOrdered beyond here
  have within := Text.place_le_length text range.stop
  have laterPlaces := Text.place_mono text laterOrdered
  have first : min (place text later.start) (place text later.stop) = place text range.stop := by
    omega
  have inserted
      : (applyOriginal text text (replacing later [char]))[place text range.stop]?
        = some char := by
    rw [applyOriginal_replacing, ← first]
    exact Text.getElem?_replaceBetween_self (first ▸ within) char
  have untouched
      : (applyOriginal text text (replacing later [char])).take (place text range.stop)
        = text.take (place text range.stop) := by
    rw [applyOriginal_replacing]
    exact Text.take_replaceBetween_of_le within (Nat.le_of_eq first.symm) _
  obtain ⟨kept, misread⟩ := readBehind_misread ordered behind inserted differ
  have front := Text.take_of_take (Text.place_mono text ordered) untouched
  exact ⟨_, char, ordinary, rfl, untouched, kept.trans front, misread⟩

/-- A range does not meet the next one behind it, if all are always applied as they are meant
and those before the range do not meet it.
-/
theorem not_meets_next {text : List Char} (plain : '\r' ∉ text) {front back : List Range}
    {later range : Range} (backwards : Range.Backwards (front ++ later :: range :: back))
    (onLines : ∀ other ∈ front ++ later :: range :: back, OnLines text other.stop)
    (alike : AlwaysAlike text (front ++ later :: range :: back))
    (apart : ∀ earlier ∈ back, ¬ Meets text earlier range)
    : ¬ Meets text range later := by
  intro meets
  obtain ⟨orderedFront, orderedRest⟩ := List.forall_mem_append.mp backwards.ordered
  obtain ⟨laterOrdered, orderedRest⟩ := List.forall_mem_cons.mp orderedRest
  obtain ⟨ordered, orderedBack⟩ := List.forall_mem_cons.mp orderedRest
  obtain ⟨onLinesFront, onLinesRest⟩ := List.forall_mem_append.mp onLines
  obtain ⟨-, rest, -⟩ := List.pairwise_append.mp backwards.apart
  have ahead := (List.pairwise_cons.mp (List.pairwise_cons.mp rest).2).1
  obtain ⟨edited, char, ordinary, edit, untouched, kept, misread⟩ :=
    exists_misread plain ordered laterOrdered meets
  have pair
      : AlwaysAlike text
          (front ++ ([replacing later [char], replacing range ['y']].map (·.range) ++ back)) :=
    alike
  have same := pair.within plain ?_ orderedFront ?_
  · have first
        : applyCurrent text (replacing later [char])
          = applyOriginal text text (replacing later [char]) :=
      applyCurrent_of_onLines laterOrdered (onLinesRest later List.mem_cons_self)
    simp only [List.foldl_cons, List.foldl_nil] at same
    rw [first, ← edit, foldl_keeping, foldl_keeping] at same
    · exact misread same
    · intro other member
      have before := Text.place_mono text (ahead other member)
      refine applyOriginal_keeping (orderedBack other member) ?_
      rw [applyOriginal_replacing]
      exact Text.take_replaceBetween (Text.place_mono text ordered)
        (Text.place_le_length text _) before untouched
    · intro other member
      have within := Text.place_le_length text range.start
      have settles := settles_of_not_meets plain (ahead other member) (apart other member)
      refine applyCurrent_keeping (orderedBack other member) ?_ ?_ ?_
      · exact Text.take_of_take (Text.place_mono text (ahead other member)) kept
      · exact Text.editorPlace_of_settles within kept
          (settles.of_before (Text.before_of_isLe (orderedBack other member)))
      · exact Text.editorPlace_of_settles within kept settles
  · exact List.forall_mem_cons.mpr
      ⟨replacing_plain later (mt List.mem_singleton.mp ordinary.symm),
        List.forall_mem_singleton.mpr (replacing_plain range (by decide))⟩
  · intro other member
    rw [applyCurrent_of_onLines (orderedFront other member) (onLinesFront other member)]
    exact applyOriginal_keeping (orderedFront other member) rfl

-----------------------------------------------------------------------------------------
-- All ranges
-----------------------------------------------------------------------------------------

/-- Ranges that are always applied as they are meant end on the lines, by induction on them
from the start of the text.
-/
theorem all_onLines {text : List Char} (plain : '\r' ∉ text) {front back : List Range}
    (backwards : Range.Backwards (front ++ back)) (alike : AlwaysAlike text (front ++ back))
    : ∀ range ∈ back, OnLines text range.stop := by
  induction back generalizing front with
  | nil => exact fun range member => absurd member List.not_mem_nil
  | cons range back ih =>
      have earlier : ∀ other ∈ back, OnLines text other.stop := by
        have passed := backwards
        have passedAlike := alike
        rw [List.append_cons] at passed passedAlike
        exact ih passed passedAlike
      exact List.forall_mem_cons.mpr
        ⟨onLines_of_alwaysAlike plain backwards alike earlier, earlier⟩

/-- A range that meets one behind it meets each one between them, too. -/
theorem meets_between {text : List Char} (plain : '\r' ∉ text) {earlier middle later : Range}
    (before : earlier.stop.isLe middle.start = true)
    (ordered : middle.start.isLe middle.stop = true)
    (between : middle.stop.isLe later.start = true) (meets : Meets text earlier later)
    : Meets text earlier middle := by
  obtain ⟨_, beyond, bytes⟩ := meets
  have here := (byteOffset_eq_iff plain).mp bytes
  have first := Text.place_mono text before
  have last := Text.place_mono text (Position.isLe_trans ordered between)
  exact ⟨before, beyond, (byteOffset_eq_iff plain).mpr (by omega)⟩

/-- Ranges that are always applied as they are meant do not meet, by induction on them from the
start of the text: a range that met another one would meet the next one.
-/
theorem all_apart {text : List Char} (plain : '\r' ∉ text) {front back : List Range}
    (backwards : Range.Backwards (front ++ back))
    (onLines : ∀ range ∈ front ++ back, OnLines text range.stop)
    (alike : AlwaysAlike text (front ++ back))
    : back.Pairwise fun later earlier => ¬ Meets text earlier later := by
  induction back generalizing front with
  | nil => exact List.Pairwise.nil
  | cons later back ih =>
      have rest : back.Pairwise fun later earlier => ¬ Meets text earlier later := by
        have passed := backwards
        have passedLines := onLines
        have passedAlike := alike
        rw [List.append_cons] at passed passedLines passedAlike
        exact ih passed passedLines passedAlike
      refine List.pairwise_cons.mpr ⟨?_, rest⟩
      cases back with
      | nil => exact fun earlier member => absurd member List.not_mem_nil
      | cons range back =>
          obtain ⟨clear, -⟩ := List.pairwise_cons.mp rest
          have next := not_meets_next plain backwards onLines alike clear
          obtain ⟨-, behind, -⟩ := List.pairwise_append.mp backwards.apart
          obtain ⟨behindLater, behindRest⟩ := List.pairwise_cons.mp behind
          have ordered : range.start.isLe range.stop = true :=
            backwards.ordered range
              (List.mem_append_right front (List.mem_cons_of_mem later List.mem_cons_self))
          refine List.forall_mem_cons.mpr ⟨next, fun earlier member meets => ?_⟩
          exact clear earlier member (meets_between plain
            ((List.pairwise_cons.mp behindRest).1 earlier member) ordered
            (behindLater range List.mem_cons_self) meets)

/-- A range that meets one which does not start behind it is an insertion at the same
position, and so is the other one if insertions are listed first. Then these meet, too.
-/
theorem meets_of_isLe {text : List Char} {a b : Range}
    (orderedB : b.start.isLe b.stop = true)
    (insertion : a.start = b.start → a.stop = a.start) (starts : a.start.isLe b.start = true)
    (meets : Meets text b a)
    : Meets text a b := by
  obtain ⟨ends, beyond, bytes⟩ := meets
  have stop : b.stop = b.start :=
    Position.isLe_antisymm (Position.isLe_trans ends starts) orderedB
  have start : a.start = b.start := Position.isLe_antisymm starts (stop ▸ ends)
  have stopA : a.stop = b.start := (insertion start).trans start
  rw [stop] at beyond
  exact ⟨stopA ▸ Position.isLe_refl _, stopA ▸ beyond, congrArg _ stopA⟩

/-- A range does not meet one that starts behind it, however the two are listed, if no range
meets an earlier one from the last to the first.
-/
theorem apart_of_behind {text : List Char} {ranges : List Range} (valid : ValidRanges ranges)
    (apart
      : (Range.lastFirst ranges).Pairwise fun later earlier => ¬ Meets text earlier later)
    : ranges.Pairwise fun a b =>
        (a.start.isLe b.start = false → ¬ Meets text b a)
        ∧ (b.start.isLe a.start = false → ¬ Meets text a b) := by
  have backwards := valid.backwards
  have sorted
      : (Range.lastFirst ranges).Pairwise fun a b =>
          (a.start.isLe b.start = false → ¬ Meets text b a)
          ∧ (b.start.isLe a.start = false → ¬ Meets text a b) := by
    refine (apart.and backwards.apart).imp_of_mem ?_
    intro later earlier _ member both
    have starts := Position.isLe_trans (backwards.ordered earlier member) both.2
    exact ⟨fun _ => both.1, fun behind => absurd (starts.symm.trans behind) nofun⟩
  exact ((Range.lastFirst_perm ranges).pairwise_iff fun both => ⟨both.2, both.1⟩).mp sorted

/-- Ranges that do not meet from the last to the first do not meet at all. -/
theorem apart_of_lastFirst {text : List Char} {ranges : List Range} (valid : ValidRanges ranges)
    (apart
      : (Range.lastFirst ranges).Pairwise fun later earlier => ¬ Meets text earlier later)
    : ranges.Pairwise fun a b => ¬ Meets text a b ∧ ¬ Meets text b a := by
  refine List.pairwise_iff_forall_sublist.mpr fun {a b} among => ?_
  have memberA : a ∈ ranges := among.subset List.mem_cons_self
  have memberB : b ∈ ranges := among.subset (List.mem_cons_of_mem a List.mem_cons_self)
  have first : ¬ Meets text a b := by
    intro meets
    have starts := Position.isLe_trans (valid.ordered a memberA) meets.1
    have swapped := Range.lastFirst_swaps among starts
    exact List.pairwise_iff_forall_sublist.mp apart swapped meets
  refine ⟨first, ?_⟩
  cases starts : a.start.isLe b.start with
  | true =>
      have insertion := List.pairwise_iff_forall_sublist.mp valid.insertionsFirst among
      exact mt (meets_of_isLe (valid.ordered b memberB) insertion starts) first
  | false =>
      exact (List.pairwise_iff_forall_sublist.mp (apart_of_behind valid apart) among).1 starts

/-- Edits that are applied in an editor as they are meant, whatever the new texts of their
ranges are, have ranges that the editor finds.
-/
theorem readsAlike_of_alike {text : List Char} (plain : '\r' ∉ text) {ranges : List Range}
    (valid : ValidRanges ranges)
    (alike
      : ∀ edits : List TextEdit,
          edits.map (·.range) = ranges
          → (∀ edit ∈ edits, '\r' ∉ edit.newText.toList)
          → Alike text edits)
    : ReadsAlike text ranges := by
  have always : AlwaysAlike text ([] ++ Range.lastFirst ranges) := by
    intro sorted inOrder plainSorted
    obtain ⟨edits, same, rfl⟩ := exists_applicationOrder_eq inOrder
    exact alike edits same fun edit member => plainSorted edit (mem_applicationOrder.mpr member)
  have onLines := all_onLines plain valid.backwards always
  exact ⟨fun range member => onLines range (Range.mem_lastFirst.mpr member),
    apart_of_lastFirst valid (all_apart plain valid.backwards onLines always)⟩

end TextEdit

end LanguageClient
