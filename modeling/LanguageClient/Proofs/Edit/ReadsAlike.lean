import LanguageClient.Proofs.Edit.Application

/-! Which ranges an editor finds where they are. It reads each range in the text that the
edits behind it have left, so a range is lost if it ends past a last line that is not empty, or
past the end of a line where an edit behind it starts.
-/

namespace LanguageClient

open Text (place editorPlace replaceBetween Overhangs OnLines)

/-- A range ends past the end of a line, and another one that is not before it starts at the
same place.
-/
def Meets (text : List Char) (earlier later : Range) : Prop :=
  earlier.stop.isLe later.start = true
  ∧ Overhangs text earlier.stop
  ∧ TextEdit.byteOffset text earlier.stop = TextEdit.byteOffset text later.start

instance (text : List Char) (earlier later : Range) : Decidable (Meets text earlier later) :=
  inferInstanceAs (Decidable (_ ∧ _))

/-- Ranges that an editor finds where they are in a text: each ends on the lines, and no two
meet past the end of a line.
-/
structure ReadsAlike (text : List Char) (ranges : List Range) : Prop where
  onLines : ∀ range ∈ ranges, OnLines text range.stop
  apart : ranges.Pairwise fun a b => ¬ Meets text a b ∧ ¬ Meets text b a

/-- Two positions are at one byte if and only if they are at one place. -/
theorem byteOffset_eq_iff {text : List Char} (plain : '\r' ∉ text) {left right : Position}
    : TextEdit.byteOffset text left = TextEdit.byteOffset text right
      ↔ place text left = place text right := by
  rw [Text.byteOffset_eq plain, Text.byteOffset_eq plain]
  constructor
  · intro bytes
    have within := Text.place_le_length text left
    have within' := Text.place_le_length text right
    exact Nat.le_antisymm ((Text.size_take_le_iff within within').mp (Nat.le_of_eq bytes))
      ((Text.size_take_le_iff within' within).mp (Nat.le_of_eq bytes.symm))
  · exact congrArg fun count => Text.Utf8.size (text.take count)

namespace TextEdit

/-- An edit of an edited text, at the places where an editor of that text finds its range. -/
def applyCurrent (edited : List Char) (edit : TextEdit) : List Char :=
  replaceBetween edited (editorPlace edited edit.range.start)
    (editorPlace edited edit.range.stop) edit.newText.toList

/-- Edits are applied in an editor as they are meant. -/
def Alike (text : List Char) (edits : List TextEdit) : Prop :=
  (applicationOrder edits).foldl applyCurrent text
    = (applicationOrder edits).foldl (applyOriginal text) text

/-- Both ends of each of some edits are found where they are in the original text. -/
def Found (text edited : List Char) (edits : List TextEdit) : Prop :=
  ∀ edit ∈ edits,
    editorPlace edited edit.range.start = place text edit.range.start
    ∧ editorPlace edited edit.range.stop = place text edit.range.stop

/-- The end of a range settles before a range behind it unless the two meet. -/
theorem settles_of_not_meets {text : List Char} (plain : '\r' ∉ text) {earlier later : Range}
    (ordered : earlier.stop.isLe later.start = true) (apart : ¬ Meets text earlier later)
    : Text.Settles text earlier.stop.line.toNat earlier.stop.character.toNat
        (place text later.start) := by
  rcases Nat.lt_or_eq_of_le (Text.place_mono text ordered) with before | same
  · exact Or.inl before
  · refine Or.inr ⟨same, Bool.eq_false_iff.mpr fun beyond => apart ⟨ordered, ?_, ?_⟩⟩
    · exact Text.overhangs_iff.mpr beyond
    · exact (byteOffset_eq_iff plain).mpr same

/-- An edit leaves the ranges of later ones where they are if it meets none of them. -/
theorem found_apply {text edited : List Char} (plain : '\r' ∉ text) {edit : TextEdit}
    {rest : List TextEdit} (backwards : Range.Backwards ((edit :: rest).map (·.range)))
    (untouched : Untouched text edited (edit :: rest))
    (apart : ∀ later ∈ rest, ¬ Meets text later.range edit.range)
    : Found text (applyOriginal text edited edit) rest := by
  intro later member
  have ordered := backwards.ordered edit.range List.mem_cons_self
  have known : later.range ∈ rest.map (·.range) := List.mem_map_of_mem member
  have ahead := (List.pairwise_cons.mp backwards.apart).1 later.range known
  have stop := settles_of_not_meets plain ahead (apart later member)
  have start := stop.of_before
    (Text.before_of_isLe (backwards.tail.ordered later.range known))
  have kept
      : (applyOriginal text edited edit).take (place text edit.range.start)
        = text.take (place text edit.range.start) :=
    Text.take_replaceBetween (Text.place_mono text ordered) (Text.place_le_length text _)
      (Nat.le_refl _) (untouched edit List.mem_cons_self)
  have within := Text.place_le_length text edit.range.start
  exact ⟨Text.editorPlace_of_settles within kept start,
    Text.editorPlace_of_settles within kept stop⟩

/-- An editor that finds each range applies edits as they are meant, by induction on them. -/
theorem foldl_applyCurrent {text : List Char} (plain : '\r' ∉ text) {edits : List TextEdit}
    (backwards : Range.Backwards (edits.map (·.range)))
    (apart : edits.Pairwise fun first second => ¬ Meets text second.range first.range)
    {edited : List Char} (untouched : Untouched text edited edits)
    (found : Found text edited edits)
    : edits.foldl applyCurrent edited = edits.foldl (applyOriginal text) edited := by
  induction edits generalizing edited with
  | nil => rfl
  | cons edit rest ih =>
      obtain ⟨clear, later⟩ := List.pairwise_cons.mp apart
      have same : applyCurrent edited edit = applyOriginal text edited edit := by
        obtain ⟨start, stop⟩ := found edit List.mem_cons_self
        rw [applyCurrent, start, stop]
        rfl
      rw [List.foldl_cons, List.foldl_cons, same]
      exact ih backwards.tail later (untouched.apply backwards)
        (found_apply plain backwards untouched clear)

/-- Edits of ranges that an editor finds are applied as they are meant. -/
theorem alike_of_readsAlike {text : List Char} (plain : '\r' ∉ text)
    {edits : List TextEdit} (valid : ValidRanges (edits.map (·.range)))
    (alike : ReadsAlike text (edits.map (·.range)))
    : Alike text edits := by
  refine foldl_applyCurrent plain (backwards_applicationOrder valid) ?_ (fun _ _ => rfl) ?_
  · have apart
        : (Range.lastFirst (edits.map (·.range))).Pairwise fun first second =>
            ¬ Meets text second first :=
      Range.lastFirst_pairwise
        (alike.apart.imp fun apart => ⟨fun _ => apart.1, fun _ => apart.2⟩)
    rw [← map_applicationOrder] at apart
    exact List.pairwise_map.mp apart
  · intro edit member
    have known := List.mem_map_of_mem (f := (·.range)) (mem_applicationOrder.mp member)
    have onLines := alike.onLines _ known
    exact ⟨(onLines.of_isLe (valid.ordered _ known)).editorPlace_eq, onLines.editorPlace_eq⟩

end TextEdit

end LanguageClient
