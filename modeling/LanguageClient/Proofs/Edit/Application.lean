import LanguageClient.Proofs.Edit.Places
import LanguageClient.Proofs.Edit.Replacement
import LanguageClient.Proofs.Text.Boundaries

/-! Edits that do not overlap, applied by bytes. Each byte is one of the original text, and
what is before it is still there when its turn comes.
-/

namespace LanguageClient

open Text (place replaceBetween)

namespace TextEdit

/-- An edit of an edited text, at the places that its range has in the original text. -/
def applyOriginal (text edited : List Char) (edit : TextEdit) : List Char :=
  replaceBetween edited (place text edit.range.start) (place text edit.range.stop)
    edit.newText.toList

/-- Edits that do not overlap are applied from the end of the text to its start. -/
theorem backwards_applicationOrder {edits : List TextEdit}
    (valid : ValidRanges (edits.map (·.range)))
    : Range.Backwards ((applicationOrder edits).map (·.range)) := by
  rw [map_applicationOrder]
  exact valid.backwards

/-- Nothing before the end of each of some edits is edited yet. -/
def Untouched (text edited : List Char) (edits : List TextEdit) : Prop :=
  ∀ edit ∈ edits,
    edited.take (place text edit.range.stop) = text.take (place text edit.range.stop)

/-- An edit keeps what later ones refer to. -/
theorem Untouched.apply {text edited : List Char} {edit : TextEdit} {rest : List TextEdit}
    (untouched : Untouched text edited (edit :: rest))
    (backwards : Range.Backwards ((edit :: rest).map (·.range)))
    : Untouched text (applyOriginal text edited edit) rest := by
  intro later member
  refine Text.take_replaceBetween ?_ (Text.place_le_length text _) ?_
    (untouched edit List.mem_cons_self)
  · exact Text.place_mono text (backwards.ordered edit.range List.mem_cons_self)
  · exact Text.place_mono text
      ((List.pairwise_cons.mp backwards.apart).1 later.range (List.mem_map_of_mem member))

/-- The replacement of the bytes from the start of an edit's range up to its end. -/
def placed (text : List Char) (edit : TextEdit) : Splice where
  start := byteOffset text edit.range.start
  stop := byteOffset text edit.range.stop
  newText := edit.newText.toList

theorem resolve_eq_placed (text : List Char) {edit : TextEdit}
    (ordered : edit.range.start.isLe edit.range.stop = true)
    : resolve text edit = placed text edit := by
  have bytes := Text.byteOffset_mono text ordered
  rw [resolve, Nat.min_eq_left bytes, Nat.max_eq_right bytes, placed]

/-- The bytes of a range in the original text are those of its places in the edited one. -/
theorem apply_resolve {text edited : List Char} {edit : TextEdit} (plain : '\r' ∉ text)
    (ordered : edit.range.start.isLe edit.range.stop = true)
    (kept
      : edited.take (place text edit.range.stop) = text.take (place text edit.range.stop))
    : (resolve text edit).apply edited = applyOriginal text edited edit := by
  have places := Text.place_mono text ordered
  have start
      : text.take (place text edit.range.start) = edited.take (place text edit.range.start) :=
    (Text.take_of_take places kept).symm
  rw [applyOriginal, Text.replaceBetween_of_le places, resolve_eq_placed text ordered,
    Splice.apply, placed, Text.byteOffset_eq plain, Text.byteOffset_eq plain]
  change (splitAtByte edited (Text.Utf8.size (text.take (place text _)))).1 ++ _
    ++ (splitAtByte edited (Text.Utf8.size (text.take (place text _)))).2 = _
  rw [start, ← kept, Text.splitAtByte_size, Text.splitAtByte_size]

/-- The splices of edits are applied at the original places, by induction on the edits: each
keeps what the later ones refer to.
-/
theorem foldl_resolve {text : List Char} (plain : '\r' ∉ text) {edits : List TextEdit}
    (backwards : Range.Backwards (edits.map (·.range))) {edited : List Char}
    (untouched : Untouched text edited edits)
    : (edits.map (resolve text)).foldl (fun edited splice => splice.apply edited) edited
      = edits.foldl (applyOriginal text) edited := by
  induction edits generalizing edited with
  | nil => rfl
  | cons edit rest ih =>
      rw [List.map_cons, List.foldl_cons, List.foldl_cons,
        apply_resolve plain (backwards.ordered edit.range List.mem_cons_self)
          (untouched edit List.mem_cons_self)]
      exact ih backwards.tail (untouched.apply backwards)

/-- The splices of edits from the end of a text to its start are in their order. -/
theorem splices_eq (text : List Char) {edits : List TextEdit}
    (valid : ValidRanges (edits.map (·.range)))
    : splices text edits = (applicationOrder edits).map (resolve text) := by
  have backwards := backwards_applicationOrder valid
  refine List.mergeSort_of_pairwise (List.pairwise_map.mpr ?_)
  refine (List.pairwise_map.mp backwards.apart).imp_of_mem ?_
  intro first second memberFirst memberSecond apart
  have ordered {edit : TextEdit} (member : edit ∈ applicationOrder edits) :=
    backwards.ordered edit.range (List.mem_map_of_mem member)
  rw [decide_eq_true_eq, resolve_eq_placed text (ordered memberFirst),
    resolve_eq_placed text (ordered memberSecond)]
  exact Text.byteOffset_mono text (Position.isLe_trans (ordered memberSecond) apart)

/-- Edits that do not overlap are applied at the places that they have in the text. -/
theorem applyAll_eq {text : List Char} (plain : '\r' ∉ text) {edits : List TextEdit}
    (valid : ValidRanges (edits.map (·.range)))
    : applyAll edits (String.ofList text)
      = String.ofList ((applicationOrder edits).foldl (applyOriginal text) text) := by
  rw [applyAll, String.toList_ofList, splices_eq text valid,
    foldl_resolve plain (backwards_applicationOrder valid) fun edit _ => rfl]

end TextEdit

end LanguageClient
