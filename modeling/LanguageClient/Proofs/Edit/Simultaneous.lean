import LanguageClient.Proofs.Edit.Application

/-! Edits that do not overlap are made all at once. What they leave is what stands between their
ranges in the original text, with the new texts in between, from the start of the text to its
end. Only the order of edits with one start counts.
-/

namespace LanguageClient

-----------------------------------------------------------------------------------------
-- Sorting by keys
-----------------------------------------------------------------------------------------

/-- Sorting leaves items in their order that it does not tell apart. -/
theorem filter_mergeSort {α : Type} {le : α → α → Bool}
    (trans : ∀ a b c, le a b = true → le b c = true → le a c = true)
    (total : ∀ a b, (le a b || le b a) = true) {test : α → Bool}
    (alike : ∀ a b, test a = true → test b = true → le a b = true) (items : List α)
    : (items.mergeSort le).filter test = items.filter test := by
  have ordered : (items.filter test).Pairwise fun a b => le a b = true :=
    List.pairwise_of_forall_mem_list fun a first b second =>
      alike a b (List.mem_filter.mp first).2 (List.mem_filter.mp second).2
  have kept : (items.filter test).Sublist (items.mergeSort le) :=
    List.sublist_mergeSort trans total ordered List.filter_sublist
  have among := kept.filter test
  have again : (items.filter test).filter test = items.filter test :=
    List.filter_eq_self.mpr fun item member => (List.mem_filter.mp member).2
  rw [again] at among
  have size := ((List.mergeSort_perm items le).filter test).length_eq
  exact (among.eq_of_length size.symm).symm

/-- Items in the order of their keys are known by those of each key, by induction on them: the
first ones have the same key.
-/
theorem eq_of_filter_eq {α κ : Type} [DecidableEq κ] (key : α → κ) {le : κ → κ → Prop}
    (antisymm : ∀ a b, le a b → le b a → a = b) {left right : List α}
    (orderedLeft : left.Pairwise fun a b => le (key a) (key b))
    (orderedRight : right.Pairwise fun a b => le (key a) (key b))
    (same
      : ∀ value,
          left.filter (fun item => key item = value)
            = right.filter fun item => key item = value)
    : left = right := by
  induction left generalizing right with
  | nil =>
      cases right with
      | nil => rfl
      | cons item rest =>
          have none := same (key item)
          rw [List.filter_cons, if_pos (decide_eq_true rfl)] at none
          cases none
  | cons first left ih =>
      have here {item : α} : item ∈ first :: left ↔ item ∈ right := by
        have member (items : List α) (item : α)
            : item ∈ items ↔ item ∈ items.filter fun other => key other = key item := by
          rw [List.mem_filter, decide_eq_true_eq]
          exact (and_iff_left rfl).symm
        rw [member (first :: left), same, ← member]
      cases right with
      | nil => cases here.mp List.mem_cons_self
      | cons other right =>
          obtain ⟨behind, laterLeft⟩ := List.pairwise_cons.mp orderedLeft
          obtain ⟨behind', laterRight⟩ := List.pairwise_cons.mp orderedRight
          -- Each of the two stands in the other list, so neither key comes later.
          have keys : key first = key other := by
            rcases List.mem_cons.mp (here.mp List.mem_cons_self) with rfl | later
            · rfl
            rcases List.mem_cons.mp (here.mpr List.mem_cons_self) with rfl | later'
            · rfl
            exact antisymm _ _ (behind other later') (behind' first later)
          have heads := same (key first)
          rw [List.filter_cons, List.filter_cons, if_pos (decide_eq_true rfl),
            if_pos (decide_eq_true keys.symm)] at heads
          obtain ⟨rfl, -⟩ := List.cons.inj heads
          refine congrArg (first :: ·) (ih laterLeft laterRight fun value => ?_)
          have tails := same value
          rw [List.filter_cons, List.filter_cons] at tails
          by_cases mine : decide (key first = value) = true
          · rw [if_pos mine, if_pos mine] at tails
            exact (List.cons.inj tails).2
          · rwa [if_neg mine, if_neg mine] at tails

namespace TextEdit

-----------------------------------------------------------------------------------------
-- Splices
-----------------------------------------------------------------------------------------

/-- The characters between two bytes of a text. -/
def between (text : List Char) (start stop : Nat) : List Char :=
  (splitAtByte (splitAtByte text stop).1 start).2

/-- A text from a byte on with splices in it, which are given from its start to its end: what
stands between them is kept.
-/
def weave (text : List Char) (start : Nat) : List Splice → List Char
  | [] => (splitAtByte text start).2
  | splice :: rest =>
    between text start splice.start ++ splice.newText ++ weave text splice.stop rest

/-- Splices of a text from its start to its end: each is of whole characters, and none reaches
into the next one.
-/
structure Ascending (text : List Char) (splices : List Splice) : Prop where
  fits : ∀ splice ∈ splices, splice.fits text = true
  apart : splices.Pairwise fun first second => first.stop ≤ second.start

/-- A splice fits a text if it is of the characters between two places. -/
theorem fits_iff {splice : Splice} {text : List Char}
    : splice.fits text = true
      ↔ ∃ first last,
          first ≤ last
          ∧ last ≤ text.length
          ∧ Text.Utf8.size (text.take first) = splice.start
          ∧ Text.Utf8.size (text.take last) = splice.stop := by
  rw [Splice.fits, Bool.and_eq_true, Bool.and_eq_true, decide_eq_true_eq, Text.isBoundary_iff,
    Text.isBoundary_iff]
  constructor
  · rintro ⟨⟨ordered, first, within, start⟩, last, within', stop⟩
    refine ⟨first, last, (Text.size_take_le_iff within within').mp ?_, within', start, stop⟩
    rwa [start, stop]
  · rintro ⟨first, last, ordered, within, start, stop⟩
    have within' : first ≤ text.length := Nat.le_trans ordered within
    refine ⟨⟨?_, first, within', start⟩, last, within, stop⟩
    rw [← start, ← stop]
    exact (Text.size_take_le_iff within' within).mpr ordered

/-- A splice of a text fits any other one that starts alike, and leaves what is behind it. -/
theorem apply_take_append {splice : Splice} {text : List Char} {first last : Nat}
    (ordered : first ≤ last) (within : last ≤ text.length)
    (start : Text.Utf8.size (text.take first) = splice.start)
    (stop : Text.Utf8.size (text.take last) = splice.stop) (back : List Char)
    : splice.fits (text.take last ++ back) = true
      ∧ splice.apply (text.take last ++ back)
        = text.take first ++ splice.newText ++ back := by
  have front : (text.take last).length = last := List.length_take_of_le within
  have before
      : (text.take last ++ back).take first = text.take first :=
    Text.take_front_append ordered (Nat.le_trans ordered within) back
  have upTo : (text.take last ++ back).take last = text.take last :=
    Text.take_front_append (Nat.le_refl last) within back
  have behind : (text.take last ++ back).drop last = back := by
    rw [List.drop_append_of_le_length (Nat.le_of_eq front.symm), List.drop_take, Nat.sub_self,
      List.take_zero, List.nil_append]
  constructor
  · refine fits_iff.mpr ⟨first, last, ordered, ?_, ?_, ?_⟩
    · rw [List.length_append, front]
      exact Nat.le_add_right _ _
    · rw [before, start]
    · rw [upTo, stop]
  · have atStart := Text.splitAtByte_size (text.take last ++ back) first
    have atStop := Text.splitAtByte_size (text.take last ++ back) last
    rw [before, start] at atStart
    rw [upTo, behind, stop] at atStop
    rw [Splice.apply, atStart, atStop]

theorem allFit_append (front back : List Splice) (text : List Char)
    : Splice.allFit (front ++ back) text
      = (Splice.allFit front text
        && Splice.allFit back
          (front.foldl (fun edited splice => splice.apply edited) text)) := by
  induction front generalizing text with
  | nil => rfl
  | cons splice front ih =>
      rw [List.cons_append, Splice.allFit, Splice.allFit, ih, Bool.and_assoc]
      rfl

/-- Splices are made from the last to the first, each where it is in the original text: what is
in front of it has not been touched yet. By induction on them, from the last to the first.
-/
theorem Ascending.applies {text : List Char} {splices : List Splice}
    (ascending : Ascending text splices) {count : Nat} (within : count ≤ text.length)
    (behind : ∀ splice ∈ splices, Text.Utf8.size (text.take count) ≤ splice.start)
    : Splice.allFit splices.reverse text = true
      ∧ splices.reverse.foldl (fun edited splice => splice.apply edited) text
        = text.take count ++ weave text (Text.Utf8.size (text.take count)) splices := by
  induction splices generalizing count with
  | nil =>
      refine ⟨rfl, ?_⟩
      rw [weave, Text.splitAtByte_size]
      exact (List.take_append_drop count text).symm
  | cons splice rest ih =>
      obtain ⟨apart, laterApart⟩ := List.pairwise_cons.mp ascending.apart
      obtain ⟨first, last, ordered, inside, start, stop⟩ :=
        fits_iff.mp (ascending.fits splice List.mem_cons_self)
      have later : Ascending text rest :=
        ⟨fun other member => ascending.fits other (List.mem_cons_of_mem _ member), laterApart⟩
      obtain ⟨restFit, restMade⟩ := ih later inside fun other member =>
        Nat.le_trans (Nat.le_of_eq stop) (apart other member)
      have ahead : count ≤ first := by
        refine (Text.size_take_le_iff within (Nat.le_trans ordered inside)).mp ?_
        rw [start]
        exact behind splice List.mem_cons_self
      obtain ⟨splits, made⟩ := apply_take_append ordered inside start stop
        (weave text (Text.Utf8.size (text.take last)) rest)
      have gap
          : between text (Text.Utf8.size (text.take count)) splice.start
            = (text.take first).drop count := by
        have kept : (text.take first).take count = text.take count := by
          rw [List.take_take, Nat.min_eq_left ahead]
        rw [between, ← start, Text.splitAtByte_size, ← kept, Text.splitAtByte_size]
      rw [List.reverse_cons, allFit_append, List.foldl_append, restMade]
      refine ⟨?_, ?_⟩
      · rw [restFit, Bool.true_and, Splice.allFit, splits]
        rfl
      · have joined : text.take count ++ (text.take first).drop count = text.take first := by
          have cut := List.take_append_drop count (text.take first)
          rwa [List.take_take, Nat.min_eq_left ahead] at cut
        rw [weave, gap, List.foldl_cons, List.foldl_nil, made, stop, List.append_assoc,
          List.append_assoc, ← List.append_assoc (text.take count), joined]

/-- Splices that are in order from the end of the text to its start can all be made. -/
theorem applyAll?_of_ascending {edits : List TextEdit} {text : String} {ascending : List Splice}
    (inOrder : splices text.toList edits = ascending.reverse)
    (sound : Ascending text.toList ascending)
    : applyAll? edits text = some (String.ofList (weave text.toList 0 ascending)) := by
  obtain ⟨fits, made⟩ := sound.applies (Nat.zero_le _) fun splice _ => Nat.zero_le _
  rw [applyAll?, applyAll, inOrder, fits, made]
  rfl

-----------------------------------------------------------------------------------------
-- Edits
-----------------------------------------------------------------------------------------

/-- The edits from the first start to the last. Those with one start keep their order. -/
def inOrder (edits : List TextEdit) : List TextEdit :=
  edits.mergeSort fun left right => left.range.start.isLe right.range.start

theorem filter_applicationOrder (edits : List TextEdit) (start : Position)
    : (applicationOrder edits).filter (fun edit => edit.range.start = start)
      = (edits.filter fun edit => edit.range.start = start).reverse := by
  rw [applicationOrder, ← List.filter_reverse]
  refine filter_mergeSort ?_ ?_ ?_ _
  · exact fun a b c first second => Position.isLe_trans second first
  · exact fun a b => Position.isLe_total _ _
  · intro a b first second
    rw [of_decide_eq_true first, of_decide_eq_true second]
    exact Position.isLe_refl start

theorem filter_inOrder (edits : List TextEdit) (start : Position)
    : (inOrder edits).filter (fun edit => edit.range.start = start)
      = edits.filter fun edit => edit.range.start = start := by
  refine filter_mergeSort ?_ ?_ ?_ _
  · exact fun a b c first second => Position.isLe_trans first second
  · exact fun a b => Position.isLe_total _ _
  · intro a b first second
    rw [of_decide_eq_true first, of_decide_eq_true second]
    exact Position.isLe_refl start

theorem applicationOrder_pairwise (edits : List TextEdit)
    : (applicationOrder edits).Pairwise fun a b =>
        b.range.start.isLe a.range.start = true := by
  refine List.pairwise_mergeSort ?_ ?_ _
  · exact fun a b c first second => Position.isLe_trans second first
  · exact fun a b => Position.isLe_total _ _

theorem inOrder_pairwise (edits : List TextEdit)
    : (inOrder edits).Pairwise fun a b => a.range.start.isLe b.range.start = true := by
  refine List.pairwise_mergeSort ?_ ?_ _
  · exact fun a b c first second => Position.isLe_trans first second
  · exact fun a b => Position.isLe_total _ _

/-- Edits are applied backwards, those with one start included. -/
theorem applicationOrder_eq (edits : List TextEdit)
    : applicationOrder edits = (inOrder edits).reverse := by
  refine eq_of_filter_eq (fun edit : TextEdit => edit.range.start)
    (fun a b first second => Position.isLe_antisymm second first)
    (applicationOrder_pairwise edits) (List.pairwise_reverse.mpr (inOrder_pairwise edits))
    fun start => ?_
  rw [filter_applicationOrder, List.filter_reverse, filter_inOrder]

/-- Only the order of edits with one start counts. -/
theorem applyAll?_congr {edits other : List TextEdit}
    (same
      : ∀ start,
          other.filter (fun edit => edit.range.start = start)
            = edits.filter fun edit => edit.range.start = start)
    (text : String)
    : applyAll? other text = applyAll? edits text := by
  have order : applicationOrder other = applicationOrder edits := by
    refine eq_of_filter_eq (fun edit : TextEdit => edit.range.start)
      (fun a b first second => Position.isLe_antisymm second first)
      (applicationOrder_pairwise other) (applicationOrder_pairwise edits) fun start => ?_
    rw [filter_applicationOrder, filter_applicationOrder, same]
  rw [applyAll?, applyAll?, applyAll, applyAll, splices, splices, order]

/-- Edits that do not overlap are of bytes that do not. -/
theorem ascending_placed (text : List Char) {edits : List TextEdit}
    (valid : ValidRanges (edits.map (·.range)))
    : Ascending text ((inOrder edits).map (placed text)) := by
  have backwards := backwards_applicationOrder valid
  rw [applicationOrder_eq, List.map_reverse] at backwards
  have ordered {edit : TextEdit} (member : edit ∈ inOrder edits)
      : edit.range.start.isLe edit.range.stop = true :=
    backwards.ordered edit.range (List.mem_reverse.mpr (List.mem_map_of_mem member))
  constructor
  · intro splice member
    obtain ⟨edit, listed, rfl⟩ := List.mem_map.mp member
    have bytes := Text.byteOffset_mono text (ordered listed)
    rw [Splice.fits, Bool.and_eq_true, Bool.and_eq_true, decide_eq_true_eq]
    exact ⟨⟨bytes, Text.byteOffset_isBoundary text _⟩, Text.byteOffset_isBoundary text _⟩
  · have apart := List.pairwise_map.mp (List.pairwise_reverse.mp backwards.apart)
    exact List.pairwise_map.mpr (apart.imp fun apart => Text.byteOffset_mono text apart)

/-- Edits that do not overlap are made all at once: what stands between their ranges in the
original text is kept, and the new texts are put in between, in the order of the starts and, at
one start, of the list. So edits with different starts may be listed in any order.
-/
theorem applyAll_simultaneous (text : String) {edits : List TextEdit}
    (valid : ValidRanges (edits.map (·.range)))
    : let splices := (inOrder edits).map (placed text.toList)
      Ascending text.toList splices
      ∧ applyAll? edits text = some (String.ofList (weave text.toList 0 splices))
      ∧ ∀ other,
          (∀ start,
            other.filter (fun edit => edit.range.start = start)
              = edits.filter fun edit => edit.range.start = start)
          → applyAll? other text = applyAll? edits text := by
  intro splices
  have ascending : Ascending text.toList splices := ascending_placed text.toList valid
  refine ⟨ascending, applyAll?_of_ascending ?_ ascending, fun other same => applyAll?_congr same text⟩
  rw [splices_eq text.toList valid, ← List.map_reverse, ← applicationOrder_eq]
  refine List.map_congr_left fun edit member => resolve_eq_placed text.toList ?_
  exact (backwards_applicationOrder valid).ordered edit.range (List.mem_map_of_mem member)

/-- The replacement of what is between two positions. -/
def ofPlaces (startLine start stopLine stop : UInt32) (newText : String) : TextEdit where
  range.start := { line := startLine, character := start }
  range.stop := { line := stopLine, character := stop }
  newText := newText

/-- Edits past the last line, at the start of the text, and from past the end of a line up to the
middle of a character that takes two units.
-/
def mixedEdits : List TextEdit :=
  [ofPlaces 7 0 9 0 "!", ofPlaces 0 0 0 0 "u", ofPlaces 0 9 1 1 "-", ofPlaces 0 0 0 1 "v"]

theorem applyAll_simultaneous_of_mixed
    : ValidRanges (mixedEdits.map (·.range))
      ∧ applyAll? mixedEdits "né\r\n𝄞" = some "uvé-!" := by
  have valid : ValidRanges (mixedEdits.map (·.range)) :=
    ⟨by decide +kernel, by decide +kernel, by decide +kernel⟩
  have order
      : inOrder mixedEdits
        = [
            ofPlaces 0 0 0 0 "u", ofPlaces 0 0 0 1 "v", ofPlaces 0 9 1 1 "-",
            ofPlaces 7 0 9 0 "!"
          ] := by
    simp [inOrder, mixedEdits, ofPlaces, List.mergeSort, Position.isLe]
  refine ⟨valid, (applyAll_simultaneous "né\r\n𝄞" valid).2.1.trans ?_⟩
  rw [order]
  decide +kernel

end TextEdit

end LanguageClient
