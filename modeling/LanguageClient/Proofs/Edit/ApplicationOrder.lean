import LanguageClient.Edit

/-! The order in which edits are applied. Edits that do not overlap are applied from the end
of the text to its start, so that none moves what a later one refers to.
-/

namespace LanguageClient

namespace Position

theorem isLe_iff {left right : Position}
    : left.isLe right = true
      ↔ left.line.toNat < right.line.toNat
        ∨ left.line.toNat = right.line.toNat
          ∧ left.character.toNat ≤ right.character.toNat := by
  simp only [isLe, Bool.or_eq_true, Bool.and_eq_true, decide_eq_true_eq, beq_iff_eq,
    UInt32.lt_iff_toNat_lt, UInt32.le_iff_toNat_le, UInt32.toNat_inj]

theorem isLe_refl (position : Position) : position.isLe position = true :=
  isLe_iff.mpr (Or.inr ⟨rfl, Nat.le_refl _⟩)

theorem isLe_trans {left middle right : Position} (earlier : left.isLe middle = true)
    (later : middle.isLe right = true)
    : left.isLe right = true := by
  rw [isLe_iff] at *
  omega

theorem isLe_total (left right : Position) : (left.isLe right || right.isLe left) = true := by
  rw [Bool.or_eq_true, isLe_iff, isLe_iff]
  omega

theorem isLe_antisymm {left right : Position} (earlier : left.isLe right = true)
    (later : right.isLe left = true)
    : left = right := by
  rw [isLe_iff] at *
  have line : left.line = right.line := UInt32.toNat_inj.mp (by omega)
  have character : left.character = right.character := UInt32.toNat_inj.mp (by omega)
  cases left
  cases right
  exact congr (congrArg Position.mk line) character

end Position

-----------------------------------------------------------------------------------------
-- Sorting
-----------------------------------------------------------------------------------------

/-- Sorting relates what stays in place where the order allows it, and else what it swaps, by
induction on the list: a new first element goes past what is strictly before it.
-/
theorem pairwise_mergeSort_of {α : Type} {le : α → α → Bool}
    (trans : ∀ a b c, le a b = true → le b c = true → le a c = true)
    (total : ∀ a b, (le a b || le b a) = true) {related : α → α → Prop} {items : List α}
    (kept
      : items.Pairwise fun a b =>
          (le a b = true → related a b) ∧ (le a b = false → related b a))
    : (items.mergeSort le).Pairwise related := by
  induction items with
  | nil => simp
  | cons item rest ih =>
      obtain ⟨here, later⟩ := List.pairwise_cons.mp kept
      obtain ⟨front, back, sorted, split, strict⟩ := List.mergeSort_cons trans total item rest
      have ordered := List.pairwise_mergeSort trans total (item :: rest)
      have inner := ih later
      have known (other : α) (member : other ∈ front ++ back) : other ∈ rest :=
        (List.mergeSort_perm rest le).mem_iff.mp (split ▸ member)
      rw [sorted] at ordered ⊢
      rw [split] at inner
      obtain ⟨inFront, inBack, across⟩ := List.pairwise_append.mp inner
      have behind := (List.pairwise_cons.mp (List.pairwise_append.mp ordered).2.1).1
      refine List.pairwise_append.mpr ⟨inFront, List.pairwise_cons.mpr ⟨?_, inBack⟩, ?_⟩
      · intro other member
        exact (here other (known other (List.mem_append_right front member))).1
          (behind other member)
      · intro earlier member other position
        rcases List.mem_cons.mp position with rfl | position
        · exact (here earlier (known earlier (List.mem_append_left back member))).2
            (Bool.not_eq_true' _ ▸ strict earlier member)
        · exact across earlier member other position

/-- A list has one split into what meets a test and what does not. -/
theorem append_inj_of_test {α : Type} (test : α → Bool) {front back front' back' : List α}
    (same : front ++ back = front' ++ back')
    (passes : ∀ item ∈ front, test item = true) (fails : ∀ item ∈ back, test item = false)
    (passes' : ∀ item ∈ front', test item = true) (fails' : ∀ item ∈ back', test item = false)
    : front = front' ∧ back = back' := by
  have first {front back : List α} (passes : ∀ item ∈ front, test item = true)
      (fails : ∀ item ∈ back, test item = false)
      : (front ++ back).filter test = front := by
    have none : back.filter test = [] :=
      List.filter_eq_nil_iff.mpr fun item member => by simp [fails item member]
    rw [List.filter_append, List.filter_eq_self.mpr passes, none, List.append_nil]
  have fronts : front = front' := by
    rw [← first passes fails, same, first passes' fails']
  exact ⟨fronts, List.append_cancel_left (fronts ▸ same)⟩

/-- Items whose keys are in order have been sorted by their keys, whichever order the keys had
before, by induction on the keys: the item of the first key is taken out of the sorted ones.
-/
theorem exists_mergeSort_eq {α β : Type} {le : β → β → Bool}
    (trans : ∀ a b c, le a b = true → le b c = true → le a c = true)
    (total : ∀ a b, (le a b || le b a) = true) (key : α → β) (keys : List β)
    {sorted : List α} (inOrder : sorted.map key = keys.mergeSort le)
    : ∃ items : List α,
        items.map key = keys ∧ items.mergeSort (fun a b => le (key a) (key b)) = sorted := by
  induction keys generalizing sorted with
  | nil =>
      rw [List.mergeSort_nil] at inOrder
      exact ⟨[], rfl, by rw [List.mergeSort_nil, List.map_eq_nil_iff.mp inOrder]⟩
  | cons first keys ih =>
      obtain ⟨front, back, split, rest, strict⟩ := List.mergeSort_cons trans total first keys
      have ordered := List.pairwise_mergeSort trans total (first :: keys)
      rw [split] at inOrder ordered
      obtain ⟨before, others, rfl, rfl, others_keys⟩ := List.map_eq_append_iff.mp inOrder
      obtain ⟨item, after, rfl, rfl, rfl⟩ := List.map_eq_cons_iff.mp others_keys
      have shorter : (before ++ after).map key = keys.mergeSort le := by
        rw [List.map_append, rest]
      obtain ⟨items, items_keys, items_sorted⟩ := ih shorter
      have trans' (a b c : α) (first : le (key a) (key b) = true)
          (second : le (key b) (key c) = true) : le (key a) (key c) = true :=
        trans _ _ _ first second
      have total' (a b : α) : (le (key a) (key b) || le (key b) (key a)) = true := total _ _
      obtain ⟨front', back', split', rest', strict'⟩ :=
        List.mergeSort_cons trans' total' item items
      have ordered' := List.pairwise_mergeSort trans' total' (item :: items)
      rw [split'] at ordered'
      have behind := (List.pairwise_cons.mp (List.pairwise_append.mp ordered).2.1).1
      have behind' := (List.pairwise_cons.mp (List.pairwise_append.mp ordered').2.1).1
      obtain ⟨rfl, rfl⟩ : front' = before ∧ back' = after := by
        refine append_inj_of_test (fun other => !le (key item) (key other))
          (rest'.symm.trans items_sorted) strict' ?_ ?_ ?_
        · intro other member
          rw [behind' other member]
          rfl
        · exact fun other member => strict (key other) (List.mem_map_of_mem member)
        · intro other member
          rw [behind (key other) (List.mem_map_of_mem member)]
          rfl
      exact ⟨item :: items, by rw [List.map_cons, items_keys], split'⟩

-----------------------------------------------------------------------------------------
-- Ranges and edits
-----------------------------------------------------------------------------------------

/-- Ranges that the edits of one list may have: none ends before it starts, no two overlap, and
insertions are listed before a replacement that starts where they are.
-/
structure ValidRanges (ranges : List Range) : Prop where
  ordered : ∀ range ∈ ranges, range.start.isLe range.stop = true
  apart
    : ranges.Pairwise fun a b =>
        a.stop.isLe b.start = true ∨ b.stop.isLe a.start = true
  insertionsFirst : ranges.Pairwise fun a b => a.start = b.start → a.stop = a.start

namespace Range

/-- The ranges from the last start to the first, and of those with one start the last listed
first.
-/
def lastFirst (ranges : List Range) : List Range :=
  ranges.reverse.mergeSort fun left right => right.start.isLe left.start

theorem lastFirst_perm (ranges : List Range) : (lastFirst ranges).Perm ranges :=
  (List.mergeSort_perm _ _).trans ranges.reverse_perm

theorem mem_lastFirst {ranges : List Range} {range : Range}
    : range ∈ lastFirst ranges ↔ range ∈ ranges :=
  (lastFirst_perm ranges).mem_iff

/-- What comes first of two ranges is the one that starts last, or the one listed last. -/
theorem lastFirst_pairwise {ranges : List Range} {related : Range → Range → Prop}
    (kept
      : ranges.Pairwise fun a b =>
          (a.start.isLe b.start = true → related b a)
          ∧ (a.start.isLe b.start = false → related a b))
    : (lastFirst ranges).Pairwise related := by
  refine pairwise_mergeSort_of ?_ ?_ (List.pairwise_reverse.mpr kept)
  · exact fun a b c first second => Position.isLe_trans second first
  · exact fun a b => Position.isLe_total _ _

/-- Two ranges that are listed in the order of their starts are swapped. -/
theorem lastFirst_swaps {ranges : List Range} {a b : Range} (among : [a, b].Sublist ranges)
    (starts : a.start.isLe b.start = true)
    : [b, a].Sublist (lastFirst ranges) := by
  refine List.pair_sublist_mergeSort ?_ ?_ starts (List.reverse_sublist.mpr among)
  · exact fun a b c first second => Position.isLe_trans second first
  · exact fun a b => Position.isLe_total _ _

end Range

/-- Ranges from the end of a text to its start: none ends before it starts, and none starts
before a later one ends.
-/
structure Range.Backwards (ranges : List Range) : Prop where
  ordered : ∀ range ∈ ranges, range.start.isLe range.stop = true
  apart : ranges.Pairwise fun first second => second.stop.isLe first.start = true

theorem Range.Backwards.tail {range : Range} {rest : List Range}
    (backwards : Backwards (range :: rest))
    : Backwards rest where
  ordered later member := backwards.ordered later (List.mem_cons_of_mem range member)
  apart := (List.pairwise_cons.mp backwards.apart).2

/-- Ranges that do not overlap come from the end of the text to its start. -/
theorem ValidRanges.backwards {ranges : List Range} (valid : ValidRanges ranges)
    : Range.Backwards (Range.lastFirst ranges) := by
  refine ⟨fun range member => valid.ordered range (Range.mem_lastFirst.mp member), ?_⟩
  refine Range.lastFirst_pairwise ((valid.apart.and valid.insertionsFirst).imp_of_mem ?_)
  intro a b memberA memberB both
  obtain ⟨separate, insertion⟩ := both
  have orderedA := valid.ordered a memberA
  have orderedB := valid.ordered b memberB
  constructor
  · intro starts
    rcases separate with fine | reversed
    · exact fine
    · have same := Position.isLe_antisymm starts (Position.isLe_trans orderedB reversed)
      rw [insertion same]
      exact starts
  · intro starts
    rcases separate with reversed | fine
    · rw [Position.isLe_trans orderedA reversed] at starts
      cases starts
    · exact fine

namespace TextEdit

theorem mem_applicationOrder {edits : List TextEdit} {edit : TextEdit}
    : edit ∈ applicationOrder edits ↔ edit ∈ edits :=
  (List.mergeSort_perm _ _).mem_iff.trans List.mem_reverse

/-- Only the ranges of edits count for the order. -/
theorem map_applicationOrder (edits : List TextEdit)
    : (applicationOrder edits).map (·.range) = Range.lastFirst (edits.map (·.range)) := by
  rw [applicationOrder, Range.lastFirst, ← List.map_reverse]
  exact List.map_mergeSort fun _ _ _ _ => rfl

/-- Whatever new texts ranges have when they are in order, there are edits with these. -/
theorem exists_applicationOrder_eq {ranges : List Range} {sorted : List TextEdit}
    (inOrder : sorted.map (·.range) = Range.lastFirst ranges)
    : ∃ edits : List TextEdit,
        edits.map (·.range) = ranges ∧ applicationOrder edits = sorted := by
  have trans (a b c : Range) (first : b.start.isLe a.start = true)
      (second : c.start.isLe b.start = true) : c.start.isLe a.start = true :=
    Position.isLe_trans second first
  obtain ⟨items, items_ranges, items_sorted⟩ :=
    exists_mergeSort_eq trans (fun a b => Position.isLe_total _ _) TextEdit.range
      ranges.reverse inOrder
  refine ⟨items.reverse, ?_, ?_⟩
  · rw [List.map_reverse, items_ranges, List.reverse_reverse]
  · rw [applicationOrder, List.reverse_reverse]
    exact items_sorted

/-- Of two edits the one that starts last is applied first. -/
theorem applicationOrder_pair (a b : TextEdit)
    : applicationOrder [a, b]
      = if a.range.start.isLe b.range.start then [b, a] else [a, b] := by
  simp [applicationOrder, List.mergeSort, List.cons_merge_cons]

end TextEdit

end LanguageClient
