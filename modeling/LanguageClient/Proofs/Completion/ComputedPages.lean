import LanguageClient.Proofs.Completion.MenuPages

/-! The page of a menu against the page that is computed from the candidates alone. A menu ranks
its candidates only when they or the typed text change, and scrolls on its own; what it shows is
still the page that is computed from what it holds.
-/

namespace LanguageClient

-----------------------------------------------------------------------------------------
-- Selections and offsets that stay
-----------------------------------------------------------------------------------------

namespace Paging

theorem clampSelection_of_within {selection count : Nat} (first : 1 ≤ selection)
    (last : selection ≤ count)
    : clampSelection selection count = selection := by
  refine if_neg fun outside => ?_
  rw [Bool.or_eq_true, decide_eq_true_eq, decide_eq_true_eq] at outside
  omega

theorem clampSelection_idem (selection : Nat) {count : Nat} (inhabited : 0 < count)
    : clampSelection (clampSelection selection count) count = clampSelection selection count := by
  obtain ⟨first, last⟩ := clampSelection_within selection inhabited
  exact clampSelection_of_within first last

/-- An offset that shows the selection is not moved. -/
theorem scrollTo_of_shows {selection pageSize count offset : Nat}
    (shows : Shows selection pageSize count offset)
    : scrollTo selection offset pageSize count = offset := by
  obtain ⟨below, within, full⟩ := shows
  rw [scrollTo, if_neg (by omega), if_neg (by omega)]
  exact Nat.min_eq_left full

end Paging

-----------------------------------------------------------------------------------------
-- Computed pages
-----------------------------------------------------------------------------------------

namespace MenuPage

variable {candidates : List Candidate} {typed : String}

/-- Without candidates the page is empty, whatever is asked for. -/
theorem compute_of_none (none : Candidate.ranked candidates typed = [])
    (selection offset pageSize : Nat)
    : compute candidates typed selection offset pageSize = ofRanked [] 0 0 pageSize := by
  rw [ofRanked, List.drop_nil, List.take_nil]
  exact if_pos (List.isEmpty_iff.mpr none)

theorem compute_of_some (some : Candidate.ranked candidates typed ≠ [])
    (selection offset pageSize : Nat)
    : compute candidates typed selection offset pageSize
      = ofRanked (Candidate.ranked candidates typed)
          (Paging.clampSelection selection (Candidate.ranked candidates typed).length)
          (Paging.scrollTo
            (Paging.clampSelection selection (Candidate.ranked candidates typed).length)
            offset (max pageSize 1) (Candidate.ranked candidates typed).length)
          (max pageSize 1) :=
  if_neg fun none => some (List.isEmpty_iff.mp none)

/-- A computed page is as good for a selection that has been set right already. -/
theorem compute_clampSelection (selection offset pageSize : Nat)
    : compute candidates typed
        (Paging.clampSelection selection (Candidate.ranked candidates typed).length) offset
        pageSize
      = compute candidates typed selection offset pageSize := by
  by_cases none : Candidate.ranked candidates typed = []
  · rw [compute_of_none none, compute_of_none none]
  · rw [compute_of_some none, compute_of_some none,
      Paging.clampSelection_idem selection (List.length_pos_iff.mpr none)]

/-- Pages without rows are computed with one row. -/
theorem compute_max_one (selection offset pageSize : Nat)
    : compute candidates typed selection offset (max pageSize 1)
      = compute candidates typed selection offset pageSize := by
  by_cases none : Candidate.ranked candidates typed = []
  · rw [compute_of_none none, compute_of_none none, ofRanked, ofRanked, List.drop_nil,
      List.take_nil, List.take_nil]
  · rw [compute_of_some none, compute_of_some none, Nat.max_assoc, Nat.max_self]

end MenuPage

-----------------------------------------------------------------------------------------
-- The pages of a menu
-----------------------------------------------------------------------------------------

namespace CompletionMenu

/-- Scrolling shows the computed page, as long as the selection is among the candidates. -/
theorem page_rescroll {menu : CompletionMenu}
    (ranked : menu.ranked = Candidate.ranked menu.all menu.typed) (rows : 0 < menu.pageSize)
    (closed : menu.ranked = [] → menu.selection = 0)
    (selects : menu.ranked ≠ [] → 1 ≤ menu.selection ∧ menu.selection ≤ menu.ranked.length)
    : menu.rescroll.page
      = .compute menu.all menu.typed menu.selection menu.offset menu.pageSize := by
  change MenuPage.ofRanked menu.ranked menu.selection menu.rescroll.offset menu.pageSize = _
  by_cases none : menu.ranked = []
  · have offset : menu.rescroll.offset = 0 := if_pos (List.isEmpty_iff.mpr none)
    rw [MenuPage.compute_of_none (ranked.symm.trans none), offset, none, closed none]
  · -- The selection is among the candidates already, so the computed page keeps it.
    obtain ⟨first, last⟩ := selects none
    rw [MenuPage.compute_of_some (ranked ▸ none), offset_rescroll none, ← ranked,
      Paging.clampSelection_of_within first last, Nat.max_eq_left rows]

/-- Ranking shows the computed page, whatever has been selected. -/
theorem page_refresh {menu : CompletionMenu} (rows : 0 < menu.pageSize)
    : menu.refresh.page
      = .compute menu.all menu.typed menu.selection menu.offset menu.pageSize := by
  unfold refresh
  dsimp only
  split
  · rename_i empty
    have none : Candidate.ranked menu.all menu.typed = [] := List.isEmpty_iff.mp empty
    rw [MenuPage.compute_of_none none, none]
    rfl
  · rename_i inhabited
    have some : Candidate.ranked menu.all menu.typed ≠ [] :=
      fun none => inhabited (List.isEmpty_iff.mpr none)
    let ranked := Candidate.ranked menu.all menu.typed
    let selection := Paging.clampSelection menu.selection ranked.length
    calc (rescroll { menu with ranked, selection }).page
      _ = .compute menu.all menu.typed selection menu.offset menu.pageSize :=
        page_rescroll rfl rows (fun none => absurd none some) fun _ =>
          Paging.clampSelection_within _ (List.length_pos_iff.mpr some)
      _ = .compute menu.all menu.typed menu.selection menu.offset menu.pageSize :=
        MenuPage.compute_clampSelection menu.selection menu.offset menu.pageSize

/-- A sound menu shows the page that is computed from what it holds. -/
theorem Sound.page_eq {menu : CompletionMenu} (sound : menu.Sound)
    : menu.page = .compute menu.all menu.typed menu.selection menu.offset menu.pageSize := by
  have settled : menu.rescroll.offset = menu.offset := by
    by_cases none : menu.ranked = []
    · exact (if_pos (List.isEmpty_iff.mpr none)).trans (sound.closed none).2.symm
    · exact (offset_rescroll none).trans (Paging.scrollTo_of_shows (sound.shows none))
  rw [← page_rescroll sound.ranked sound.rows (fun none => (sound.closed none).1) sound.selects]
  change menu.page
    = MenuPage.ofRanked menu.ranked menu.selection menu.rescroll.offset menu.pageSize
  rw [settled]
  rfl

/-- A move shows the computed page of the selection that it goes to. Without candidates there is
nothing to move, and the computed page is empty.
-/
theorem Sound.page_moveSelection {menu : CompletionMenu} (sound : menu.Sound)
    {move : Nat → Nat → Nat} {target : Nat}
    (goes
      : 1 ≤ menu.selection → menu.selection ≤ menu.ranked.length
        → Paging.clampSelection target menu.ranked.length
          = move menu.ranked.length menu.selection)
    : (menu.moveSelection move).page
      = .compute menu.all menu.typed target menu.offset menu.pageSize := by
  unfold CompletionMenu.moveSelection
  split
  · rename_i empty
    have none : menu.ranked = [] := List.isEmpty_iff.mp empty
    have none' : Candidate.ranked menu.all menu.typed = [] := sound.ranked.symm.trans none
    rw [sound.page_eq, MenuPage.compute_of_none none', MenuPage.compute_of_none none']
  · rename_i inhabited
    have some : menu.ranked ≠ [] := fun none => inhabited (List.isEmpty_iff.mpr none)
    obtain ⟨first, last⟩ := sound.selects some
    let selection := Paging.clampSelection target menu.ranked.length
    rw [← goes first last]
    calc (rescroll { menu with selection }).page
      _ = .compute menu.all menu.typed selection menu.offset menu.pageSize :=
        page_rescroll sound.ranked sound.rows (fun none => absurd none some) fun _ =>
          Paging.clampSelection_within target (List.length_pos_iff.mpr some)
      _ = .compute menu.all menu.typed target menu.offset menu.pageSize := by
        rw [show selection = Paging.clampSelection target _ from rfl, sound.ranked]
        exact MenuPage.compute_clampSelection target menu.offset menu.pageSize

/-- Whatever has been done to a menu, each operation shows the page that is computed from the
candidates, the typed text, the selection asked for, the offset before it and the page size. The
selection of a move wraps around the ends by rows and stops at them by pages. In between the menu
shows the page that is computed from what it holds.
-/
theorem page_computed (pageSize : Nat) (operations : List Operation)
    : let menu := (ofPageSize pageSize).performAll operations
      let count := menu.ranked.length
      let computed := fun selection =>
        MenuPage.compute menu.all menu.typed selection menu.offset menu.pageSize
      (∀ candidates,
          (menu.setCandidates candidates).page
          = .compute candidates menu.typed menu.selection menu.offset menu.pageSize)
      ∧ (∀ typed,
          (menu.setTyped typed).page
          = .compute menu.all typed menu.selection menu.offset menu.pageSize)
      ∧ (∀ size,
          (menu.setPageSize size).page
          = .compute menu.all menu.typed menu.selection menu.offset size)
      ∧ (∀ number, (menu.select number).page = computed number)
      ∧ menu.selectNext.page
        = computed (if menu.selection = count then 1 else menu.selection + 1)
      ∧ menu.selectPrevious.page
        = computed (if menu.selection = 1 then count else menu.selection - 1)
      ∧ menu.pageDown.page = computed (min (menu.selection + menu.pageSize) count)
      ∧ menu.pageUp.page = computed (max (menu.selection - menu.pageSize) 1)
      ∧ menu.page = computed menu.selection := by
  intro menu count computed
  have sound : menu.Sound := (ofPageSize_sound pageSize).performAll operations
  have rows := sound.rows
  refine ⟨fun candidates => page_refresh rows, fun typed => page_refresh rows, fun size => ?_,
    fun number => ?_, ?_, ?_, ?_, ?_, sound.page_eq⟩
  · rw [← MenuPage.compute_max_one]
    exact page_rescroll sound.ranked (Nat.le_max_right size 1)
      (fun none => (sound.closed none).1) sound.selects
  · exact sound.page_moveSelection fun _ _ => rfl
  · refine sound.page_moveSelection fun first last => ?_
    by_cases isLast : menu.selection = count
    · rw [if_pos isLast, show menu.selection = menu.ranked.length from isLast, Nat.mod_self]
      exact Paging.clampSelection_of_within (Nat.le_refl 1) (Nat.le_trans first last)
    · have inside : menu.selection < menu.ranked.length := Nat.lt_of_le_of_ne last isLast
      rw [if_neg isLast, Nat.mod_eq_of_lt inside]
      exact Paging.clampSelection_of_within (Nat.le_add_left 1 _) inside
  · refine sound.page_moveSelection fun first last => ?_
    by_cases isFirst : menu.selection = 1
    · rw [if_pos isFirst, if_pos (Nat.le_of_eq isFirst)]
      exact Paging.clampSelection_of_within (Nat.le_trans first last) (Nat.le_refl _)
    · rw [if_neg isFirst, if_neg (by omega)]
      exact Paging.clampSelection_of_within (by omega) (by omega)
  · refine sound.page_moveSelection fun first last => ?_
    exact Paging.clampSelection_of_within (by omega) (Nat.min_le_right _ _)
  · refine sound.page_moveSelection fun first last => ?_
    exact Paging.clampSelection_of_within (Nat.le_max_right _ 1) (by omega)

end CompletionMenu

end LanguageClient
