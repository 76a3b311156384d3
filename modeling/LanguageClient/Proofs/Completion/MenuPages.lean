import LanguageClient.Completion.Menu
import Mathlib.Data.Nat.Dist

/-! The page of a completion menu. Whatever has been done to a menu, its page is full and shows
the selected candidate, and it has been scrolled just as far as that takes.
-/

namespace LanguageClient

-----------------------------------------------------------------------------------------
-- Offsets
-----------------------------------------------------------------------------------------

namespace Paging

/-- A page at an offset shows the selected one of `count` candidates, and no row of it is left
empty as long as there are candidates above it.
-/
structure Shows (selection pageSize count offset : Nat) : Prop where
  below : offset + 1 ≤ selection
  within : selection ≤ offset + pageSize
  full : offset ≤ count - pageSize

/-- A selection among candidates is one of them. -/
theorem clampSelection_within (selection : Nat) {count : Nat} (inhabited : 0 < count)
    : 1 ≤ clampSelection selection count ∧ clampSelection selection count ≤ count := by
  rw [clampSelection]
  split
  · omega
  · rename_i inside
    rw [Bool.or_eq_true, decide_eq_true_eq, decide_eq_true_eq] at inside
    omega

/-- The last page does not leave the selection behind: it starts later than the offset only if
that is too far down already.
-/
theorem scrollTo_shows {selection pageSize count : Nat} (offset : Nat) (first : 1 ≤ selection)
    (last : selection ≤ count) (rows : 0 < pageSize)
    : Shows selection pageSize count (scrollTo selection offset pageSize count) := by
  rw [scrollTo]
  split
  · constructor <;> omega
  · split <;> constructor <;> omega

/-- Every other offset that shows the selection is further away from the one before. -/
theorem scrollTo_nearest {selection pageSize count offset other : Nat}
    (shows : Shows selection pageSize count other)
    (differs : other ≠ scrollTo selection offset pageSize count)
    : Nat.dist (scrollTo selection offset pageSize count) offset < Nat.dist other offset := by
  obtain ⟨below, within, full⟩ := shows
  revert differs
  rw [scrollTo, Nat.dist, Nat.dist]
  split
  · omega
  · split <;> omega

end Paging

-----------------------------------------------------------------------------------------
-- Menus
-----------------------------------------------------------------------------------------

/-- Some candidates match, or all of them do. -/
theorem Candidate.ranked_isEmpty (candidates : List Candidate) (typed : String)
    : (ranked candidates typed).isEmpty = candidates.isEmpty := by
  have sorted : (ranked candidates typed).isEmpty = (matching candidates typed).isEmpty := by
    rw [Bool.eq_iff_iff, List.isEmpty_iff_length_eq_zero, List.isEmpty_iff_length_eq_zero, ranked,
      List.length_mergeSort]
  rw [sorted, matching]
  split
  · rfl
  · rename_i matched
    cases candidates with
    | nil => exact absurd rfl matched
    | cons first rest => exact Bool.eq_false_iff.mpr matched

namespace CompletionMenu

theorem isOpen_iff {menu : CompletionMenu} : menu.isOpen = true ↔ menu.ranked ≠ [] := by
  rw [isOpen, Bool.not_eq_true', Bool.eq_false_iff, ne_eq, List.isEmpty_iff]

/-- A menu with candidates shows some of them. -/
def Consistent (menu : CompletionMenu) : Prop :=
  menu.isOpen = !menu.all.isEmpty

theorem refresh_all (menu : CompletionMenu) : menu.refresh.all = menu.all := by
  unfold refresh
  dsimp only
  split <;> rfl

theorem refresh_consistent (menu : CompletionMenu) : menu.refresh.Consistent := by
  have ranked : menu.refresh.ranked = Candidate.ranked menu.all menu.typed := by
    unfold refresh
    dsimp only
    split <;> rfl
  rw [Consistent, isOpen, ranked, refresh_all, Candidate.ranked_isEmpty]

/-- What holds of a menu between keystrokes. -/
structure Sound (menu : CompletionMenu) : Prop where
  ranked : menu.ranked = Candidate.ranked menu.all menu.typed
  rows : 0 < menu.pageSize
  closed : menu.ranked = [] → menu.selection = 0 ∧ menu.offset = 0
  selects : menu.ranked ≠ [] → 1 ≤ menu.selection ∧ menu.selection ≤ menu.ranked.length
  shows
    : menu.ranked ≠ []
      → Paging.Shows menu.selection menu.pageSize menu.ranked.length menu.offset

theorem offset_rescroll {menu : CompletionMenu} (inhabited : menu.ranked ≠ [])
    : menu.rescroll.offset
      = Paging.scrollTo menu.selection menu.offset menu.pageSize menu.ranked.length :=
  if_neg fun empty => inhabited (List.isEmpty_iff.mp empty)

/-- Scrolling sets the offset right, whatever it has been. -/
theorem rescroll_sound {menu : CompletionMenu}
    (ranked : menu.ranked = Candidate.ranked menu.all menu.typed) (rows : 0 < menu.pageSize)
    (closed : menu.ranked = [] → menu.selection = 0)
    (selects : menu.ranked ≠ [] → 1 ≤ menu.selection ∧ menu.selection ≤ menu.ranked.length)
    : menu.rescroll.Sound where
  ranked := ranked
  rows := rows
  closed empty := ⟨closed empty, if_pos (List.isEmpty_iff.mpr empty)⟩
  selects := selects
  shows inhabited := by
    obtain ⟨first, last⟩ := selects inhabited
    have some : menu.ranked ≠ [] := inhabited
    rw [offset_rescroll some]
    exact Paging.scrollTo_shows menu.offset first last rows

/-- Ranking sets everything right that depends on the candidates. -/
theorem refresh_sound {menu : CompletionMenu} (rows : 0 < menu.pageSize)
    : menu.refresh.Sound := by
  unfold refresh
  dsimp only
  split
  · rename_i empty
    have none : Candidate.ranked menu.all menu.typed = [] := List.isEmpty_iff.mp empty
    exact ⟨rfl, rows, fun _ => ⟨rfl, rfl⟩, fun some => absurd none some,
      fun some => absurd none some⟩
  · rename_i inhabited
    have some : Candidate.ranked menu.all menu.typed ≠ [] :=
      fun none => inhabited (List.isEmpty_iff.mpr none)
    exact rescroll_sound rfl rows (fun none => absurd none some) fun _ =>
      Paging.clampSelection_within _ (List.length_pos_iff.mpr some)

/-- A move among the candidates keeps a menu sound. -/
theorem Sound.moveSelection {menu : CompletionMenu} (sound : menu.Sound)
    {move : Nat → Nat → Nat}
    (among
      : ∀ count selection,
          1 ≤ selection → selection ≤ count
          → 1 ≤ move count selection ∧ move count selection ≤ count)
    : (menu.moveSelection move).Sound := by
  unfold CompletionMenu.moveSelection
  split
  · exact sound
  · rename_i inhabited
    have some : menu.ranked ≠ [] := fun none => inhabited (List.isEmpty_iff.mpr none)
    obtain ⟨first, last⟩ := sound.selects some
    exact rescroll_sound sound.ranked sound.rows (fun none => absurd none some) fun _ =>
      among _ _ first last

-----------------------------------------------------------------------------------------
-- Operations
-----------------------------------------------------------------------------------------

/-- What can be done to a menu. -/
inductive Operation where
  | setCandidates (candidates : List Candidate)
  | setTyped (typed : String)
  | setPageSize (pageSize : Nat)
  | selectNext
  | selectPrevious
  | pageDown
  | pageUp
  | select (number : Nat)
  | clear
deriving DecidableEq, Repr

def perform (menu : CompletionMenu) : Operation → CompletionMenu
  | .setCandidates candidates => menu.setCandidates candidates
  | .setTyped typed => menu.setTyped typed
  | .setPageSize pageSize => menu.setPageSize pageSize
  | .selectNext => menu.selectNext
  | .selectPrevious => menu.selectPrevious
  | .pageDown => menu.pageDown
  | .pageUp => menu.pageUp
  | .select number => menu.select number
  | .clear => menu.clear

/-- The menu after operations, one after the other. -/
def performAll (menu : CompletionMenu) (operations : List Operation) : CompletionMenu :=
  operations.foldl perform menu

/-- A menu without candidates is sound. -/
theorem ofPageSize_sound (pageSize : Nat) : (ofPageSize pageSize).Sound where
  ranked := by
    have none : Candidate.ranked [] "" = [] := by
      rw [Candidate.ranked, Candidate.matching, List.filter_nil]
      exact List.mergeSort_nil
    exact none.symm
  rows := Nat.le_max_right pageSize 1
  closed _ := ⟨rfl, rfl⟩
  selects some := absurd rfl some
  shows some := absurd rfl some

/-- Every operation keeps a menu sound. -/
theorem Sound.perform {menu : CompletionMenu} (sound : menu.Sound) (operation : Operation)
    : (menu.perform operation).Sound := by
  cases operation with
  | setCandidates candidates => exact refresh_sound sound.rows
  | setTyped typed => exact refresh_sound sound.rows
  | setPageSize pageSize =>
      exact rescroll_sound sound.ranked (Nat.le_max_right pageSize 1)
        (fun none => (sound.closed none).1) sound.selects
  | selectNext =>
      rw [CompletionMenu.perform, selectNext]
      refine sound.moveSelection fun count selection first last => ?_
      have inside := Nat.mod_lt selection (Nat.lt_of_lt_of_le first last)
      omega
  | selectPrevious =>
      rw [CompletionMenu.perform, selectPrevious]
      refine sound.moveSelection fun count selection first last => ?_
      split <;> omega
  | pageDown =>
      rw [CompletionMenu.perform, pageDown]
      have rows := sound.rows
      exact sound.moveSelection fun count selection first last => by omega
  | pageUp =>
      rw [CompletionMenu.perform, pageUp]
      exact sound.moveSelection fun count selection first last => by omega
  | select number =>
      rw [CompletionMenu.perform, select]
      exact sound.moveSelection fun count selection first last =>
        Paging.clampSelection_within number (Nat.lt_of_lt_of_le first last)
  | clear =>
      obtain ⟨ranked, -, closed, selects, shows⟩ := ofPageSize_sound 1
      exact ⟨ranked, sound.rows, closed, fun some => absurd rfl some, fun some => absurd rfl some⟩

/-- Operations keep a menu sound, by induction on them. -/
theorem Sound.performAll {menu : CompletionMenu} (sound : menu.Sound)
    (operations : List Operation)
    : (menu.performAll operations).Sound := by
  induction operations generalizing menu with
  | nil => exact sound
  | cons operation rest ih => exact ih (sound.perform operation)

theorem offset_refresh {menu : CompletionMenu} (inhabited : menu.refresh.ranked ≠ [])
    : menu.refresh.offset
      = Paging.scrollTo menu.refresh.selection menu.offset menu.refresh.pageSize
          menu.refresh.ranked.length := by
  unfold refresh at inhabited ⊢
  dsimp only at inhabited ⊢
  split
  · rename_i empty
    rw [if_pos empty] at inhabited
    exact absurd (List.isEmpty_iff.mp empty) inhabited
  · rename_i some
    rw [if_neg some] at inhabited
    exact offset_rescroll inhabited

theorem offset_moveSelection {menu : CompletionMenu} {move : Nat → Nat → Nat}
    (inhabited : (menu.moveSelection move).ranked ≠ [])
    : (menu.moveSelection move).offset
      = Paging.scrollTo (menu.moveSelection move).selection menu.offset
          (menu.moveSelection move).pageSize (menu.moveSelection move).ranked.length := by
  unfold moveSelection at inhabited ⊢
  split
  · rename_i empty
    rw [if_pos empty] at inhabited
    exact absurd (List.isEmpty_iff.mp empty) inhabited
  · rename_i some
    rw [if_neg some] at inhabited
    exact offset_rescroll inhabited

/-- An operation that leaves candidates scrolls from where the page has been. -/
theorem offset_perform {menu : CompletionMenu} {operation : Operation}
    (inhabited : (menu.perform operation).ranked ≠ [])
    : (menu.perform operation).offset
      = Paging.scrollTo (menu.perform operation).selection menu.offset
          (menu.perform operation).pageSize (menu.perform operation).ranked.length := by
  cases operation with
  | setCandidates candidates => exact offset_refresh inhabited
  | setTyped typed => exact offset_refresh inhabited
  | setPageSize pageSize => exact offset_rescroll inhabited
  | selectNext => exact offset_moveSelection inhabited
  | selectPrevious => exact offset_moveSelection inhabited
  | pageDown => exact offset_moveSelection inhabited
  | pageUp => exact offset_moveSelection inhabited
  | select number => exact offset_moveSelection inhabited
  | clear => exact absurd rfl inhabited

-----------------------------------------------------------------------------------------
-- Pages
-----------------------------------------------------------------------------------------

/-- A page starts within the list. -/
theorem Sound.offset_le {menu : CompletionMenu} (sound : menu.Sound)
    : menu.offset ≤ menu.ranked.length := by
  by_cases empty : menu.ranked = []
  · rw [(sound.closed empty).2]
    exact Nat.zero_le _
  · exact Nat.le_trans (sound.shows empty).full (Nat.sub_le _ _)

/-- The page of an open menu is full. -/
theorem Sound.length_page {menu : CompletionMenu} (sound : menu.Sound)
    (inhabited : menu.ranked ≠ [])
    : menu.page.candidates.length = min menu.pageSize menu.ranked.length := by
  have full := (sound.shows inhabited).full
  change ((menu.ranked.drop menu.offset).take menu.pageSize).length = _
  rw [List.length_take, List.length_drop]
  omega

/-- The page of an open menu has the selected candidate in the row that is marked. -/
theorem Sound.selectedRow {menu : CompletionMenu} (sound : menu.Sound)
    (inhabited : menu.ranked ≠ [])
    : ∃ row candidate,
        menu.page.selectedRow? = some row
        ∧ menu.page.candidates[row]? = some candidate
        ∧ menu.selected? = some candidate := by
  obtain ⟨first, last⟩ := sound.selects inhabited
  obtain ⟨below, within, full⟩ := sound.shows inhabited
  have inside : menu.selection - 1 < menu.ranked.length := by omega
  have length := sound.length_page inhabited
  refine ⟨menu.selection - menu.offset - 1, menu.ranked[menu.selection - 1], ?_, ?_, ?_⟩
  · refine if_pos ?_
    rw [Bool.and_eq_true, decide_eq_true_eq, decide_eq_true_eq, length]
    change menu.offset < menu.selection
      ∧ menu.selection - menu.offset - 1 < min menu.pageSize menu.ranked.length
    omega
  · change ((menu.ranked.drop menu.offset).take menu.pageSize)[_]? = _
    have place : menu.offset + (menu.selection - menu.offset - 1) = menu.selection - 1 := by
      omega
    rw [List.getElem?_take_of_lt (by omega), List.getElem?_drop, place,
      List.getElem?_eq_getElem inside]
  · rw [selected?, if_neg (by omega), List.getElem?_eq_getElem inside]

/-- Whatever is done to a menu, it lists the matching candidates in order. Without any, nothing
is selected and nothing is scrolled. Otherwise the selected candidate is one of them, and it is
on the page, which is full and within the list. Any operation scrolls to the offset that is the
nearest one of those that show the selection.
-/
theorem page_shows_selected (pageSize : Nat) (operations : List Operation)
    : let menu := (ofPageSize pageSize).performAll operations
      menu.ranked = Candidate.ranked menu.all menu.typed
      ∧ (menu.ranked = [] → menu.selection = 0 ∧ menu.offset = 0)
      ∧ (menu.ranked ≠ []
        → (1 ≤ menu.selection ∧ menu.selection ≤ menu.ranked.length)
          ∧ (menu.offset + 1 ≤ menu.selection ∧ menu.selection ≤ menu.offset + menu.pageSize)
          ∧ menu.offset ≤ menu.ranked.length - menu.pageSize
          ∧ menu.page.candidates.length = min menu.pageSize menu.ranked.length
          ∧ ∃ row candidate,
              menu.page.selectedRow? = some row
              ∧ menu.page.candidates[row]? = some candidate
              ∧ menu.selected? = some candidate)
      ∧ menu.offset ≤ min (menu.offset + menu.pageSize) menu.ranked.length
      ∧ ∀ operation,
          let next := menu.perform operation
          next.ranked ≠ []
          → ∀ other,
              Paging.Shows next.selection next.pageSize next.ranked.length other
              → other ≠ next.offset
              → Nat.dist next.offset menu.offset < Nat.dist other menu.offset := by
  intro menu
  have sound : menu.Sound := (ofPageSize_sound pageSize).performAll operations
  refine ⟨sound.ranked, sound.closed, fun inhabited => ?_, ?_, ?_⟩
  · obtain ⟨below, within, full⟩ := sound.shows inhabited
    exact ⟨sound.selects inhabited, ⟨below, within⟩, full, sound.length_page inhabited,
      sound.selectedRow inhabited⟩
  · exact Nat.le_min.mpr ⟨Nat.le_add_right _ _, sound.offset_le⟩
  · intro operation next inhabited other shows differs
    have scrolled := offset_perform inhabited
    change next.offset = _ at scrolled
    rw [scrolled] at differs ⊢
    exact Paging.scrollTo_nearest shows differs

end CompletionMenu

end LanguageClient
