import LanguageClient.Overlay.Basic
import LanguageClient.Proofs.Completion.MenuPages
import LanguageClient.Proofs.Overlay.Placement
import LanguageClient.Text.Width
import Mathlib.Data.List.Forall2

/-! The lines of overlays. Each of them is as wide as the rectangle, and there are as many as it
has rows: a menu scrolls to the height that its overlay gets, and other lines are left out. All
of this holds however many cells characters and texts take.
-/

namespace LanguageClient

namespace CellWidths

variable (widths : CellWidths)

/-- The cells of characters, each on its own. -/
def columns (text : List Char) : Nat :=
  (text.map widths.ofChar).sum

theorem columns_cons (char : Char) (text : List Char)
    : widths.columns (char :: text) = widths.ofChar char + widths.columns text :=
  List.sum_cons

theorem columns_append (front back : List Char)
    : widths.columns (front ++ back) = widths.columns front + widths.columns back := by
  rw [columns, List.map_append, List.sum_append]
  rfl

theorem columns_blanks (count : Nat) : widths.columns (List.replicate count ' ') = count := by
  rw [columns, List.map_replicate, List.sum_replicate_nat, widths.blank, Nat.mul_one]

end CellWidths

namespace Overlay

open Text (isControl)

variable (widths : CellWidths)

-----------------------------------------------------------------------------------------
-- Lines of a width
-----------------------------------------------------------------------------------------

/-- How a character is shown: control characters are blanks. -/
def shownChar (char : Char) : Char :=
  if isControl char then ' ' else char

theorem isControl_shownChar (char : Char) : isControl (shownChar char) = false := by
  rw [shownChar]
  split
  · decide
  · rename_i plain
    exact Bool.eq_false_iff.mpr plain

/-- What a line of a width shows of a text: its start, as far as there is room for it, and behind
it fewer blanks than the next character would take. No character of it is a control character.
-/
structure IsLine (width : Nat) (text : List Char) (line : String) : Prop where
  columns : widths.columns line.toList = width
  plain : ∀ char ∈ line.toList, isControl char = false
  shows
    : ∃ front rest blanks,
        text = front ++ rest
        ∧ line.toList = front.map shownChar ++ List.replicate blanks ' '
        ∧ ∀ next ∈ rest.head?, blanks < widths.ofChar (shownChar next)

theorem fitting_cons (width : Nat) (char : Char) (rest : List Char)
    : fitting widths width (char :: rest)
      = if width < widths.ofChar (shownChar char) then
          ([], 0)
        else
          let fitted := fitting widths (width - widths.ofChar (shownChar char)) rest
          (shownChar char :: fitted.1, widths.ofChar (shownChar char) + fitted.2) :=
  rfl

/-- What fits is the start of the text up to the first character without room, by induction on
the text with what is left of the width.
-/
theorem fitting_eq (width : Nat) (text : List Char)
    : ∃ front rest,
        text = front ++ rest
        ∧ fitting widths width text
          = (front.map shownChar, widths.columns (front.map shownChar))
        ∧ widths.columns (front.map shownChar) ≤ width
        ∧ ∀ next ∈ rest.head?,
            width < widths.columns (front.map shownChar) + widths.ofChar (shownChar next) := by
  induction text generalizing width with
  | nil => exact ⟨[], [], rfl, rfl, Nat.zero_le width, fun _ none => absurd none (by simp)⟩
  | cons char text ih =>
      by_cases wide : width < widths.ofChar (shownChar char)
      · refine ⟨[], char :: text, rfl, if_pos wide, Nat.zero_le width, fun next isNext => ?_⟩
        obtain rfl : char = next := Option.some.inj isNext
        exact Nat.lt_of_lt_of_le wide (Nat.le_add_left _ _)
      · obtain ⟨front, rest, rfl, fits, room, stops⟩ :=
          ih (width - widths.ofChar (shownChar char))
        refine ⟨char :: front, rest, rfl, ?_, ?_, fun next isNext => ?_⟩
        · rw [fitting_cons, if_neg wide, fits, List.map_cons, widths.columns_cons]
        · rw [List.map_cons, widths.columns_cons]
          omega
        · have := stops next isNext
          rw [List.map_cons, widths.columns_cons]
          omega

/-- A text that is cut or filled up to a width is a line of it. -/
theorem fitToWidth_isLine (width : Nat) (text : String)
    : IsLine widths width text.toList (fitToWidth widths text width) := by
  obtain ⟨front, rest, split, fits, room, stops⟩ := fitting_eq widths width text.toList
  have line
      : (fitToWidth widths text width).toList
        = front.map shownChar
          ++ List.replicate (width - widths.columns (front.map shownChar)) ' ' := by
    rw [fitToWidth, fits]
    exact String.toList_ofList
  refine ⟨?_, ?_, front, rest, _, split, line, fun next isNext => ?_⟩
  · rw [line, widths.columns_append, widths.columns_blanks]
    omega
  · intro char member
    rw [line, List.mem_append] at member
    rcases member with member | member
    · obtain ⟨shown, -, rfl⟩ := List.mem_map.mp member
      exact isControl_shownChar shown
    · rw [List.eq_of_mem_replicate member]
      decide
  · have := stops next isNext
    omega

/-- The lines of a width are as wide as it, and have no control characters. -/
theorem lines_fit {α : Type} (width : Nat) (text : α → String) (items : List α)
    : ∀ line ∈ items.map fun item => fitToWidth widths (text item) width,
        widths.columns line.toList = width ∧ ∀ char ∈ line.toList, isControl char = false := by
  intro line member
  obtain ⟨item, -, rfl⟩ := List.mem_map.mp member
  have isLine := fitToWidth_isLine widths width (text item)
  exact ⟨isLine.columns, isLine.plain⟩

-----------------------------------------------------------------------------------------
-- Rows of a menu
-----------------------------------------------------------------------------------------

/-- The column up to which labels go: the cells of the widest of them. -/
structure IsLabelColumn (candidates : List Candidate) (column : Nat) : Prop where
  holds : ∀ candidate ∈ candidates, widths.ofText candidate.label ≤ column
  reached : ∃ candidate ∈ candidates, widths.ofText candidate.label = column

/-- What stands in the row of a candidate: its label, and its detail, if it has one, behind as
many blanks as there are cells up to the label column, and one more.
-/
inductive RowText (column : Nat) (candidate : Candidate) : List Char → Prop where
  | label (bare : candidate.detail = none) : RowText column candidate candidate.label.toList
  | detail {detail : String} {blanks : Nat} (detailed : candidate.detail = some detail)
      (aligned : widths.ofText candidate.label + blanks = column + 1)
      : RowText column candidate
          (candidate.label.toList ++ List.replicate blanks ' ' ++ detail.toList)

/-- A line of a menu shows as much of a candidate's row as there is room for. -/
def ShowsCandidate (column width : Nat) (candidate : Candidate) (line : String) : Prop :=
  ∃ row, RowText widths column candidate row ∧ IsLine widths width row line

theorem menuWidths_fst (candidates : List Candidate)
    : (menuWidths widths candidates).1 = widest widths (candidates.map (·.label)) := by
  unfold menuWidths
  split <;> rfl

theorem isLabelColumn_menuWidths {candidates : List Candidate} (inhabited : candidates ≠ [])
    : IsLabelColumn widths candidates (menuWidths widths candidates).1 := by
  obtain ⟨column, greatest⟩
      : ∃ column, ((candidates.map (·.label)).map widths.ofText).max? = some column :=
    Option.ne_none_iff_exists'.mp fun none => inhabited (by simpa using none)
  have isColumn : (menuWidths widths candidates).1 = column := by
    rw [menuWidths_fst, widest, greatest, Option.getD_some]
  obtain ⟨reached, holds⟩ := List.max?_eq_some_iff.mp greatest
  simp only [List.map_map, List.mem_map, Function.comp_apply] at reached holds
  rw [isColumn]
  exact ⟨fun candidate listed => holds _ ⟨candidate, listed, rfl⟩, reached⟩

/-- A label that goes up to the label column at most has a blank behind it at least. -/
theorem rowText_candidateRow {column : Nat} {candidate : Candidate}
    (holds : widths.ofText candidate.label ≤ column)
    : RowText widths column candidate (candidateRow widths column candidate).toList := by
  unfold candidateRow
  split
  · rename_i bare
    exact .label bare
  · rename_i detail detailed
    rw [String.toList_append, String.toList_append, String.toList_ofList]
    exact .detail detailed (by omega)

theorem showsCandidate_candidateRow {column : Nat} {candidate : Candidate}
    (holds : widths.ofText candidate.label ≤ column) (width : Nat)
    : ShowsCandidate widths column width candidate
        (fitToWidth widths (candidateRow widths column candidate) width) :=
  ⟨_, rowText_candidateRow widths holds, fitToWidth_isLine widths width _⟩

/-- A candidate of a menu's page is among those that the label column is measured for. -/
theorem showsCandidate_of_mem_page {menu : CompletionMenu} (inhabited : menu.ranked ≠ [])
    (width : Nat)
    : let column := (menuWidths widths menu.ranked).1
      ∀ candidate ∈ menu.page.candidates,
        ShowsCandidate widths column width candidate
          (fitToWidth widths (candidateRow widths column candidate) width) := by
  intro column candidate onPage
  have listed : candidate ∈ menu.ranked := List.mem_of_mem_drop (List.mem_of_mem_take onPage)
  have isColumn : IsLabelColumn widths menu.ranked column :=
    isLabelColumn_menuWidths widths inhabited
  exact showsCandidate_candidateRow widths (isColumn.holds candidate listed) width

-----------------------------------------------------------------------------------------
-- Menus and messages
-----------------------------------------------------------------------------------------

/-- The overlay of an open menu has no more rows than candidates. Its lines are those of the page
that the menu shows with pages of as many rows.
-/
theorem ofMenu?_of_isOpen {menu : CompletionMenu} (isOpen : menu.isOpen = true)
    (area : OverlayArea) (limits : OverlayLimits)
    : ∃ overlay,
        let height := overlay.rect.height.toNat
        let paged := menu.setPageSize height
        ofMenu? widths menu area limits = some (overlay, paged)
        ∧ (1 ≤ height ∧ height ≤ min menu.ranked.length (max limits.maxItems.toNat 1))
        ∧ overlay.selectedRow = paged.page.selectedRow?
        ∧ overlay.lines
          = paged.page.candidates.map fun candidate =>
              fitToWidth widths (candidateRow widths (menuWidths widths menu.ranked).1 candidate)
                overlay.rect.width.toNat := by
  let wanted : UInt16 := .ofNat (min menu.ranked.length (max limits.maxItems 1).toNat)
  have count : wanted.toNat = min menu.ranked.length (max limits.maxItems.toNat 1) := by
    have most : (max limits.maxItems 1).toNat = max limits.maxItems.toNat 1 :=
      toNat_max_cell limits.maxItems 1
    have cells := toNat_cell_le limits.maxItems
    rw [← most]
    exact UInt16.toNat_ofNat_of_lt' (show _ < 65536 by omega)
  have inhabited : 0 < menu.ranked.length :=
    List.length_pos_iff.mpr (CompletionMenu.isOpen_iff.mp isOpen)
  let width := clampWidth (menuWidths widths menu.ranked).2 limits.minWidth limits.maxWidth
  let rect := area.place width wanted limits.safetyMargin
  have within := area.height_place_within width limits.safetyMargin
    (show 1 ≤ wanted.toNat by omega)
  let paged := menu.setPageSize rect.height.toNat
  refine ⟨
    {
      kind := .completion
      rect
      lines := _
      selectedRow := paged.page.selectedRow?
    },
    if_neg (by rw [isOpen]; exact Bool.false_ne_true),
    ⟨within.1, count ▸ within.2⟩,
    rfl,
    rfl
  ⟩

/-- The overlay of lines of text shows the first ones, as many as it has rows. -/
theorem ofLines?_of_inhabited {texts : List String} (inhabited : texts ≠ [])
    (area : OverlayArea) (limits : OverlayLimits)
    : ∃ overlay,
        let height := overlay.rect.height.toNat
        ofLines? widths texts area limits = some overlay
        ∧ height ≤ texts.length
        ∧ overlay.lines
          = (texts.take height).map fun text =>
              fitToWidth widths text overlay.rect.width.toNat := by
  let wanted : UInt16 := .ofNat (min texts.length 65535)
  have count : wanted.toNat = min texts.length 65535 :=
    UInt16.toNat_ofNat_of_lt' (show _ < 65536 by omega)
  have some : 0 < texts.length := List.length_pos_iff.mpr inhabited
  let width := clampWidth (widest widths texts) 1 limits.maxWidth
  let rect := area.place width wanted limits.safetyMargin
  have most : rect.height.toNat ≤ wanted.toNat :=
    (area.height_place_within width limits.safetyMargin (show 1 ≤ wanted.toNat by omega)).2
  exact ⟨
    {
      kind := .message
      rect
      lines := _
      selectedRow := none
    },
    if_neg fun none => inhabited (List.isEmpty_iff.mp none),
    show rect.height.toNat ≤ texts.length by omega,
    rfl
  ⟩

/-- Whatever has been done to a menu, its overlay, if it is open, has as many lines as its
rectangle has rows, each as wide as the rectangle and without control characters. They show the
candidates of the page that the menu is left with, of as many rows as the overlay, their details
in one column behind all labels. The line that is highlighted is one of them and shows the
selected candidate. The overlay of other lines shows the first ones, each from its start.
-/
theorem overlays_fit (pageSize : Nat) (operations : List CompletionMenu.Operation)
    (area : OverlayArea) (limits : OverlayLimits)
    : let menu := (CompletionMenu.ofPageSize pageSize).performAll operations
      (menu.isOpen = true
        → ∃ overlay column,
            let width := overlay.rect.width.toNat
            let paged := menu.setPageSize overlay.rect.height.toNat
            ofMenu? widths menu area limits = some (overlay, paged)
            ∧ overlay.lines.length = overlay.rect.height.toNat
            ∧ (∀ line ∈ overlay.lines,
                widths.columns line.toList = width
                ∧ ∀ char ∈ line.toList, isControl char = false)
            ∧ IsLabelColumn widths menu.ranked column
            ∧ List.Forall₂ (ShowsCandidate widths column width) paged.page.candidates
                overlay.lines
            ∧ (∃ row candidate line,
                overlay.selectedRow = some row
                ∧ row < overlay.rect.height.toNat
                ∧ menu.selected? = some candidate
                ∧ overlay.lines[row]? = some line
                ∧ ShowsCandidate widths column width candidate line)
            ∧ paged.pageSize = overlay.rect.height.toNat
            ∧ overlay.rect.height.toNat
              ≤ min (max limits.maxItems.toNat 1) menu.ranked.length)
      ∧ ∀ texts,
          texts ≠ []
          → ∃ overlay,
              let width := overlay.rect.width.toNat
              ofLines? widths texts area limits = some overlay
              ∧ overlay.lines.length = overlay.rect.height.toNat
              ∧ (∀ line ∈ overlay.lines,
                  widths.columns line.toList = width
                  ∧ ∀ char ∈ line.toList, isControl char = false)
              ∧ List.Forall₂ (fun text line => IsLine widths width text.toList line)
                  (texts.take overlay.rect.height.toNat) overlay.lines := by
  intro menu
  have sound : menu.Sound := (CompletionMenu.ofPageSize_sound pageSize).performAll operations
  refine ⟨fun isOpen => ?_, fun texts inhabited => ?_⟩
  · obtain ⟨overlay, shown, ⟨rows, most⟩, marked, lines⟩ :=
      ofMenu?_of_isOpen widths isOpen area limits
    let paged := menu.setPageSize overlay.rect.height.toNat
    have sound' : paged.Sound := sound.perform (.setPageSize overlay.rect.height.toNat)
    have inhabited : paged.ranked ≠ [] := CompletionMenu.isOpen_iff.mp isOpen
    have size : paged.pageSize = overlay.rect.height.toNat := Nat.max_eq_left rows
    have full : paged.page.candidates.length = overlay.rect.height.toNat := by
      rw [sound'.length_page inhabited, size]
      exact Nat.min_eq_left (Nat.le_trans most (Nat.min_le_left _ _))
    obtain ⟨row, candidate, isRow, atRow, selected⟩ := sound'.selectedRow inhabited
    have within : row < paged.page.candidates.length :=
      (List.getElem?_eq_some_iff.mp atRow).1
    have shows := showsCandidate_of_mem_page widths inhabited overlay.rect.width.toNat
    refine ⟨overlay, _, shown, ?_, ?_, isLabelColumn_menuWidths widths inhabited, ?_,
      ⟨row, candidate, _, marked.trans isRow, full ▸ within, selected, ?_, shows candidate ?_⟩,
      size, by omega⟩
    · rw [lines, List.length_map, full]
    · rw [lines]
      exact lines_fit widths _ _ _
    · rw [lines]
      exact List.forall₂_map_right_iff.mpr (List.forall₂_same.mpr shows)
    · rw [lines, List.getElem?_map, atRow]
      rfl
    · exact List.mem_of_getElem? atRow
  · obtain ⟨overlay, shown, most, lines⟩ := ofLines?_of_inhabited widths inhabited area limits
    refine ⟨overlay, shown, ?_, ?_, ?_⟩
    · rw [lines, List.length_map]
      exact List.length_take_of_le most
    · rw [lines]
      exact lines_fit widths _ id _
    · rw [lines]
      exact List.forall₂_map_right_iff.mpr
        (List.forall₂_same.mpr fun text _ => fitToWidth_isLine widths _ text)

/-- Suggestions in order: one with a control character, and two with details, one of them in wide
characters.
-/
def suggestions : List Candidate :=
  [
    { label := "a\tb" },
    { label := "len", detail := some "usize" },
    { label := "言語", detail := some "文字列" }
  ]

theorem ranked_suggestions : Candidate.ranked suggestions "" = suggestions := by
  have all : Candidate.matching suggestions "" = suggestions := by decide +kernel
  rw [Candidate.ranked, all]
  exact List.mergeSort_of_pairwise (by decide +kernel)

theorem overlays_fit_suggestions
    : let menu :=
        (CompletionMenu.ofPageSize 10).performAll [.setCandidates suggestions, .selectPrevious]
      let limits : OverlayLimits := { maxItems := 2, maxWidth := 8 }
      let texts := ["error: 言語", "a\tb"]
      menu.isOpen = true
      ∧ texts ≠ []
      ∧ (∃ overlay column,
          ofMenu? .terminal menu .crampedArea limits = some (overlay, menu.setPageSize 2)
          ∧ overlay.rect = { x := 30, y := 13, width := 8, height := 2 }
          ∧ overlay.lines = ["len  usi", "言語 文 "]
          ∧ overlay.selectedRow = some 1
          ∧ menu.selected?.map (·.label) = some "言語"
          ∧ IsLabelColumn .terminal menu.ranked column
          ∧ List.Forall₂ (ShowsCandidate .terminal column 8) (suggestions.drop 1)
              ["len  usi", "言語 文 "])
      ∧ ∃ overlay,
          ofLines? .terminal texts .crampedArea limits = some overlay
          ∧ overlay.lines = ["error:  ", "a b     "]
          ∧ List.Forall₂ (fun text line => IsLine .terminal 8 text.toList line) texts
              ["error:  ", "a b     "] := by
  intro menu limits texts
  have same
      : menu = { all := suggestions, ranked := suggestions, selection := 3, pageSize := 10 } := by
    change (CompletionMenu.refresh { all := suggestions, pageSize := 10 }).selectPrevious = _
    rw [CompletionMenu.refresh, ranked_suggestions]
    decide +kernel
  have isOpen : menu.isOpen = true := same ▸ rfl
  have inhabited : texts ≠ [] := List.cons_ne_nil _ _
  have drawn
      : ofMenu? .terminal menu .crampedArea limits
        = some
            (
              {
                kind := .completion
                rect := { x := 30, y := 13, width := 8, height := 2 }
                lines := ["len  usi", "言語 文 "]
                selectedRow := some 1
              },
              menu.setPageSize 2
            ) := by
    rw [same]
    decide +kernel
  have written
      : ofLines? .terminal texts .crampedArea limits
        = some
            {
              kind := .message
              rect := { x := 30, y := 13, width := 8, height := 2 }
              lines := ["error:  ", "a b     "]
              selectedRow := none
            } := by
    decide +kernel
  obtain ⟨ofMenu, ofTexts⟩ :=
    overlays_fit .terminal 10 [.setCandidates suggestions, .selectPrevious] .crampedArea limits
  obtain ⟨overlay, column, shown, -, -, isColumn, shows, -⟩ := ofMenu isOpen
  obtain ⟨rfl, -⟩ := Prod.mk.inj (Option.some.inj (shown.symm.trans drawn))
  obtain ⟨message, shown', -, -, shows'⟩ := ofTexts texts inhabited
  obtain rfl := Option.some.inj (shown'.symm.trans written)
  have onPage : (menu.setPageSize 2).page.candidates = suggestions.drop 1 := by
    rw [same]
    decide +kernel
  have selected : menu.selected?.map (·.label) = some "言語" := by
    rw [same]
    rfl
  exact ⟨isOpen, inhabited, ⟨_, column, shown, rfl, rfl, rfl, selected, isColumn,
    onPage ▸ shows⟩, _, shown', rfl, shows'⟩

end Overlay

end LanguageClient
