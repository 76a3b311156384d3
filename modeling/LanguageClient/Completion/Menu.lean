import LanguageClient.Completion.Candidate
import LanguageClient.Text.Lowercase

/-!
The completion menu: the candidates that match what has been typed, in order, and the page of
them that shows the selected one.
-/

namespace LanguageClient

namespace Text

/-- Whether a text stands somewhere inside another one. -/
def isWithin (part : List Char) : List Char → Bool
  | [] => part.isEmpty
  | char :: rest => part.isPrefixOf (char :: rest) || isWithin part rest

end Text

namespace Candidate

/-- Whether a candidate's key holds the typed text in any case. -/
def matchesTyped (typed : String) (candidate : Candidate) : Bool :=
  Text.isWithin (Text.lowercase typed).toList (Text.lowercase candidate.filterKey).toList

/-- The candidates that match the typed text, or all of them when none does. -/
def matching (candidates : List Candidate) (typed : String) : List Candidate :=
  let matched := candidates.filter (matchesTyped typed)
  if matched.isEmpty then candidates else matched

/-- The matching candidates by sort key. Those of one key stay in their order. -/
def ranked (candidates : List Candidate) (typed : String) : List Candidate :=
  (matching candidates typed).mergeSort fun left right => !decide (right.sortKey < left.sortKey)

end Candidate

-----------------------------------------------------------------------------------------
-- Pages
-----------------------------------------------------------------------------------------

namespace Paging

/-- A selection among `count` candidates, from one. Outside it is the first one. -/
def clampSelection (selection count : Nat) : Nat :=
  if selection = 0 || selection > count then 1 else selection

/--
How many candidates are above the page that shows the selected one, moved as little as possible
from an offset. The last page is full.
-/
def scrollTo (selection offset pageSize count : Nat) : Nat :=
  let moved :=
    if selection > offset + pageSize then
      selection - pageSize
    else if selection ≤ offset then
      selection - 1
    else
      offset
  min moved (count - pageSize)

end Paging

/-- A page of a menu. -/
structure MenuPage where
  candidates : List Candidate
  /-- The number of the selected candidate in the whole menu, from one; zero when it is empty. -/
  selection : Nat
  /-- How many candidates are above the page. -/
  offset : Nat
  /-- How many candidates the whole menu has. -/
  total : Nat
deriving DecidableEq, Repr

namespace MenuPage

/-- The row of the selected candidate on the page. -/
def selectedRow? (page : MenuPage) : Option Nat :=
  if page.offset < page.selection && page.selection - page.offset - 1 < page.candidates.length then
    some (page.selection - page.offset - 1)
  else
    none

/-- The page of candidates at an offset. -/
def ofRanked (ranked : List Candidate) (selection offset pageSize : Nat) : MenuPage where
  candidates := (ranked.drop offset).take pageSize
  selection
  offset
  total := ranked.length

/-- The page that shows the selected one of the candidates that match the typed text. -/
def compute (candidates : List Candidate) (typed : String) (selection offset pageSize : Nat)
    : MenuPage :=
  let ranked := Candidate.ranked candidates typed
  if ranked.isEmpty then
    { candidates := [], selection := 0, offset := 0, total := 0 }
  else
    let size := max pageSize 1
    let selected := Paging.clampSelection selection ranked.length
    ofRanked ranked selected (Paging.scrollTo selected offset size ranked.length) size

end MenuPage

-----------------------------------------------------------------------------------------
-- The menu
-----------------------------------------------------------------------------------------

/-- A completion menu between keystrokes. -/
structure CompletionMenu where
  /-- The candidates of the last answer. -/
  all : List Candidate := []
  typed : String := ""
  /-- The candidates that match the typed text, in order. -/
  ranked : List Candidate := []
  /-- The number of the selected candidate, from one; zero when there is none. -/
  selection : Nat := 0
  /-- How many candidates are above the page. -/
  offset : Nat := 0
  pageSize : Nat := 10
deriving DecidableEq, Repr

namespace CompletionMenu

/-- An empty menu with pages of the given size, which is one at least. -/
def ofPageSize (pageSize : Nat) : CompletionMenu where
  pageSize := max pageSize 1

/-- Whether the menu has something to show. -/
def isOpen (menu : CompletionMenu) : Bool :=
  !menu.ranked.isEmpty

/-- Scroll to the selected candidate. -/
def rescroll (menu : CompletionMenu) : CompletionMenu :=
  { menu with
    offset :=
      if menu.ranked.isEmpty then
        0
      else
        Paging.scrollTo menu.selection menu.offset menu.pageSize menu.ranked.length }

/-- Rank the candidates again. The selection stays where it can. -/
def refresh (menu : CompletionMenu) : CompletionMenu :=
  let ranked := Candidate.ranked menu.all menu.typed
  if ranked.isEmpty then
    { menu with ranked, selection := 0, offset := 0 }
  else
    rescroll
      { menu with ranked, selection := Paging.clampSelection menu.selection ranked.length }

/-- Show the candidates of a new answer. -/
def setCandidates (menu : CompletionMenu) (candidates : List Candidate) : CompletionMenu :=
  refresh { menu with all := candidates }

/-- Show the candidates that match a new text. -/
def setTyped (menu : CompletionMenu) (typed : String) : CompletionMenu :=
  refresh { menu with typed }

/-- Change the size of pages, which is one at least. -/
def setPageSize (menu : CompletionMenu) (pageSize : Nat) : CompletionMenu :=
  rescroll { menu with pageSize := max pageSize 1 }

/-- Move the selection of a menu that has one, and scroll to it. -/
def moveSelection (menu : CompletionMenu) (move : Nat → Nat → Nat) : CompletionMenu :=
  if menu.ranked.isEmpty then
    menu
  else
    rescroll { menu with selection := move menu.ranked.length menu.selection }

/-- Select the next candidate. The first one follows the last. -/
def selectNext (menu : CompletionMenu) : CompletionMenu :=
  menu.moveSelection fun count selection => selection % count + 1

/-- Select the candidate before. The last one is before the first. -/
def selectPrevious (menu : CompletionMenu) : CompletionMenu :=
  menu.moveSelection fun count selection => if selection ≤ 1 then count else selection - 1

/-- Move down by a page, at most to the last candidate. -/
def pageDown (menu : CompletionMenu) : CompletionMenu :=
  menu.moveSelection fun count selection => min (selection + menu.pageSize) count

/-- Move up by a page, at most to the first candidate. -/
def pageUp (menu : CompletionMenu) : CompletionMenu :=
  menu.moveSelection fun _ selection => max (selection - menu.pageSize) 1

/-- Select a candidate by its number, or the first one when there is no such number. -/
def select (menu : CompletionMenu) (number : Nat) : CompletionMenu :=
  menu.moveSelection fun count _ => Paging.clampSelection number count

/-- The selected candidate. -/
def selected? (menu : CompletionMenu) : Option Candidate :=
  if menu.selection = 0 then none else menu.ranked[menu.selection - 1]?

/-- The page with the selected candidate. -/
def page (menu : CompletionMenu) : MenuPage :=
  .ofRanked menu.ranked menu.selection menu.offset menu.pageSize

/-- Close the menu and forget its candidates. Pages keep their size. -/
def clear (menu : CompletionMenu) : CompletionMenu where
  pageSize := menu.pageSize

end CompletionMenu

end LanguageClient
