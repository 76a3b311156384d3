import LanguageClient.Client.Basic
import LanguageClient.Completion.Word
import LanguageClient.Text.Width

/-!
Completion while typing: the menu follows the word before the cursor until that word is left, a
candidate is accepted, or the menu is closed.
-/

namespace LanguageClient.Client

variable {σ : Type} [Host σ]

/-- Close the menu and stop awaiting candidates. -/
def closeCompletion (client : Client) (host : σ) : Client × σ :=
  let released := { client with session := client.session.releasePending }
  if client.anchor.isSome || client.menu.isOpen then
    ({ released with anchor := none, menu := client.menu.clear }, Host.hideOverlay host)
  else
    (released, host)

/-- Show the menu at its word, where that is in view. -/
def renderCompletion (client : Client) (host : σ) : Client × σ :=
  match client.anchor with
  | none => (client, host)
  | some anchor =>
    match overlayArea? host anchor with
    | none => (client, Host.hideOverlay host)
    | some area =>
      match Overlay.ofMenu? .terminal client.menu area client.limits with
      | none => (client, Host.hideOverlay host)
      | some (overlay, menu) => ({ client with menu }, Host.showOverlay overlay host)

/-- The start of the word before the cursor, and the word. -/
def typedWord (host : σ) : TextPoint × String :=
  let cursor := Host.cursor host
  let line := lineChars host cursor.line
  (
    { line := cursor.line, column := Word.start line cursor.column },
    String.ofList (Word.before line cursor.column)
  )

/-- Ask for completions at the cursor. -/
def triggerCompletion (client : Client) (host : σ) : Client × σ :=
  let (start, typed) := typedWord host
  match client.session.requestCompletion (positionOf host (Host.cursor host)) with
  | (.ok _, session) =>
    ({ client with session, anchor := some start, menu := client.menu.setTyped typed }, host)
  | (.error error, session) =>
    let (closed, hidden) := { client with session }.closeCompletion host
    (closed, report hidden error)

/-- Follow the typed word: ask again while it starts at the same point, else close the menu. -/
def updateCompletion (client : Client) (host : σ) : Client × σ :=
  match client.anchor with
  | none => (client, host)
  | some anchor =>
    let (start, typed) := typedWord host
    if start = anchor then
      let asked := client.session.requestCompletion (positionOf host (Host.cursor host))
      { client with session := asked.2, menu := client.menu.setTyped typed }.renderCompletion
        host
    else
      client.closeCompletion host

/-- Tell the server that the text has changed, and follow the typed word. -/
def documentChanged (client : Client) (host : σ) : Client × σ :=
  let told :=
    if client.session.active.isSome then
      { client with session := (client.session.changeDocument (Host.documentText host)).2 }
    else
      client
  told.updateCompletion host

/-- Move the selection of an open menu, and say whether there is one. -/
def navigate (client : Client) (host : σ) (move : CompletionMenu → CompletionMenu)
    : Bool × Client × σ :=
  if client.anchor.isSome && client.menu.isOpen then
    (true, { client with menu := move client.menu }.renderCompletion host)
  else
    (false, client, host)

def selectNext (client : Client) (host : σ) : Bool × Client × σ :=
  client.navigate host CompletionMenu.selectNext

def selectPrevious (client : Client) (host : σ) : Bool × Client × σ :=
  client.navigate host CompletionMenu.selectPrevious

def pageDown (client : Client) (host : σ) : Bool × Client × σ :=
  client.navigate host CompletionMenu.pageDown

def pageUp (client : Client) (host : σ) : Bool × Client × σ :=
  client.navigate host CompletionMenu.pageUp

/--
Where the text of a candidate goes: where its range starts, if that is before the cursor on its
line, and else where the typed word does.
-/
def insertionStart (host : σ) (anchor : TextPoint) (candidate : Candidate) : TextPoint :=
  let cursor := Host.cursor host
  match candidate.editRange with
  | none => anchor
  | some range =>
    let start := pointOf host range.start
    if start.line = cursor.line && start.column ≤ cursor.column then start else anchor

/-- Put the selected candidate in place of the typed word, and say whether there is one. -/
def acceptCompletion (client : Client) (host : σ) : Bool × Client × σ :=
  match client.anchor with
  | none => (false, client, host)
  | some anchor =>
    match client.menu.selected? with
    | none => (false, client.closeCompletion host)
    | some candidate =>
      let start := insertionStart host anchor candidate
      let text := candidate.textToInsert
      let replaced := Host.replaceRange start (Host.cursor host) text host
      let (closed, hidden) :=
        client.closeCompletion (Host.setCursor (endOfInsert start text) replaced)
      (true, closed.documentChanged hidden)

end LanguageClient.Client
