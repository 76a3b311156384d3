import LanguageClient.Client.Completion

/-!
What the user can ask a client for, apart from completion.
-/

namespace LanguageClient.Client

variable {σ : Type} [Host σ]

/-- Take over the session of a request, and show what went wrong with it. -/
def asked (client : Client) (host : σ) (outcome : Session.Outcome RequestHandle)
    : Client × σ :=
  let told := { client with session := outcome.2 }
  match outcome.1 with
  | .ok _ => (told, host)
  | .error error => (told, report host error)

/-- Tell the server that the document has been saved. Without one there is nothing to tell. -/
def save (client : Client) (host : σ) : Client × σ :=
  let (result, session) := client.session.saveDocument none
  let told := { client with session }
  match result with
  | .ok () | .error .notRunning | .error .noActiveDocument => (told, host)
  | .error error => (told, report host error)

/-- Ask for the edits that format the document. -/
def format (client : Client) (host : σ) : Client × σ :=
  client.asked host (client.session.requestFormatting client.tabSize client.insertSpaces)

/-- Ask where the symbol at the cursor is defined. -/
def goToDefinition (client : Client) (host : σ) : Client × σ :=
  client.asked host (client.session.requestDefinition (positionOf host (Host.cursor host)))

/-- Ask where the symbol at the cursor is used. -/
def findReferences (client : Client) (host : σ) : Client × σ :=
  client.asked host
    (client.session.requestReferences (positionOf host (Host.cursor host)) true)

/-- Show lines at a point in view, in place of any menu. -/
def showLines (client : Client) (host : σ) (point : TextPoint) (lines : List String)
    : Client × σ :=
  let (closed, hidden) := client.closeCompletion host
  match (overlayArea? hidden point).bind (Overlay.ofLines? .terminal lines · client.limits) with
  | none => (closed, hidden)
  | some overlay => (closed, Host.showOverlay overlay hidden)

/-- A diagnostic on one line. -/
def diagnosticLine (diagnostic : Diagnostic) : String :=
  let spaced := diagnostic.message.toList.map fun char => if char = '\n' then ' ' else char
  diagnostic.severity.label ++ ": " ++ String.ofList spaced

/-- Show the diagnostics of the line with the cursor. -/
def showLineDiagnostics (client : Client) (host : σ) : Client × σ :=
  let cursor := Host.cursor host
  match client.session.diagnosticsOnLine (.ofNat cursor.line) with
  | [] => (client, Host.showStatus "no diagnostics on this line" host)
  | diagnostics => client.showLines host cursor (diagnostics.map diagnosticLine)

/-- A place where a symbol is used, with line and column from one. -/
def referenceLine (location : Location) : String :=
  let start := location.range.start
  location.path?.getD location.uri ++ ":" ++ toString (start.line + 1).toNat
    ++ ":" ++ toString (start.character + 1).toNat

/-- Show where a symbol is used. -/
def showReferences (client : Client) (host : σ) (locations : List Location) : Client × σ :=
  let shown := Host.showStatus (toString locations.length ++ " references") host
  client.showLines shown (Host.cursor shown) (locations.map referenceLine)

/-- Tell the server about the editor's document. One without a path stays untold. -/
def openActiveDocument (client : Client) (host : σ) : Except ClientError Unit × Client :=
  match Host.documentPath host with
  | none => (.ok (), client)
  | some path =>
    let uri := Uri.ofPath (Host.files host) path
    let (result, session) :=
      client.session.openDocument uri (Host.language host) (Host.documentText host)
    (result, { client with session })

/-- Move the cursor to the start of a location in the editor's document. -/
def moveTo (host : σ) (path : String) (location : Location) : σ :=
  let point := pointOf host location.range.start
  Host.showStatus (path ++ ":" ++ toString (point.line + 1)) (Host.setCursor point host)

/-- Go to a location, which may be in another document. -/
def jumpTo (client : Client) (host : σ) (location : Location) : Client × σ :=
  match location.path? with
  | none => (client, Host.showStatus ("cannot open " ++ location.uri) host)
  | some path =>
    let current := (Host.documentPath host).map (Uri.ofPath (Host.files host))
    if current = some location.uri then
      (client, moveTo host path location)
    else
      match Host.openFile path host with
      | (.error reason, unopened) =>
        (client, Host.showStatus ("cannot open " ++ path ++ ": " ++ reason) unopened)
      | (.ok (), opened) => ((client.openActiveDocument opened).2, moveTo opened path location)

/--
Apply the edits of a list, each at the points that its range has in the text as it is by then.
-/
def applyEdits (host : σ) (edits : List TextEdit) : σ :=
  (TextEdit.applicationOrder edits).foldl
    (fun edited edit =>
      let start := pointOf edited edit.range.start
      let stop := pointOf edited edit.range.stop
      Host.replaceRange (start.first stop) (start.last stop) edit.newText edited)
    host

end LanguageClient.Client
