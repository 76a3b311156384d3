import LanguageClient.Session.Send

/-!
Documents that the server is told about. Until the server is ready their texts are held back.
-/

namespace LanguageClient.Session

open Json (Value)

/-- The reference to a document. -/
def documentReference (uri : String) : Value :=
  .ofFields [("uri", .text uri)]

def openParams (uri : String) (document : OpenDocument) (text : String) : Value :=
  .ofFields
    [
      (
        "textDocument",
        .ofFields
          [
            ("uri", .text uri),
            ("languageId", .text document.language),
            ("version", .ofNat document.version),
            ("text", .text text)
          ]
      )
    ]

def changeParams (uri : String) (version : Nat) (text : String) : Value :=
  .ofFields
    [
      ("textDocument", .ofFields [("uri", .text uri), ("version", .ofNat version)]),
      ("contentChanges", .array [.ofFields [("text", .text text)]])
    ]

def saveParams (uri : String) (text : Option String) : Value :=
  .ofFields
    (("textDocument", documentReference uri)
      :: (text.map fun content => ("text", Value.text content)).toList)

def closeParams (uri : String) : Value :=
  .ofFields [("textDocument", documentReference uri)]

/-- Tell the server about a document. -/
def sendOpen (session : Session) (uri : String) (document : OpenDocument) (text : String)
    : Outcome Unit :=
  session.notify "textDocument/didOpen" (openParams uri document text)

/-- The active document of a running session. -/
def activeUri (session : Session) : Except ClientError String :=
  if session.isRunning then
    match session.active with
    | some uri => .ok uri
    | none => .error .noActiveDocument
  else
    .error .notRunning

/-- Make a document the active one. Another one's diagnostics are forgotten. -/
def setActive (session : Session) (uri : String) : Session :=
  if session.active = some uri then
    session
  else
    { session with active := some uri, diagnostics := [] }

/-- Give a document a new state. -/
def setDocument (session : Session) (uri : String) (document : OpenDocument) : Session :=
  { session with documents := session.documents.insert uri document }

/-- Tell the server the whole new text of the active document. -/
def changeDocument (session : Session) (text : String) : Outcome Unit :=
  match session.activeUri with
  | .error error => (.error error, session)
  | .ok uri =>
    match session.documents.get? uri with
    | none => (.error .noActiveDocument, session)
    | some document =>
      match document.unopenedText with
      | some _ => (.ok (), session.setDocument uri { document with unopenedText := some text })
      | none =>
        let version := document.version + 1
        (session.setDocument uri { document with version }).notify "textDocument/didChange"
          (changeParams uri version text)

/-- Open a document and make it the active one. A known document gets a new text. -/
def openDocument (session : Session) (uri language text : String) : Outcome Unit :=
  if !session.isRunning then
    (.error .notRunning, session)
  else
    let activated := session.setActive uri
    match session.documents.get? uri with
    | some _ => activated.changeDocument text
    | none =>
      if session.initialized then
        let document : OpenDocument := { language, version := 1, unopenedText := none }
        (activated.setDocument uri document).sendOpen uri document text
      else
        (.ok (), activated.setDocument uri { language, version := 1, unopenedText := some text })

/-- Whether the server has not been told about a document yet. -/
def isUnopened (session : Session) (uri : String) : Bool :=
  (session.documents.get? uri).any (·.unopenedText.isSome)

/-- Tell the server that the active document has been saved. -/
def saveDocument (session : Session) (text : Option String) : Outcome Unit :=
  match session.activeUri with
  | .error error => (.error error, session)
  | .ok uri =>
    if session.isUnopened uri then
      (.ok (), session)
    else
      session.notify "textDocument/didSave" (saveParams uri text)

/-- Close the active document. -/
def closeDocument (session : Session) : Outcome Unit :=
  match session.activeUri with
  | .error error => (.error error, session)
  | .ok uri =>
    let closed :=
      { session with active := none, diagnostics := [], documents := session.documents.erase uri }
    match session.documents.get? uri with
    | none => (.ok (), closed)
    | some document =>
      match document.unopenedText with
      | some _ => (.ok (), closed)
      | none => closed.notify "textDocument/didClose" (closeParams uri)

/-- The documents that the server has not been told about, with their texts. -/
def unopened (documents : Keyed OpenDocument) : List (String × OpenDocument × String) :=
  documents.filterMap fun named =>
    named.2.unopenedText.map fun text => (named.1, named.2, text)

/-- Take the texts that were held back. -/
def markOpened (documents : Keyed OpenDocument) : Keyed OpenDocument :=
  documents.map fun named => (named.1, { named.2 with unopenedText := none })

/-- Tell the server about documents until one message does not go out. -/
def sendOpens (session : Session) : List (String × OpenDocument × String) → Outcome Unit
  | [] => (.ok (), session)
  | (uri, document, text) :: rest =>
    match session.sendOpen uri document text with
    | (.ok (), sent) => sendOpens sent rest
    | (.error error, failed) => (.error error, failed)

/-- Tell the server about every document that was held back. -/
def flushDocuments (session : Session) : Outcome Unit :=
  { session with documents := markOpened session.documents }.sendOpens
    (unopened session.documents)

end LanguageClient.Session
