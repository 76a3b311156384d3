import LanguageClient.Files.Tree
import LanguageClient.Session.Documents
import LanguageClient.Uri

/-!
What a client asks of a server.
-/

namespace LanguageClient

open Json (Value)

/-- The directory that a server works on. -/
structure Workspace where
  uri : String
  name : String
deriving DecidableEq, Repr

/-- The workspace at a path, with the last name of the path for its name. -/
def Workspace.ofPath (tree : FileTree) (path : String) : Workspace where
  uri := Uri.ofPath tree path
  name := ((Path.fileName? path).map String.ofList).getD "workspace"

namespace Session

/-- What a client can do, as it tells servers. -/
def capabilities : Value :=
  .ofFields
    [
      (
        "workspace",
        .ofFields [("configuration", .boolean true), ("workspaceFolders", .boolean true)]
      ),
      (
        "textDocument",
        .ofFields
          [
            ("synchronization", .ofFields [("didSave", .boolean true)]),
            (
              "completion",
              .ofFields [("completionItem", .ofFields [("snippetSupport", .boolean false)])]
            ),
            ("publishDiagnostics", .ofFields [("relatedInformation", .boolean false)])
          ]
      )
    ]

/-- How a client calls itself. -/
def clientInfo : Value :=
  .ofFields [("name", .text "lspop"), ("version", .text "0.1.0")]

def handshakeParams (processId : Nat) (workspace : Workspace) : Value :=
  .ofFields
    [
      ("processId", .ofNat processId),
      ("rootUri", .text workspace.uri),
      (
        "workspaceFolders",
        .array [.ofFields [("uri", .text workspace.uri), ("name", .text workspace.name)]]
      ),
      ("capabilities", capabilities),
      ("clientInfo", clientInfo)
    ]

/-- Greet a server, which is the first request to it. -/
def requestHandshake (session : Session) (workspace : Workspace) : Outcome RequestHandle :=
  if session.isRunning then
    session.request .handshake (handshakeParams session.options.processId workspace)
  else
    (.error .notRunning, session)

/-- Ask a server to shut down. It is told to exit when it agrees. -/
def requestShutdown (session : Session) : Outcome RequestHandle :=
  session.request .shutdown .null

/-- Send a request about the active document to a server that is ready. -/
def requestAboutDocument (session : Session) (method : Method) (extra : List (String × Value))
    : Outcome RequestHandle :=
  match session.activeUri with
  | .error error => (.error error, session)
  | .ok uri =>
    if session.initialized then
      session.request method (.ofFields (("textDocument", documentReference uri) :: extra))
    else
      (.error .notInitialized, session)

/-- Ask for completions at a position. -/
def requestCompletion (session : Session) (position : Position) : Outcome RequestHandle :=
  session.requestAboutDocument .completion [("position", position.toValue)]

/-- Ask for the edits that format the document. -/
def requestFormatting (session : Session) (tabSize : UInt32) (insertSpaces : Bool)
    : Outcome RequestHandle :=
  session.requestAboutDocument .formatting
    [
      (
        "options",
        .ofFields [("tabSize", .ofNat tabSize.toNat), ("insertSpaces", .boolean insertSpaces)]
      )
    ]

/-- Ask where the symbol at a position is defined. -/
def requestDefinition (session : Session) (position : Position) : Outcome RequestHandle :=
  session.requestAboutDocument .definition [("position", position.toValue)]

/-- Ask where the symbol at a position is used. -/
def requestReferences (session : Session) (position : Position) (includeDeclaration : Bool)
    : Outcome RequestHandle :=
  session.requestAboutDocument .references
    [
      ("position", position.toValue),
      ("context", .ofFields [("includeDeclaration", .boolean includeDeclaration)])
    ]

end Session

end LanguageClient
