import LanguageClient.Client.Actions
import LanguageClient.Server.Event
import LanguageClient.Session.Receive

/-!
What a client does about what its server says, and how it starts and stops with a server.
-/

namespace LanguageClient.Client

variable {σ : Type} [Host σ]

/-- Show the candidates of a reply, if the word that they are for is still being completed. -/
def showCandidates (client : Client) (host : σ) (candidates : List Candidate) : Client × σ :=
  if client.anchor.isNone then
    (client, host)
  else
    let filled := { client with menu := client.menu.setCandidates candidates }
    if filled.menu.isOpen then
      filled.renderCompletion host
    else
      let (closed, hidden) := filled.closeCompletion host
      (closed, Host.showStatus "no completions" hidden)

/-- Apply the edits of a reply to the editor's document. -/
def applyFormatting (client : Client) (host : σ) (edits : List TextEdit) : Client × σ :=
  if edits.isEmpty then
    (client, report host .noResults)
  else
    let (told, edited) := client.documentChanged (applyEdits host edits)
    (
      told,
      Host.showStatus ("applied " ++ toString edits.length ++ " formatting edits") edited
    )

/-- React to a reply. -/
def handleReply (client : Client) (host : σ) : Reply → Client × σ
  | .completion candidates => client.showCandidates host candidates
  | .formatting edits => client.applyFormatting host edits
  | .definition [] => (client, report host .noResults)
  | .definition (location :: _) => client.jumpTo host location
  | .references [] => (client, report host .noResults)
  | .references locations => client.showReferences host locations
  | .error reason => (client, report host (.refused reason))
  | .handshake _ | .shutdown | .other _ => (client, host)

/-- Say how many errors and warnings a document has, when it has any. -/
def showCounts (host : σ) (diagnostics : List Diagnostic) : σ :=
  let errors := diagnostics.countP (·.severity = .error)
  let warnings := diagnostics.countP (·.severity = .warning)
  if errors + warnings = 0 then
    host
  else
    Host.showStatus (toString errors ++ " errors, " ++ toString warnings ++ " warnings") host

/-- React to an event of the session. -/
def handleEvent (client : Client) (host : σ) : SessionEvent → Client × σ
  | .initialized info =>
    (client, Host.showStatus (info.label?.getD "language server" ++ " ready") host)
  | .reply _ reply => client.handleReply host reply
  | .diagnostics publication => (client, showCounts host publication.diagnostics)
  | .shown notice => (client, Host.showStatus notice.text host)
  | .logged _ => (client, host)

/-- React to the events that wait. -/
def processEvents (client : Client) (host : σ) : Client × σ :=
  let (events, session) := client.session.drainEvents
  events.foldl (fun turn event => turn.1.handleEvent turn.2 event) ({ client with session }, host)

/-- React to bytes from the server. -/
def receive (client : Client) (host : σ) (chunk : List UInt8) : Client × σ :=
  { client with session := client.session.receive chunk }.processEvents host

/-- Detach the server, without a word to it. -/
def stop (client : Client) (host : σ) : Client × σ :=
  let (closed, hidden) := client.closeCompletion host
  ({ closed with session := closed.session.stop }, hidden)

/-- Attach a server: greet it and tell it about the editor's document. -/
def start (client : Client) (host : σ) (transport : Transport) (root : String)
    : Except ClientError Unit × Client × σ :=
  let (closed, hidden) := client.closeCompletion host
  let workspace := Workspace.ofPath (Host.files hidden) root
  let (greeting, session) := (closed.session.start transport).requestHandshake workspace
  let greeted := { closed with session }
  match greeting with
  | .error error => (.error error, greeted, hidden)
  | .ok _ =>
    let (result, told) := greeted.openActiveDocument hidden
    (result, told, hidden)

/-- Attach a server in place of another one. -/
def restart (client : Client) (host : σ) (transport : Transport) (root : String)
    : Except ClientError Unit × Client × σ :=
  let (stopped, hidden) := client.stop host
  stopped.start hidden transport root

/-- React to an event of the running server. -/
def handleServerEvent (client : Client) (host : σ) : ServerEvent → Client × σ
  | .output bytes => client.receive host bytes
  | .errorLine _ => (client, host)
  | .exited status =>
    let (stopped, hidden) := client.stop host
    let message :=
      match status with
      | some status => "language server exited with status " ++ toString status
      | none => "language server exited"
    (stopped, Host.showStatus message hidden)

end LanguageClient.Client
