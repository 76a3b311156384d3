import LanguageClient.Proofs.Client.FormattedText
import LanguageClient.Proofs.Session.Chunks
import LanguageClient.Proofs.Session.Connection

/-! The server's copy of a document follows the editor. Whoever changes the text, the editor or
the client, the client tells it before the call ends; and whoever shows another document, the
client opens it.
-/

namespace LanguageClient

open Json (Value)

variable {σ : Type} [Host σ]

/-- The document that an editor shows: its path, when it has one, and its text. -/
def Client.shownDocument (host : σ) : Option String × String :=
  (Host.documentPath host, Host.documentText host)

/-- An editor whose document only changes when it is told to change it, and when it says so. -/
class SteadyDocument (σ : Type) [Host σ] : Prop where
  document_showStatus
    : ∀ (message : String) (host : σ),
        Client.shownDocument (Host.showStatus message host) = Client.shownDocument host
  document_showOverlay
    : ∀ (overlay : Overlay) (host : σ),
        Client.shownDocument (Host.showOverlay overlay host) = Client.shownDocument host
  document_hideOverlay
    : ∀ host : σ, Client.shownDocument (Host.hideOverlay host) = Client.shownDocument host
  document_setCursor
    : ∀ (point : TextPoint) (host : σ),
        Client.shownDocument (Host.setCursor point host) = Client.shownDocument host
  document_openFile
    : ∀ {path reason : String} {host unopened : σ},
        Host.openFile path host = (.error reason, unopened)
        → Client.shownDocument unopened = Client.shownDocument host

-----------------------------------------------------------------------------------------
-- Texts of a session
-----------------------------------------------------------------------------------------

namespace Session

/-- The text given last is held back until the handshake has ended. -/
theorem Told.unopenedText_eq {session : Session} {text uri : String} (told : session.Told text)
    (running : session.isRunning = true) (unready : session.initialized = false)
    (active : session.active = some uri)
    : (session.documents.get? uri).bind (·.unopenedText) = some text := by
  obtain ⟨earlier, given, ⟨sent, mirror, _, _, synced⟩, current⟩ := told
  have held := (synced.held unready).2 uri
  rw [current running uri (synced.sameActive.trans active)] at held
  obtain ⟨document, found, same⟩ := Option.map_eq_some_iff.mp held
  change session.documents.get? uri = some document at found
  rw [found]
  exact (Prod.mk.inj same).2

theorem Told.receive {session : Session} {text : String} (told : session.Told text)
    (chunk : List UInt8)
    : (session.receive chunk).Told text := by
  obtain ⟨earlier, given, tracked, current⟩ := told
  exact ⟨earlier, given, tracked.receive chunk, fun runs => current (receive_unasked runs).2⟩

theorem Told.drainEvents {session : Session} {text : String} (told : session.Told text)
    : session.drainEvents.2.Told text := by
  obtain ⟨earlier, given, tracked, current⟩ := told
  exact ⟨earlier, given, tracked.congr rfl rfl, current⟩

/-- A request, whether it goes out or not, gives no text. -/
theorem Told.requestAboutDocument {session : Session} {text : String} (told : session.Told text)
    {method : Method} (extra : List (String × Value)) (typed : ∀ name, method ≠ .other name)
    : (session.requestAboutDocument method extra).2.Told text := by
  obtain ⟨earlier, given, tracked, current⟩ := told
  refine ⟨earlier, given, tracked.requestAboutDocument extra typed, fun runs => current ?_⟩
  rcases session.requestAboutDocument_cases method extra with
    ⟨error, refused⟩ | ⟨params, asked⟩
  · rwa [refused] at runs
  · rw [asked] at runs
    rcases session.request_quiet_or method params with
      ⟨error, after, failed, quiet⟩ | ⟨running, _⟩
    · rw [failed] at runs
      exact quiet.running runs
    · exact running

end Session

-----------------------------------------------------------------------------------------
-- Operations
-----------------------------------------------------------------------------------------

namespace Client

/-- The text that the session has been given last is the one in the editor. A document without
a path is none of the server's business.
-/
def ShowsTold (state : Client × σ) : Prop :=
  ∃ text,
    state.1.session.Told text
    ∧ ∀ path, Host.documentPath state.2 = some path → Host.documentText state.2 = text

namespace ShowsTold

variable {state : Client × σ} {client : Client} {host : σ}

theorem of_told (told : client.session.Told (Host.documentText host))
    : ShowsTold (client, host) :=
  ⟨_, told, fun _ _ => rfl⟩

/-- The same document with a session that has been given the same text. -/
theorem same (shows : ShowsTold state)
    (session : ∀ text, state.1.session.Told text → client.session.Told text)
    (document : shownDocument host = shownDocument state.2)
    : ShowsTold (client, host) := by
  obtain ⟨text, told, current⟩ := shows
  obtain ⟨path, content⟩ := Prod.mk.inj document
  refine ⟨text, session text told, fun named isPath => ?_⟩
  exact content.trans (current named (path.symm.trans isPath))

/-- A document that is opened has the editor's text, whatever has been given before. -/
theorem opened {text : String} (told : client.session.Told text) (host : σ)
    : ShowsTold ((client.openActiveDocument host).2, host) := by
  unfold openActiveDocument
  split
  · rename_i unnamed
    refine ⟨text, told, fun path named => ?_⟩
    cases unnamed.symm.trans named
  · exact of_told (told.openDocument _ _ _)

variable [SteadyDocument σ]

/-- What is shown beside the document makes no difference. -/
theorem displays (shows : ShowsTold state) {after : Client × σ}
    (displays : Displays state after)
    : ShowsTold after := by
  refine shows.same (fun _ told => displays.session.told told) ?_
  exact displays.host.keeps SteadyDocument.document_showStatus
    SteadyDocument.document_showOverlay SteadyDocument.document_hideOverlay

theorem status (shows : ShowsTold (client, host)) (message : String)
    : ShowsTold (client, Host.showStatus message host) :=
  shows.displays ((Displays.refl (client, host)).status message)

/-- A change of the text is told, whatever has been given before. -/
theorem changed {text : String} (told : client.session.Told text) (host : σ)
    : ShowsTold (client.documentChanged host) := by
  unfold documentChanged
  dsimp only
  split
  · have given
        : ShowsTold
            ({ client with
                session := (client.session.changeDocument (Host.documentText host)).2 },
              host) :=
      of_told (told.changeDocument _)
    exact given.displays (updateCompletion_displays _ host)
  · rename_i inactive
    have given : ShowsTold (client, host) :=
      of_told (told.of_inactive (by simpa using inactive) _)
    exact given.displays (updateCompletion_displays _ host)

/-- The cursor is moved after the document has been opened. -/
theorem moveTo (shows : ShowsTold (client, host)) (path : String) (location : Location)
    : ShowsTold (client, Client.moveTo host path location) := by
  have moved
      : ShowsTold
          (client, Host.setCursor (pointOf host location.range.start) host) :=
    shows.same (fun _ => id) (SteadyDocument.document_setCursor _ _)
  exact moved.status _

/-- A jump shows the same document, or opens the one that it shows. -/
theorem jumpTo (shows : ShowsTold (client, host)) (location : Location)
    : ShowsTold (client.jumpTo host location) := by
  unfold Client.jumpTo
  split
  · exact shows.status _
  · dsimp only
    split
    · exact shows.moveTo _ location
    · split
      · rename_i failed
        have kept : ShowsTold (client, _) :=
          shows.same (fun _ => id) (SteadyDocument.document_openFile failed)
        exact kept.status _
      · rename_i opened _
        obtain ⟨text, told, _⟩ := shows
        exact (ShowsTold.opened told opened).moveTo _ location

-----------------------------------------------------------------------------------------
-- Events
-----------------------------------------------------------------------------------------

theorem handleReply (shows : ShowsTold (client, host)) (reply : Reply)
    : ShowsTold (client.handleReply host reply) := by
  cases reply with
  | completion candidates => exact shows.displays (client.showCandidates_displays host candidates)
  | formatting edits =>
      cases edits with
      | nil => exact shows.status _
      | cons edit rest =>
          obtain ⟨text, told, _⟩ := shows
          exact (changed told (applyEdits host (edit :: rest))).status _
  | definition locations =>
      cases locations with
      | nil => exact shows.status _
      | cons location rest => exact shows.jumpTo location
  | references locations =>
      cases locations with
      | nil => exact shows.status _
      | cons location rest => exact shows.displays (client.showReferences_displays host _)
  | error reason => exact shows.status _
  | handshake _ | shutdown | other _ => exact shows

theorem turn (shows : ShowsTold state) (event : SessionEvent)
    : ShowsTold (Client.turn state event) := by
  cases event with
  | reply handle reply => exact shows.handleReply reply
  | diagnostics publication =>
      exact shows.displays (.of_session rfl (showCounts_displayed _ _))
  | initialized info => exact shows.status _
  | shown notice => exact shows.status _
  | logged notice => exact shows

/-- Every event leaves the editor's text told, so events in a row do. -/
theorem processEvents (shows : ShowsTold (client, host))
    : ShowsTold (client.processEvents host) := by
  have drained : ShowsTold ({ client with session := client.session.drainEvents.2 }, host) :=
    shows.same (fun _ told => told.drainEvents) rfl
  exact Client.processEvents_keeps drained fun _ event shows => shows.turn event

theorem receive (shows : ShowsTold (client, host)) (chunk : List UInt8)
    : ShowsTold (client.receive host chunk) := by
  have arrived
      : ShowsTold ({ client with session := client.session.receive chunk }, host) :=
    shows.same (fun _ told => told.receive chunk) rfl
  exact arrived.processEvents

-----------------------------------------------------------------------------------------
-- Actions
-----------------------------------------------------------------------------------------

omit [SteadyDocument σ] in
/-- A server that is detached is told nothing more. -/
theorem stop (client : Client) (host : σ) : ShowsTold (client.stop host) :=
  of_told (Session.told_of_reset _ _)

omit [SteadyDocument σ] in
/-- A server that is attached is told the editor's text. -/
theorem start (client : Client) (host : σ) (transport : Transport) (root : String)
    : ShowsTold (client.start host transport root).2 := by
  unfold Client.start
  generalize client.closeCompletion host = closed
  obtain ⟨closed, hidden⟩ := closed
  dsimp only
  have started := Session.told_of_start closed.session transport (Host.documentText hidden)
  have greeted
      := ((closed.session.start transport).requestHandshake_neutral
        (Workspace.ofPath (Host.files hidden) root)).told started
  split
  · exact of_told greeted
  · exact opened greeted hidden

/-- An accepted candidate is a change of the text. -/
theorem acceptCompletion (shows : ShowsTold (client, host))
    : ShowsTold (client.acceptCompletion host).2 := by
  unfold Client.acceptCompletion
  split
  · exact shows
  · split
    · exact shows.displays (client.closeCompletion_displays host)
    · dsimp only
      generalize (Host.setCursor _ _ : σ) = moved
      obtain ⟨text, told, _⟩ := shows
      have closed := (client.closeCompletion_displays moved).session.told told
      exact changed closed (client.closeCompletion moved).2

/-- Formatting is asked for without a change of the text. -/
theorem format (shows : ShowsTold (client, host)) : ShowsTold (client.format host) := by
  have asked
      : ShowsTold
          ({ client with
              session :=
                (client.session.requestFormatting client.tabSize client.insertSpaces).2 },
            host) :=
    shows.same (fun _ told => told.requestAboutDocument _ fun _ => nofun) rfl
  unfold Client.format Client.asked
  dsimp only
  split
  · exact asked
  · exact asked.status _

end ShowsTold

end Client

-----------------------------------------------------------------------------------------
-- Runs
-----------------------------------------------------------------------------------------

/-- The editor changes its document with a word only, and nobody else uses the session. -/
def ClientAction.TellsDocument (state : Client × σ) : ClientAction σ → Prop
  | useSession _ => False
  | alter change => Client.shownDocument (change state.2) = Client.shownDocument state.2
  | _ => True

/-- The states that a new client and any editor come to. Besides what a client can be called
for, the editor shows another document, which it tells at once.
-/
inductive Accompanied : Client × σ → Prop where
  | start (options : SessionOptions) (limits : OverlayLimits) (host : σ)
    : Accompanied (.new options limits, host)
  | next {state : Client × σ} (reached : Accompanied state) (action : ClientAction σ)
    (told : action.TellsDocument state)
    : Accompanied (action.run state)
  | switch {state : Client × σ} (reached : Accompanied state) (change : σ → σ)
    : Accompanied (ClientAction.openActiveDocument.run (state.1, change state.2))

namespace Client

variable [SteadyDocument σ]

/-- Every action leaves the editor's text told. -/
theorem ShowsTold.step {state : Client × σ} (shows : ShowsTold state) (action : ClientAction σ)
    (told : action.TellsDocument state)
    : ShowsTold (action.run state) := by
  obtain ⟨client, host⟩ := state
  cases action with
  | start transport root => exact .start client host transport root
  | restart transport root => exact .start _ _ transport root
  | stop => exact .stop client host
  | setIndent tabSize insertSpaces => exact shows.same (fun _ => id) rfl
  | useSession use => exact told.elim
  | openActiveDocument =>
      obtain ⟨text, told, _⟩ := shows
      exact .opened told host
  | save => exact shows.displays (client.save_displays host)
  | triggerCompletion => exact shows.displays (client.triggerCompletion_displays host)
  | navigate move => exact shows.displays (client.navigate_displays host move)
  | acceptCompletion => exact shows.acceptCompletion
  | closeCompletion => exact shows.displays (client.closeCompletion_displays host)
  | format => exact shows.format
  | goToDefinition =>
      exact shows.displays (client.asked_displays host
        (Session.requestAboutDocument_neutral _ _ (fun _ => nofun) nofun))
  | findReferences =>
      exact shows.displays (client.asked_displays host
        (Session.requestAboutDocument_neutral _ _ (fun _ => nofun) nofun))
  | showLineDiagnostics => exact shows.displays (client.showLineDiagnostics_displays host)
  | processEvents => exact shows.processEvents
  | receive chunk => exact shows.receive chunk
  | handleServerEvent event =>
      cases event with
      | output chunk => exact shows.receive chunk
      | errorLine text => exact shows
      | exited status => exact (ShowsTold.stop client host).status _
  | edit change =>
      obtain ⟨text, told, _⟩ := shows
      exact .changed told (change host)
  | alter change => exact shows.same (fun _ => id) told

/-- So it is along every run, by induction on its actions. -/
theorem showsTold_of_accompanied {state : Client × σ} (reached : Accompanied state)
    : ShowsTold state := by
  induction reached with
  | start options limits host => exact .of_told (Session.told_of_reset { options } _)
  | next _ action told shows => exact shows.step action told
  | switch _ change shows =>
      obtain ⟨text, told, _⟩ := shows
      exact .opened told _

/-- Whatever the user does and whatever arrives, while the session is about the editor's document,
the text that is held back for the server or that it has been told last is the editor's.
-/
theorem server_text_follows_editor {state : Client × σ} (reached : Accompanied state)
    {path : String} (shown : Host.documentPath state.2 = some path)
    (running : state.1.session.isRunning = true)
    (active : state.1.session.active = some (Uri.ofPath (Host.files state.2) path))
    : (state.1.session.initialized = true
        → lastTold? (Uri.ofPath (Host.files state.2) path) state.1.session.written
          = some (Host.documentText state.2))
      ∧ (state.1.session.initialized = false
        → (state.1.session.documents.get? (Uri.ofPath (Host.files state.2) path)).bind
            (·.unopenedText)
          = some (Host.documentText state.2)) := by
  obtain ⟨text, told, current⟩ := showsTold_of_accompanied reached
  rw [current path shown]
  exact ⟨fun ready => told.lastTold?_eq running ready active,
    fun unready => told.unopenedText_eq running unready active⟩

end Client

-----------------------------------------------------------------------------------------
-- Editors with a steady document
-----------------------------------------------------------------------------------------

instance : SteadyDocument LineEditor where
  document_showStatus _ _ := rfl
  document_showOverlay _ _ := rfl
  document_hideOverlay _ := rfl
  document_setCursor point editor := by
    have kept (editor : LineEditor)
        : Client.shownDocument editor.scrollToCursor = Client.shownDocument editor := by
      obtain ⟨scrollTop, scrolled⟩ := editor.scrollToCursor_eq
      rw [scrolled]
      rfl
    exact kept { editor with cursor := editor.buffer.clamp point }
  document_openFile failed := congrArg Client.shownDocument (LineEditor.openFile_error failed)

instance : SteadyDocument RecordedEditor where
  document_showStatus _ _ := rfl
  document_showOverlay _ _ := rfl
  document_hideOverlay _ := rfl
  document_setCursor _ _ := rfl
  document_openFile failed := by
    rw [RecordedEditor.openFile_error failed]
    rfl

/-- A candidate that a server has suggested is accepted. -/
def acceptedState : Client × RecordedEditor :=
  ClientAction.acceptCompletion.run (suggestion.run triggeredState)

/-- The text with the accepted candidate is the last one that the server has been told. -/
theorem Client.server_text_follows_accepted_candidate
    : Accompanied acceptedState
      ∧ Host.documentPath acceptedState.2 = some "/a"
      ∧ Host.documentText acceptedState.2 = "foo\nbar\nbaz"
      ∧ lastTold? (Uri.ofPath {} "/a") acceptedState.1.session.written
        = some (Host.documentText acceptedState.2) := by
  have triggered : Accompanied triggeredState :=
    ((Accompanied.start {} {} wordEditor).next (.start {} "/") trivial).next
      (arrival 0 (.ofFields [])) trivial
      |>.next .triggerCompletion trivial
  have reached : Accompanied acceptedState :=
    (triggered.next suggestion trivial).next .acceptCompletion trivial
  obtain ⟨shown, running, active, text, ready⟩
      : Host.documentPath acceptedState.2 = some "/a"
        ∧ acceptedState.1.session.isRunning = true
        ∧ acceptedState.1.session.active = some (Uri.ofPath (Host.files acceptedState.2) "/a")
        ∧ Host.documentText acceptedState.2 = "foo\nbar\nbaz"
        ∧ acceptedState.1.session.initialized = true := by
    decide +kernel
  have told := server_text_follows_editor reached shown running active
  exact ⟨reached, shown, text, told.1 ready⟩

end LanguageClient
