import LanguageClient.Proofs.Session.Reactions
import LanguageClient.Proofs.Session.Exchange

/-! What anything that happens to a session can do to its documents and to the diagnostics of
the active one. All that goes out may break the connection, and it changes neither of the two.
-/

namespace LanguageClient

open Json (Value)

namespace Session

/-- The documents, the active one and its diagnostics stay, and no diagnostics are told to the
editor. The connection may end.
-/
structure KeepsDocuments (before after : Session) : Prop where
  documents : after.documents = before.documents
  active : after.active = before.active
  diagnostics : after.diagnostics = before.diagnostics
  initialized : after.initialized = before.initialized
  running : after.isRunning = true → before.isRunning = true
  untold
    : ∀ publication,
        .diagnostics publication ∈ after.events → .diagnostics publication ∈ before.events

namespace KeepsDocuments

theorem refl (session : Session) : KeepsDocuments session session :=
  ⟨rfl, rfl, rfl, rfl, id, fun _ => id⟩

theorem trans {first second third : Session} (earlier : KeepsDocuments first second)
    (later : KeepsDocuments second third)
    : KeepsDocuments first third where
  documents := later.documents.trans earlier.documents
  active := later.active.trans earlier.active
  diagnostics := later.diagnostics.trans earlier.diagnostics
  initialized := later.initialized.trans earlier.initialized
  running := fun runs => earlier.running (later.running runs)
  untold := fun publication told => earlier.untold publication (later.untold publication told)

end KeepsDocuments

theorem send_keepsDocuments (session : Session) (message : Value)
    : KeepsDocuments session (session.send message).2 := by
  rcases session.send_cases message with
    ⟨_, outcome⟩ | ⟨_, reason, outcome⟩ | ⟨running, transport, outcome⟩
  · rw [outcome]
    exact .refl session
  · rw [outcome]
    exact ⟨rfl, rfl, rfl, rfl, nofun, fun _ => id⟩
  · rw [outcome]
    exact ⟨rfl, rfl, rfl, rfl, fun _ => running, fun _ => id⟩

theorem notify_keepsDocuments (session : Session) (method : String) (params : Value)
    : KeepsDocuments session (session.notify method params).2 :=
  session.send_keepsDocuments _

theorem request_keepsDocuments (session : Session) (method : Method) (params : Value)
    : KeepsDocuments session (session.request method params).2 := by
  rcases session.request_cases method params with
    ⟨_, outcome⟩ | ⟨_, reason, outcome⟩ | ⟨running, transport, outcome⟩
  · rw [outcome]
    exact .refl session
  · rw [outcome]
    exact ⟨rfl, rfl, rfl, rfl, nofun, fun _ => id⟩
  · rw [outcome]
    exact ⟨rfl, rfl, rfl, rfl, fun _ => running, fun _ => id⟩

theorem pushEvent_eq (session : Session) (event : SessionEvent)
    : session.pushEvent event
      = session.withEvents
          (waitingAfter session.options.eventCapacity session.events (some event)) :=
  session.pushEvent_withEvents session.events event

/-- An event that waits has been waiting before, or it is the one that has been pushed. -/
theorem mem_pushEvent {session : Session} {event other : SessionEvent}
    (waits : other ∈ (session.pushEvent event).events)
    : other ∈ session.events ∨ other = event := by
  unfold pushEvent at waits
  split at waits
  · exact Or.inl waits
  · split at waits
    · exact (List.mem_append.mp waits).imp List.mem_of_mem_drop List.mem_singleton.mp
    · exact (List.mem_append.mp waits).imp id List.mem_singleton.mp

theorem pushEvent_keepsDocuments (session : Session) {event : SessionEvent}
    (other : ∀ publication, event ≠ .diagnostics publication)
    : KeepsDocuments session (session.pushEvent event) := by
  have untold (publication : Publication)
      (told : .diagnostics publication ∈ (session.pushEvent event).events)
      : .diagnostics publication ∈ session.events := by
    rcases mem_pushEvent told with old | same
    · exact old
    · exact absurd same.symm (other publication)
  rw [pushEvent_eq] at untold ⊢
  exact ⟨rfl, rfl, rfl, rfl, id, untold⟩

theorem releasePending_keepsDocuments (session : Session)
    : KeepsDocuments session session.releasePending := by
  unfold releasePending
  split
  · exact ⟨rfl, rfl, rfl, rfl, id, fun _ => id⟩
  · exact .refl session

theorem saveDocument_keepsDocuments (session : Session) (text : Option String)
    : KeepsDocuments session (session.saveDocument text).2 := by
  unfold saveDocument
  split
  · exact .refl session
  · split
    · exact .refl session
    · exact session.notify_keepsDocuments _ _

/-- Opens are sent one after another, by induction on the documents. -/
theorem sendOpens_keepsDocuments (session : Session)
    (opened : List (String × OpenDocument × String))
    : KeepsDocuments session (session.sendOpens opened).2 := by
  induction opened generalizing session with
  | nil => exact .refl session
  | cons first rest ih =>
      obtain ⟨uri, document, text⟩ := first
      have told : KeepsDocuments session (session.sendOpen uri document text).2 :=
        session.notify_keepsDocuments _ _
      unfold sendOpens
      split
      · rename_i sent outcome
        rw [outcome] at told
        exact told.trans (ih sent)
      · rename_i outcome
        rw [outcome] at told
        exact told

-----------------------------------------------------------------------------------------
-- Calls
-----------------------------------------------------------------------------------------

/-- A document that is closed is forgotten, and so are its diagnostics. -/
def forget (session : Session) (uri : String) : Session :=
  { session with active := none, diagnostics := [], documents := session.documents.erase uri }

/-- What a call can do to the documents. -/
inductive ChangesDocuments (before after : Session) : Prop
  | keeps (kept : KeepsDocuments before after)
  /-- A text is given for a document, which is active from then on. A known document goes on
  holding its text back or not, and a new one holds it back until the handshake.
  -/
  | gives (running : before.isRunning = true) (uri : String) (document : OpenDocument)
    (held
      : document.unopenedText.isSome
        = match before.documents.get? uri with
          | some known => known.unopenedText.isSome
          | none => !before.initialized)
    (kept : KeepsDocuments ((before.setActive uri).setDocument uri document) after)
  | closes (running : before.isRunning = true) (uri : String)
    (active : before.active = some uri) (kept : KeepsDocuments (before.forget uri) after)

/-- A running session with an active document has that one for the requests about it. -/
theorem activeUri_eq_ok {session : Session} {uri : String}
    : session.activeUri = .ok uri ↔ session.isRunning = true ∧ session.active = some uri := by
  unfold activeUri
  cases session.isRunning <;> cases session.active <;> simp

/-- A change of a known document, which goes on holding its text back or not. -/
theorem changeDocument_known {session : Session} (running : session.isRunning = true)
    {uri : String} (active : session.active = some uri) {known : OpenDocument}
    (found : session.documents.get? uri = some known) (text : String)
    : ∃ document : OpenDocument,
        document.unopenedText.isSome = known.unopenedText.isSome
        ∧ KeepsDocuments (session.setDocument uri document) (session.changeDocument text).2 := by
  unfold changeDocument
  rw [activeUri_eq_ok.mpr ⟨running, active⟩]
  dsimp only
  rw [found]
  cases unopened : known.unopenedText with
  | some old =>
      simp only [unopened]
      exact ⟨{ known with unopenedText := some text }, rfl, .refl _⟩
  | none =>
      simp only [unopened]
      exact ⟨{ known with version := known.version + 1, unopenedText := none }, rfl,
        notify_keepsDocuments _ _ _⟩

theorem changeDocument_changes (session : Session) (text : String)
    : ChangesDocuments session (session.changeDocument text).2 := by
  cases about : session.activeUri with
  | error error =>
      rw [changeDocument, about]
      exact .keeps (.refl session)
  | ok uri =>
      obtain ⟨running, active⟩ := activeUri_eq_ok.mp about
      cases found : session.documents.get? uri with
      | none =>
          simp only [changeDocument, about, found]
          exact .keeps (.refl session)
      | some known =>
          obtain ⟨document, held, kept⟩ := changeDocument_known running active found text
          have same : session.setActive uri = session := if_pos active
          refine .gives running uri document ?_ (same.symm ▸ kept)
          rw [found]
          exact held

/-- The documents stay as another one becomes active, and that one is. -/
theorem setActive_fields (session : Session) (uri : String)
    : (session.setActive uri).documents = session.documents
      ∧ (session.setActive uri).active = some uri
      ∧ (session.setActive uri).initialized = session.initialized
      ∧ (session.setActive uri).isRunning = session.isRunning
      ∧ (session.setActive uri).diagnostics
        = if session.active = some uri then session.diagnostics else [] := by
  unfold setActive
  split
  · rename_i active
    exact ⟨rfl, active, rfl, rfl, rfl⟩
  · exact ⟨rfl, rfl, rfl, rfl, rfl⟩

theorem openDocument_changes (session : Session) (uri language text : String)
    : ChangesDocuments session (session.openDocument uri language text).2 := by
  obtain ⟨documents, active, _, runs, _⟩ := session.setActive_fields uri
  cases running : session.isRunning with
  | false =>
      rw [openDocument, running]
      exact .keeps (.refl session)
  | true =>
      unfold openDocument
      simp only [running, Bool.not_true, Bool.false_eq_true, if_false]
      cases found : session.documents.get? uri with
      | some known =>
          obtain ⟨document, held, kept⟩ :=
            changeDocument_known (runs.trans running) active
              ((congrArg (Keyed.get? uri) documents).trans found) text
          refine .gives running uri document ?_ kept
          rw [found]
          exact held
      | none =>
          cases initialized : session.initialized with
          | true =>
              refine .gives running uri { language, version := 1, unopenedText := none } ?_
                (notify_keepsDocuments _ _ _)
              rw [found, initialized]
              rfl
          | false =>
              refine .gives running uri { language, version := 1, unopenedText := some text } ?_
                (.refl _)
              rw [found, initialized]
              rfl

theorem closeDocument_changes (session : Session)
    : ChangesDocuments session session.closeDocument.2 := by
  cases about : session.activeUri with
  | error error =>
      rw [closeDocument, about]
      exact .keeps (.refl session)
  | ok uri =>
      obtain ⟨running, active⟩ := activeUri_eq_ok.mp about
      refine .closes running uri active ?_
      unfold closeDocument
      rw [about]
      dsimp only
      split
      · exact .refl _
      · split
        · exact .refl _
        · exact notify_keepsDocuments _ _ _

end Session

open Session

/-- A call keeps the documents, or it gives a text for one or closes the active one. -/
theorem SessionCall.run_changes (session : Session) {call : SessionCall}
    (silent : ∀ chunk, call ≠ .act (.receive chunk))
    : ChangesDocuments session (call.run session).2 := by
  cases named : call.method? with
  | some method =>
      rcases run_of_method session named with refused | ⟨params, ran⟩
      · rw [refused]
        exact .keeps (.refl session)
      · rw [ran]
        exact .keeps (session.request_keepsDocuments method params)
  | none =>
      cases call with
      | request method params => cases named
      | notify method params => exact .keeps (session.notify_keepsDocuments method params)
      | act action =>
          cases action with
          | openDocument uri language text => exact session.openDocument_changes uri language text
          | changeDocument text => exact session.changeDocument_changes text
          | saveDocument text => exact .keeps (session.saveDocument_keepsDocuments text)
          | closeDocument => exact session.closeDocument_changes
          | releasePending => exact .keeps session.releasePending_keepsDocuments
          | drainEvents => exact .keeps ⟨rfl, rfl, rfl, rfl, id, nofun⟩
          | receive chunk => exact absurd rfl (silent chunk)
          | requestHandshake _ | requestShutdown | requestCompletion _ | requestFormatting _ _
          | requestDefinition _ | requestReferences _ _ => cases named

-----------------------------------------------------------------------------------------
-- Messages
-----------------------------------------------------------------------------------------

namespace Session

/-- The handshake ends. As long as the connection holds no text is held back any more. -/
def EndsHandshake (before after : Session) : Prop :=
  ∃ documents,
    (documents = markOpened before.documents
      ∨ documents = before.documents ∧ after.isRunning = false)
    ∧ KeepsDocuments { before with initialized := true, documents } after

/-- A notification publishes the diagnostics of the active document. -/
structure Publishes (session : Session) (message params : Value) (publication : Publication)
    : Prop where
  received
    : Incoming.ofValue message
      = .ok (.notification "textDocument/publishDiagnostics" params)
  readable : Publication.ofValue params = .ok publication
  active : session.active = some publication.uri

theorem flushDocuments_keepsDocuments (session : Session)
    : KeepsDocuments { session with documents := markOpened session.documents }
        session.flushDocuments.2 :=
  sendOpens_keepsDocuments _ _

theorem finishHandshake_ends (session : Session) (info : ServerInfo)
    : EndsHandshake session (session.finishHandshake info).2 := by
  unfold finishHandshake notify
  rcases send_cases { session with initialized := true, serverInfo := some info }
      (notificationMessage "initialized" (.ofFields [])) with
    ⟨stopped, outcome⟩ | ⟨_, reason, outcome⟩ | ⟨running, transport, outcome⟩
  · simp only [outcome]
    exact ⟨_, Or.inr ⟨rfl, stopped⟩, ⟨rfl, rfl, rfl, rfl, id, fun _ => id⟩⟩
  · simp only [outcome]
    exact ⟨_, Or.inr ⟨rfl, rfl⟩, ⟨rfl, rfl, rfl, rfl, nofun, fun _ => id⟩⟩
  · simp only [outcome]
    have greeted
        : KeepsDocuments
            { session with initialized := true, documents := markOpened session.documents }
            { delivered { session with initialized := true, serverInfo := some info } transport
                (notificationMessage "initialized" (.ofFields [])) with
              documents := markOpened session.documents } :=
      ⟨rfl, rfl, rfl, rfl, fun _ => running, fun _ => id⟩
    have flushed := greeted.trans
      (flushDocuments_keepsDocuments
        (delivered { session with initialized := true, serverInfo := some info } transport
          (notificationMessage "initialized" (.ofFields []))))
    refine ⟨_, Or.inl rfl, ?_⟩
    split
    · rename_i outcome'
      rwa [outcome'] at flushed
    · rename_i outcome'
      rw [outcome'] at flushed
      exact flushed.trans (pushEvent_keepsDocuments _ nofun)

/-- What has been kept before the handshake ends does not count for its end. -/
theorem KeepsDocuments.endsHandshake {before between after : Session}
    (kept : KeepsDocuments before between) (ends : EndsHandshake between after)
    : EndsHandshake before after := by
  obtain ⟨documents, taken, rest⟩ := ends
  rw [kept.documents] at taken
  refine ⟨documents, taken, KeepsDocuments.trans ?_ rest⟩
  exact ⟨rfl, kept.active, kept.diagnostics, rfl, kept.running, kept.untold⟩

theorem handleReply_documents (session : Session) (handle : RequestHandle) (reply : Reply)
    : KeepsDocuments session (session.handleReply handle reply).2
      ∨ EndsHandshake session (session.handleReply handle reply).2 := by
  cases reply with
  | handshake info => exact Or.inr (session.finishHandshake_ends info)
  | shutdown =>
      have pushed : KeepsDocuments session (session.pushEvent (.reply handle .shutdown)) :=
        session.pushEvent_keepsDocuments nofun
      exact Or.inl (pushed.trans (notify_keepsDocuments _ _ _))
  | completion _ | formatting _ | definition _ | references _ | other _ | error _ =>
      exact Or.inl (session.pushEvent_keepsDocuments nofun)

/-- A response is handled like its reply, or not at all. -/
theorem handleResponse_documents (session : Session) (response : Response)
    : KeepsDocuments session (session.handleResponse response).2
      ∨ EndsHandshake session (session.handleResponse response).2 := by
  unfold handleResponse
  split
  · exact Or.inl (.refl session)
  · split
    · rename_i pending _ _
      have answered
          : KeepsDocuments session
              { session with pending := pending.afterResponse response.id } :=
        ⟨rfl, rfl, rfl, rfl, id, fun _ => id⟩
      dsimp only
      split
      · exact Or.inl answered
      · exact (handleReply_documents _ _ _).imp answered.trans answered.endsHandshake
    · exact Or.inl (.refl session)

/-- Only a publication for the active document is read as one. -/
theorem handleNotification_documents {session : Session} {notification : Notification}
    (other
      : ∀ publication,
          notification = .diagnostics publication → session.active ≠ some publication.uri)
    : KeepsDocuments session (session.handleNotification notification) := by
  cases notification with
  | shown notice => exact session.pushEvent_keepsDocuments nofun
  | logged notice => exact session.pushEvent_keepsDocuments nofun
  | diagnostics publication =>
      rw [handleNotification, if_neg (other publication rfl)]
      exact .refl session

end Session

/-- Only one method publishes diagnostics. -/
theorem Notification.ofMethod_eq_diagnostics {method : String} {params : Value}
    {publication : Publication}
    : Notification.ofMethod method params = .ok (some (.diagnostics publication))
      ↔ method = "textDocument/publishDiagnostics"
        ∧ Publication.ofValue params = .ok publication := by
  unfold Notification.ofMethod
  split
  · cases Publication.ofValue params <;> simp [Except.map]
  · cases Notice.ofValue params <;> simp [Except.map]
  · cases Notice.ofValue params <;> simp [Except.map]
  · rename_i unknown _ _
    simp only [Except.ok.injEq, reduceCtorEq, false_iff]
    exact fun named => unknown named.1

namespace Session

/-- A publication for the active document replaces its diagnostics, and the editor is told. -/
theorem Publishes.handleMessage {session : Session} {message params : Value}
    {publication : Publication} (publishes : session.Publishes message params publication)
    : (session.handleMessage message).2
      = { session with diagnostics := publication.diagnostics }.pushEvent
          (.diagnostics publication) := by
  obtain ⟨received, readable, active⟩ := publishes
  have understood := Notification.ofMethod_eq_diagnostics.mpr ⟨rfl, readable⟩
  unfold Session.handleMessage
  rw [received]
  dsimp only [handleIncoming]
  rw [understood]
  dsimp only [handleNotification]
  rw [if_pos active]

/-- Any other message keeps the documents and the diagnostics, or it ends the handshake. -/
theorem handleMessage_documents {session : Session} {message : Value}
    (other : ∀ params publication, ¬session.Publishes message params publication)
    : KeepsDocuments session (session.handleMessage message).2
      ∨ EndsHandshake session (session.handleMessage message).2 := by
  unfold handleMessage
  cases received : Incoming.ofValue message with
  | error cause => exact Or.inl (.refl session)
  | ok incoming =>
      cases incoming with
      | request request => exact Or.inl (session.send_keepsDocuments _)
      | response response => exact session.handleResponse_documents response
      | notification method params =>
          dsimp only [handleIncoming]
          cases understood : Notification.ofMethod method params with
          | error cause => exact Or.inl (.refl session)
          | ok notification =>
              cases notification with
              | none => exact Or.inl (.refl session)
              | some notification =>
                  refine Or.inl (handleNotification_documents ?_)
                  rintro publication rfl active
                  obtain ⟨rfl, readable⟩ := Notification.ofMethod_eq_diagnostics.mp understood
                  exact other params publication ⟨received, readable, active⟩

end Session

end LanguageClient
