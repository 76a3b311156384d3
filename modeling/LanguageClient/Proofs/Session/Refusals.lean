import LanguageClient.Proofs.Session.Connection

/-! Operations that are refused. A refusal changes nothing at all, and it is found before
anything is written down. The only other way to fail is a message that does not go out, after
which everything is refused until the next start.
-/

namespace LanguageClient

open Json (Value)

/-- Whether an error says that an operation was not even tried. -/
def ClientError.isRefusal : ClientError → Bool
  | .notRunning | .notInitialized | .noActiveDocument => true
  | _ => false

namespace Session

variable {α : Type}

/-- Everything that an operation can come to: it is done, it is refused, or the connection ends
with it.
-/
inductive Ends (session : Session) (outcome : Outcome α) : Prop where
  | done (running : session.isRunning = true) (value : α) (result : outcome.1 = .ok value)
  | unattached (stopped : session.isRunning = false)
      (same : outcome = (.error .notRunning, session))
  | refused (running : session.isRunning = true) (error : ClientError)
      (refusal : error = .notInitialized ∨ error = .noActiveDocument)
      (same : outcome = (.error error, session))
  | lost (running : session.isRunning = true) (reason : String)
      (result : outcome.1 = .error (.sendFailed reason))
      (ended : outcome.2.connection = (false, none))

/-- A message from a session that may have been changed, after the server was found attached. -/
theorem send_ends {session changed : Session} (running : session.isRunning = true)
    (attached : changed.isRunning = true) (message : Value)
    : session.Ends (changed.send message) := by
  rcases changed.send_cases message with
    ⟨stopped, _⟩ | ⟨_, reason, outcome⟩ | ⟨_, transport, outcome⟩
  · exact absurd (attached.symm.trans stopped) (by decide)
  · rw [outcome]
    exact .lost running reason rfl rfl
  · rw [outcome]
    exact .done running () rfl

theorem notify_ends (session : Session) (method : String) (params : Value)
    : session.Ends (session.notify method params) := by
  cases running : session.isRunning with
  | true => exact send_ends running running _
  | false =>
      rcases session.send_cases (notificationMessage method params) with
        ⟨_, outcome⟩ | ⟨running', _⟩ | ⟨running', _⟩
      · exact .unattached running outcome
      · exact absurd (running'.symm.trans running) (by decide)
      · exact absurd (running'.symm.trans running) (by decide)

theorem request_ends (session : Session) (method : Method) (params : Value)
    : session.Ends (session.request method params) := by
  rcases session.request_cases method params with
    ⟨stopped, outcome⟩ | ⟨running, reason, outcome⟩ | ⟨running, transport, outcome⟩
  · exact .unattached stopped outcome
  · rw [outcome]
    exact .lost running reason rfl rfl
  · rw [outcome]
    exact .done running _ rfl

theorem requestHandshake_ends (session : Session) (workspace : Workspace)
    : session.Ends (session.requestHandshake workspace) := by
  unfold requestHandshake
  split
  · exact session.request_ends _ _
  · rename_i stopped
    exact .unattached (Bool.eq_false_iff.mpr stopped) rfl

/-- The server is looked for first, then an active document. -/
theorem activeUri_cases (session : Session)
    : (session.isRunning = false ∧ session.activeUri = .error .notRunning)
      ∨ (session.isRunning = true ∧ session.activeUri = .error .noActiveDocument)
      ∨ (session.isRunning = true ∧ ∃ uri, session.activeUri = .ok uri) := by
  unfold activeUri
  cases session.isRunning with
  | false => exact Or.inl ⟨rfl, rfl⟩
  | true =>
      right
      rw [if_pos rfl]
      cases session.active with
      | none => exact Or.inl ⟨rfl, rfl⟩
      | some uri => exact Or.inr ⟨rfl, uri, rfl⟩

/-- An operation on the active document goes on once there is one. -/
theorem ends_of_activeUri {session : Session} {next : String → Outcome α}
    (goes : ∀ uri, session.isRunning = true → session.Ends (next uri))
    : session.Ends
        (match session.activeUri with
        | .error error => (.error error, session)
        | .ok uri => next uri) := by
  rcases session.activeUri_cases with
    ⟨stopped, active⟩ | ⟨running, active⟩ | ⟨running, uri, active⟩
  · rw [active]
    exact .unattached stopped rfl
  · rw [active]
    exact .refused running _ (Or.inr rfl) rfl
  · rw [active]
    exact goes uri running

theorem requestAboutDocument_ends (session : Session) (method : Method)
    (extra : List (String × Value))
    : session.Ends (session.requestAboutDocument method extra) := by
  unfold requestAboutDocument
  refine ends_of_activeUri fun uri running => ?_
  split
  · exact session.request_ends _ _
  · exact .refused running _ (Or.inl rfl) rfl

/-- The text of a known document is kept, or it goes out with the next version. -/
theorem changeDocument_ends (session : Session) (text : String)
    : session.Ends (session.changeDocument text) := by
  unfold changeDocument
  refine ends_of_activeUri fun uri running => ?_
  split
  · exact .refused running _ (Or.inr rfl) rfl
  · split
    · exact .done running () rfl
    · exact send_ends running (by exact running) _

/-- A known document that has been made the active one can be changed, unless the connection
ends.
-/
theorem changeDocument_ends_of_known {session activated : Session} {uri : String}
    {document : OpenDocument} (running : session.isRunning = true)
    (attached : activated.isRunning = true) (active : activated.active = some uri)
    (known : activated.documents.get? uri = some document) (text : String)
    : session.Ends (activated.changeDocument text) := by
  have found : activated.activeUri = .ok uri := by
    rw [activeUri, if_pos attached, active]
  unfold changeDocument
  rw [found]
  dsimp only
  rw [known]
  dsimp only
  split
  · exact .done running () rfl
  · exact send_ends running (by exact attached) _

/-- Opening a document makes it the active one, and that is all that comes before sending. -/
theorem setActive_opens (session : Session) (uri : String)
    : (session.setActive uri).active = some uri
      ∧ (session.setActive uri).isRunning = session.isRunning
      ∧ (session.setActive uri).documents = session.documents := by
  unfold setActive
  split
  · rename_i same
    exact ⟨same, rfl, rfl⟩
  · exact ⟨rfl, rfl, rfl⟩

theorem openDocument_ends (session : Session) (uri language text : String)
    : session.Ends (session.openDocument uri language text) := by
  obtain ⟨active, attached, documents⟩ := session.setActive_opens uri
  unfold openDocument
  cases running : session.isRunning with
  | false => exact .unattached running rfl
  | true =>
      rw [running] at attached
      rw [Bool.not_true, if_neg Bool.false_ne_true]
      dsimp only
      split
      · rename_i document known
        rw [← documents] at known
        exact changeDocument_ends_of_known running attached active known text
      · split
        · exact send_ends running (by exact attached) _
        · exact .done running () rfl

theorem saveDocument_ends (session : Session) (text : Option String)
    : session.Ends (session.saveDocument text) := by
  unfold saveDocument
  refine ends_of_activeUri fun uri running => ?_
  split
  · exact .done running () rfl
  · exact session.notify_ends _ _

theorem closeDocument_ends (session : Session)
    : session.Ends session.closeDocument := by
  unfold closeDocument
  refine ends_of_activeUri fun uri running => ?_
  dsimp only
  split
  · exact .done running () rfl
  · split
    · exact .done running () rfl
    · exact send_ends running (by exact running) _

theorem Ends.forget {session : Session} {outcome : Outcome α} (ends : session.Ends outcome)
    : session.Ends (outcome.1.map fun _ => (), outcome.2) := by
  cases ends with
  | done running value result => exact .done running () (by rw [result]; rfl)
  | unattached stopped same => exact .unattached stopped (by rw [same]; rfl)
  | refused running error refusal same => exact .refused running error refusal (by rw [same]; rfl)
  | lost running reason result ended => exact .lost running reason (by rw [result]; rfl) ended

end Session

-----------------------------------------------------------------------------------------
-- Calls
-----------------------------------------------------------------------------------------

namespace SessionCall

/-- What a call comes to, and the session after it. -/
def outcome (session : Session) : SessionCall → Session.Outcome Unit
  | request method params => forget (session.request method params)
  | notify method params => session.notify method params
  | act (.requestHandshake workspace) => forget (session.requestHandshake workspace)
  | act .requestShutdown => forget session.requestShutdown
  | act (.requestCompletion position) => forget (session.requestCompletion position)
  | act (.requestFormatting tabSize insertSpaces) =>
    forget (session.requestFormatting tabSize insertSpaces)
  | act (.requestDefinition position) => forget (session.requestDefinition position)
  | act (.requestReferences position includeDeclaration) =>
    forget (session.requestReferences position includeDeclaration)
  | act (.openDocument uri language text) => session.openDocument uri language text
  | act (.changeDocument text) => session.changeDocument text
  | act (.saveDocument text) => session.saveDocument text
  | act .closeDocument => session.closeDocument
  | act .releasePending => (.ok (), session.releasePending)
  | act .drainEvents => (.ok (), session.drainEvents.2)
  | act (.receive chunk) => (.ok (), session.receive chunk)
where
  /-- Whether a request went out, without what it is called. -/
  forget (outcome : Session.Outcome RequestHandle) : Session.Outcome Unit :=
    (outcome.1.map fun _ => (), outcome.2)

/-- Whether a call says something to the server, so that it can fail. -/
def isOperation : SessionCall → Bool
  | act .releasePending | act .drainEvents | act (.receive _) => false
  | _ => true

theorem outcome_session (session : Session) (call : SessionCall)
    : (call.outcome session).2 = (call.run session).2 := by
  cases call with
  | act action => cases action <;> rfl
  | request method params => rfl
  | notify method params => rfl

theorem outcome_ends (session : Session) {call : SessionCall}
    (operates : call.isOperation = true)
    : session.Ends (call.outcome session) := by
  cases call with
  | request method params => exact (session.request_ends method params).forget
  | notify method params => exact session.notify_ends method params
  | act action =>
      cases action with
      | requestHandshake workspace => exact (session.requestHandshake_ends workspace).forget
      | requestShutdown => exact (session.request_ends .shutdown .null).forget
      | requestCompletion position => exact (session.requestAboutDocument_ends _ _).forget
      | requestFormatting tabSize insertSpaces =>
          exact (session.requestAboutDocument_ends _ _).forget
      | requestDefinition position => exact (session.requestAboutDocument_ends _ _).forget
      | requestReferences position includeDeclaration =>
          exact (session.requestAboutDocument_ends _ _).forget
      | openDocument uri language text => exact session.openDocument_ends uri language text
      | changeDocument text => exact session.changeDocument_ends text
      | saveDocument text => exact session.saveDocument_ends text
      | closeDocument => exact session.closeDocument_ends
      | releasePending | drainEvents | receive _ => cases operates

/-- Without a server every operation is refused, and the session stays as it is. -/
theorem outcome_of_stopped {session : Session} (stopped : session.isRunning = false)
    {call : SessionCall} (operates : call.isOperation = true)
    : call.outcome session = (.error .notRunning, session) := by
  cases outcome_ends session operates with
  | unattached _ same => exact same
  | done running _ _ | refused running _ _ _ | lost running _ _ _ =>
      exact absurd (running.symm.trans stopped) (by decide)

/-- No call brings back a server. -/
theorem run_stopped {session : Session} (stopped : session.isRunning = false)
    (call : SessionCall)
    : (call.run session).2.isRunning = false := by
  refine Bool.eq_false_iff.mpr fun running => ?_
  suffices attached : session.isRunning = true from
    absurd (attached.symm.trans stopped) (by decide)
  by_cases arrival : ∃ chunk, call = .act (.receive chunk)
  · obtain ⟨chunk, rfl⟩ := arrival
    exact (Session.receive_unasked running).2
  · rcases run_cases session call fun chunk same => arrival ⟨chunk, same⟩ with
      ⟨_, quiet⟩ | ⟨attached, _⟩
    · exact quiet.running running
    · exact attached

end SessionCall

/-- What may happen to a session before it is started again. -/
inductive SessionMove where
  | call (call : SessionCall)
  | stop
  | collectWritten

namespace SessionMove

def run (session : Session) : SessionMove → Session
  | call made => (made.run session).2
  | stop => session.stop
  | collectWritten => session.collectWritten.2

/-- Only a start brings back a server, by induction on what happens before it. -/
theorem runAll_stopped {session : Session} (stopped : session.isRunning = false)
    (moves : List SessionMove)
    : (moves.foldl run session).isRunning = false := by
  refine List.foldlRecOn moves run (motive := fun state => state.isRunning = false) stopped
    fun state stopped move _ => ?_
  cases move with
  | call made => exact SessionCall.run_stopped stopped made
  | stop => rfl
  | collectWritten => exact stopped

end SessionMove

/-- An operation that is refused changes nothing, neither the session nor what has gone out. An
operation fails in one more way only: its message does not go out. Then the session has no
server any more and awaits nothing, and whatever happens until it is started again, every
operation is refused for lack of a server.
-/
theorem Session.refused_unchanged (session : Session) (call : SessionCall)
    (error : ClientError) (failed : (call.outcome session).1 = .error error)
    : let after := (call.run session).2
      (error.isRefusal = true ∨ ∃ reason, error = .sendFailed reason)
      ∧ (error.isRefusal = true → after = session)
      ∧ ∀ reason,
          error = .sendFailed reason
          → after.isRunning = false
            ∧ after.pending = none
            ∧ ∀ (moves : List SessionMove) (later : SessionCall),
                later.isOperation = true
                → later.outcome (moves.foldl SessionMove.run after)
                  = (.error .notRunning, moves.foldl SessionMove.run after) := by
  dsimp only
  have operates : call.isOperation = true := by
    cases call with
    | request | notify => rfl
    | act action => cases action <;> first | rfl | cases failed
  rw [← SessionCall.outcome_session]
  cases SessionCall.outcome_ends session operates with
  | done running value result => exact absurd (result.symm.trans failed) nofun
  | unattached stopped same =>
      rw [same] at failed ⊢
      obtain rfl := Except.error.inj failed
      exact ⟨Or.inl rfl, fun _ => rfl, nofun⟩
  | refused running refusal kind same =>
      rw [same] at failed ⊢
      obtain rfl := Except.error.inj failed
      rcases kind with rfl | rfl
      · exact ⟨Or.inl rfl, fun _ => rfl, nofun⟩
      · exact ⟨Or.inl rfl, fun _ => rfl, nofun⟩
  | lost running reason result ended =>
      obtain rfl := Except.error.inj (result.symm.trans failed)
      obtain ⟨stopped, free⟩ := Prod.mk.inj ended
      refine ⟨Or.inr ⟨reason, rfl⟩, nofun, fun _ _ => ⟨stopped, free, fun moves later operates => ?_⟩⟩
      exact SessionCall.outcome_of_stopped (SessionMove.runAll_stopped stopped moves) operates

/-- A session without an active document, whose first message breaks the connection. -/
def brittle : Session :=
  ({} : Session).start { remaining := some 0, failure := "broken pipe" }

/-- A refusal leaves the brittle session as it is. Its first message ends it, and after more bytes
and a stop no document can be closed.
-/
theorem Session.refused_unchanged_of_brittle
    : let save : SessionCall := .act (.saveDocument none)
      let shutdown : SessionCall := .act .requestShutdown
      let ended := (shutdown.run brittle).2
      let later := [SessionMove.call (.act (.receive [123])), .stop].foldl SessionMove.run ended
      ((save.outcome brittle).1 = .error .noActiveDocument ∧ (save.run brittle).2 = brittle)
      ∧ (shutdown.outcome brittle).1 = .error (.sendFailed "broken pipe")
      ∧ ended.isRunning = false
      ∧ ended.pending = none
      ∧ (SessionCall.act .closeDocument).outcome later = (.error .notRunning, later) := by
  intro save shutdown ended later
  have refused : (save.outcome brittle).1 = .error .noActiveDocument := rfl
  have broken : (shutdown.outcome brittle).1 = .error (.sendFailed "broken pipe") := rfl
  obtain ⟨_, unchanged, _⟩ := refused_unchanged brittle save _ refused
  obtain ⟨_, _, lost⟩ := refused_unchanged brittle shutdown _ broken
  obtain ⟨stopped, free, afterwards⟩ := lost _ rfl
  exact ⟨⟨refused, unchanged rfl⟩, broken, stopped, free, afterwards _ _ rfl⟩

end LanguageClient
