import LanguageClient.Proofs.Session.AwaitedFormatting
import LanguageClient.Proofs.Session.Chunks
import LanguageClient.Proofs.Session.Streaks

/-! What a client does to its session on its own, and the messages that take no notice of it.
Such a message can arrive before or after: the session becomes the same, and but for candidates
that nobody wants any more the same events wait.
-/

namespace LanguageClient

open Json (Value)

/-- Something that a client does to its session when it reacts to an event. -/
inductive Deed where
  | requestCompletion (position : Position)
  | openDocument (uri language text : String)
  | changeDocument (text : String)
  | releasePending

namespace Deed

def action : Deed → SessionAction
  | requestCompletion position => .requestCompletion position
  | openDocument uri language text => .openDocument uri language text
  | changeDocument text => .changeDocument text
  | releasePending => .releasePending

/-- Whether what is awaited is given up. Every other deed tells the server something. -/
def isRelease : Deed → Bool
  | releasePending => true
  | _ => false

/-- A deed brings no bytes. -/
theorem silent (deed : Deed) (chunk : List UInt8)
    : SessionCall.act deed.action ≠ .act (.receive chunk) := by
  cases deed <;> simp [action]

end Deed

/-- Whether an event brings candidates. -/
def SessionEvent.isCandidates : SessionEvent → Bool
  | .reply _ (.completion _) => true
  | _ => false

namespace Session

/-- The session after a deed. -/
def perform (session : Session) (deed : Deed) : Session :=
  (deed.action.run session).2

/-- The session after deeds in their order. -/
def performAll (session : Session) (deeds : List Deed) : Session :=
  deeds.foldl perform session

theorem perform_options (session : Session) (deed : Deed)
    : (session.perform deed).options = session.options := by
  rcases SessionCall.run_cases session (.act deed.action) deed.silent with
    ⟨_, quiet⟩ | ⟨_, method, params, transport, _, _, sent⟩
  · exact quiet.options
  · have after := congrArg (·.options) sent
    exact after

-----------------------------------------------------------------------------------------
-- Bytes, diagnostics and events
-----------------------------------------------------------------------------------------

/-- The diagnostics that are left by a deed: those of another document are forgotten. -/
def diagnosticsLeft (session : Session) (diagnostics : List Diagnostic)
    : Deed → List Diagnostic
  | .openDocument uri _ _ =>
    if session.isRunning ∧ session.active ≠ some uri then [] else diagnostics
  | _ => diagnostics

/-- A session with other bytes left over, other diagnostics and other waiting events. -/
def aside (session : Session) (framer : Framer) (diagnostics : List Diagnostic)
    (events : List SessionEvent)
    : Session :=
  { session with framer, diagnostics, events }

section Aside

variable (session : Session) (framer : Framer) (diagnostics : List Diagnostic)
  (events : List SessionEvent)

theorem send_aside (message : Value)
    : ((session.aside framer diagnostics events).send message).2
      = (session.send message).2.aside framer diagnostics events := by
  unfold send aside
  dsimp only
  split
  · rfl
  · split <;> rfl

theorem request_aside (method : Method) (params : Value)
    : ((session.aside framer diagnostics events).request method params).2
      = (session.request method params).2.aside framer diagnostics events := by
  have sent (state : Session)
      : (state.request method params).2
        = if state.isRunning then
            ((state.asking method).send (requestMessage state.nextId method params)).2
          else
            state := by
    unfold request
    split
    · dsimp only [asking]
      split
      · rename_i outcome
        rw [outcome]
      · rename_i outcome
        rw [outcome]
    · rfl
  have running : (session.aside framer diagnostics events).isRunning = session.isRunning := rfl
  rw [sent, sent, running]
  split
  · exact (session.asking method).send_aside framer diagnostics events _
  · rfl

theorem requestAboutDocument_aside (method : Method) (extra : List (String × Value))
    : ((session.aside framer diagnostics events).requestAboutDocument method extra).2
      = (session.requestAboutDocument method extra).2.aside framer diagnostics events := by
  have active : (session.aside framer diagnostics events).activeUri = session.activeUri := rfl
  have ready : (session.aside framer diagnostics events).initialized = session.initialized := rfl
  unfold requestAboutDocument
  rw [active, ready]
  split
  · rfl
  · split
    · exact session.request_aside framer diagnostics events method _
    · rfl

theorem changeDocument_aside (text : String)
    : ((session.aside framer diagnostics events).changeDocument text).2
      = (session.changeDocument text).2.aside framer diagnostics events := by
  have active : (session.aside framer diagnostics events).activeUri = session.activeUri := rfl
  have known : (session.aside framer diagnostics events).documents = session.documents := rfl
  unfold changeDocument
  rw [active, known]
  split
  · rfl
  · rename_i uri _
    split
    · rfl
    · rename_i document _
      split
      · rfl
      · exact send_aside
          (session.setDocument uri { document with version := document.version + 1 })
          framer diagnostics events _

theorem openDocument_aside (uri language text : String)
    : ((session.aside framer diagnostics events).openDocument uri language text).2
      = (session.openDocument uri language text).2.aside framer
          (session.diagnosticsLeft diagnostics (.openDocument uri language text)) events := by
  have alike : (session.aside framer diagnostics events).isRunning = session.isRunning := rfl
  have known : (session.aside framer diagnostics events).documents = session.documents := rfl
  have ready : (session.aside framer diagnostics events).initialized = session.initialized := rfl
  unfold openDocument diagnosticsLeft
  rw [alike, known, ready]
  cases running : session.isRunning with
  | false => rfl
  | true =>
      generalize left : (if True ∧ session.active ≠ some uri then [] else diagnostics) = kept
      have activated
          : (session.aside framer diagnostics events).setActive uri
            = (session.setActive uri).aside framer kept events := by
        rw [← left]
        unfold setActive aside
        by_cases active : session.active = some uri <;> simp [active]
      simp only [Bool.not_true, Bool.false_eq_true, if_false, activated, left]
      split
      · exact (session.setActive uri).changeDocument_aside framer kept events text
      · split
        · exact send_aside
            ((session.setActive uri).setDocument uri
              { language, version := 1, unopenedText := none })
            framer kept events _
        · rfl

theorem releasePending_aside
    : (session.aside framer diagnostics events).releasePending
      = session.releasePending.aside framer diagnostics events := by
  unfold releasePending aside
  dsimp only
  split <;> rfl

/-- A deed takes no notice of bytes, diagnostics and events. -/
theorem perform_aside (deed : Deed)
    : (session.aside framer diagnostics events).perform deed
      = (session.perform deed).aside framer (session.diagnosticsLeft diagnostics deed)
          events := by
  cases deed with
  | requestCompletion position =>
      exact session.requestAboutDocument_aside framer diagnostics events _ _
  | openDocument uri language text =>
      exact session.openDocument_aside framer diagnostics events uri language text
  | changeDocument text => exact session.changeDocument_aside framer diagnostics events text
  | releasePending => exact session.releasePending_aside framer diagnostics events

/-- What a deed leaves alone is there after it as before. -/
theorem perform_eq_aside (deed : Deed)
    : session.perform deed
      = (session.perform deed).aside session.framer
          (session.diagnosticsLeft session.diagnostics deed) session.events :=
  session.perform_aside session.framer session.diagnostics session.events deed

theorem perform_withFramer (deed : Deed)
    : (session.withFramer framer).perform deed
      = (session.perform deed).withFramer framer :=
  (session.perform_aside framer session.diagnostics session.events deed).trans
    (congrArg (·.withFramer framer) (session.perform_eq_aside deed)).symm

theorem perform_withEvents (deed : Deed)
    : (session.withEvents events).perform deed
      = (session.perform deed).withEvents events :=
  (session.perform_aside session.framer session.diagnostics events deed).trans
    (congrArg (·.withEvents events) (session.perform_eq_aside deed)).symm

end Aside

-----------------------------------------------------------------------------------------
-- Deeds without an effect
-----------------------------------------------------------------------------------------

/-- A deed does nothing: there is no server, no active document, or nothing to give up. -/
def Idles (session : Session) : Deed → Prop
  | .requestCompletion _ | .changeDocument _ =>
    session.isRunning = false ∨ session.active = none
  | .openDocument _ _ _ => session.isRunning = false
  | .releasePending => session.pending.any (·.retain) = false

theorem Idles.perform {session : Session} {deed : Deed} (idles : session.Idles deed)
    : session.perform deed = session := by
  have unasked (unready : session.isRunning = false ∨ session.active = none)
      : ∃ error, session.activeUri = .error error := by
    unfold activeUri
    rcases unready with stopped | inactive
    · rw [stopped]
      exact ⟨_, rfl⟩
    · rw [inactive]
      split <;> exact ⟨_, rfl⟩
  cases deed with
  | requestCompletion position =>
      obtain ⟨error, refused⟩ := unasked idles
      change (session.requestAboutDocument _ _).2 = session
      rw [requestAboutDocument, refused]
  | openDocument uri language text =>
      change (session.openDocument uri language text).2 = session
      rw [openDocument, show session.isRunning = false from idles]
      rfl
  | changeDocument text =>
      obtain ⟨error, refused⟩ := unasked idles
      change (session.changeDocument text).2 = session
      rw [changeDocument, refused]
  | releasePending =>
      have kept : session.pending.any (·.retain) = false := idles
      change session.releasePending = session
      rw [releasePending, kept, if_neg Bool.false_ne_true]

theorem pushEvent_stage (session : Session) (event : SessionEvent)
    : (session.pushEvent event).stage = session.stage := by
  unfold pushEvent
  split
  · rfl
  · split <;> rfl

/-- No message makes another document the active one. -/
theorem handleMessage_active (session : Session) (message : Value)
    : (session.handleMessage message).2.active = session.active := by
  have active {before after : Session} (same : after.stage = before.stage)
      : after.active = before.active :=
    (Prod.mk.inj same).1
  have replied (state : Session) (handle : RequestHandle) (reply : Reply)
      : (state.handleReply handle reply).2.active = state.active := by
    cases reply with
    | shutdown =>
        exact (active (notify_stage _ _ _)).trans (active (state.pushEvent_stage _))
    | completion _ | formatting _ | definition _ | references _ | other _ | error _ =>
        exact active (state.pushEvent_stage _)
    | handshake info =>
        have greeted := active
          (notify_stage { state with initialized := true, serverInfo := some info }
            "initialized" (.ofFields []))
        unfold handleReply finishHandshake
        dsimp only
        split
        · rename_i outcome
          rw [outcome] at greeted
          exact greeted
        · rename_i told outcome
          rw [outcome] at greeted
          have flushed : told.flushDocuments.2.active = told.active :=
            active (sendOpens_stage { told with documents := markOpened told.documents } _)
          split
          · rename_i outcome'
            rw [outcome'] at flushed
            exact flushed.trans greeted
          · rename_i outcome'
            rw [outcome'] at flushed
            exact (active (pushEvent_stage _ _)).trans (flushed.trans greeted)
  rcases session.handleMessage_cases message with
    same | ⟨request, same⟩ | ⟨notification, same⟩ | ⟨pending, response, _, _, outcome⟩
  · rw [same]
  · rw [same]
    exact active (session.send_stage _)
  · rw [same]
    cases notification with
    | shown notice => exact active (session.pushEvent_stage _)
    | logged notice => exact active (session.pushEvent_stage _)
    | diagnostics publication =>
        rw [handleNotification]
        split
        · exact active (pushEvent_stage _ _)
        · rfl
  · rcases outcome with same | ⟨reply, _, same⟩
    · rw [same]
    · rw [same]
      exact replied _ _ _

/-- A message leaves no streak that has not been there before. -/
theorem handleMessage_unretained {session : Session} (message : Value)
    (unretained : session.pending.any (·.retain) = false)
    : (session.handleMessage message).2.pending.any (·.retain) = false := by
  obtain ⟨after, queued, reacts, outcome⟩ := session.handleMessage_reacts message
  rw [(handleMessage_of_reacts reacts).1]
  change after.pending.any (·.retain) = false
  rcases outcome with ⟨quiet, _⟩ | ⟨pending, id, slot, _, quiet, _⟩
  · exact quiet.unretained unretained
  · refine quiet.unretained ?_
    have alone : pending.retain = false := by
      rw [slot] at unretained
      exact unretained
    have given : pending.afterResponse id = none := by
      rw [PendingRequest.afterResponse, alone, if_neg Bool.false_ne_true]
    exact congrArg (Option.any _) given

/-- A deed without an effect has none after a message, either. -/
theorem Idles.handleMessage {session : Session} {deed : Deed}
    (idles : session.Idles deed) (message : Value)
    : (session.handleMessage message).2.Idles deed := by
  have stopped (stopped : session.isRunning = false)
      : (session.handleMessage message).2.isRunning = false := by
    rw [← Bool.not_eq_true]
    intro running
    rw [((session.handleMessage_unasked message).2 running).2] at stopped
    cases stopped
  have unready (unready : session.isRunning = false ∨ session.active = none)
      : (session.handleMessage message).2.isRunning = false
        ∨ (session.handleMessage message).2.active = none :=
    unready.imp stopped (session.handleMessage_active message).trans
  cases deed with
  | requestCompletion position => exact unready idles
  | changeDocument text => exact unready idles
  | openDocument uri language text => exact stopped idles
  | releasePending => exact handleMessage_unretained message idles

-----------------------------------------------------------------------------------------
-- Messages
-----------------------------------------------------------------------------------------

/-- A response with an id is awaited. -/
def Awaits (session : Session) (id : Nat) : Prop :=
  ∃ pending, session.pending = some pending ∧ pending.awaits id = true

/-- A message takes no notice of a deed. Nothing is answered or awaited across something
that the server is told, diagnostics are not for a document that is active on one side only,
and what is given up would not have been refused.
-/
structure Overlooks (session : Session) (message : Value) (deed : Deed) : Prop where
  request
    : ∀ request,
        Incoming.ofValue message = .ok (.request request) → deed.isRelease = true
  diagnostics
    : ∀ method params publication,
        Incoming.ofValue message = .ok (.notification method params)
        → Notification.ofMethod method params = .ok (some (.diagnostics publication))
        → (session.active = some publication.uri
          ↔ (session.perform deed).active = some publication.uri)
  response
    : ∀ response,
        Incoming.ofValue message = .ok (.response response)
        → deed.isRelease = false
        → ¬session.Awaits response.id ∧ ¬(session.perform deed).Awaits response.id
  refusal
    : ∀ response reason,
        Incoming.ofValue message = .ok (.response response)
        → deed.isRelease = true
        → session.Awaits response.id
        → response.outcome ≠ .error reason

/-- A message and a deed do not depend on each other. -/
def Independent (session : Session) (message : Value) (deed : Deed) : Prop :=
  session.Idles deed ∨ session.Overlooks message deed

/-- A response that is not awaited is passed over. -/
theorem handleResponse_unawaited {session : Session} {response : Response}
    (unawaited : ¬session.Awaits response.id)
    : (session.handleResponse response).2 = session := by
  unfold handleResponse
  split
  · rfl
  · rename_i pending slot
    rw [if_neg fun awaited => unawaited ⟨pending, slot, awaited⟩]

/-- Events wait whatever has been done to the session. -/
theorem pushEvent_perform (session : Session) (deed : Deed) (event : SessionEvent)
    : (session.perform deed).pushEvent event = (session.pushEvent event).perform deed := by
  have pushed (state : Session)
      : state.pushEvent event
        = state.withEvents
            (waitingAfter state.options.eventCapacity state.events (some event)) :=
    state.pushEvent_withEvents state.events event
  have waiting := congrArg (·.events) (session.perform_eq_aside deed)
  dsimp only [aside] at waiting
  rw [pushed, pushed, perform_withEvents, session.perform_options, waiting]

/-- Diagnostics for a document that is active on both sides of a deed or on neither are noted
alike before and after it.
-/
theorem handleDiagnostics_perform {session : Session} {deed : Deed}
    {publication : Publication}
    (alike
      : session.active = some publication.uri
        ↔ (session.perform deed).active = some publication.uri)
    : (session.perform deed).handleNotification (.diagnostics publication)
      = (session.handleNotification (.diagnostics publication)).perform deed := by
  by_cases active : session.active = some publication.uri
  · have active' := alike.mp active
    have kept
        : session.diagnosticsLeft publication.diagnostics deed = publication.diagnostics := by
      cases deed with
      | requestCompletion _ | changeDocument _ | releasePending => rfl
      | openDocument uri language text =>
          refine if_neg fun moves => ?_
          have opened := openDocument_stage_of_running moves.1 uri language text
          exact moves.2 (active.trans (active'.symm.trans (Prod.mk.inj opened).1))
    have noted
        : { session with diagnostics := publication.diagnostics }.perform deed
          = { session.perform deed with diagnostics := publication.diagnostics } := by
      have moved := session.perform_aside session.framer publication.diagnostics session.events
        deed
      have same := session.perform_eq_aside deed
      rw [kept] at moved
      rw [same]
      exact moved
    rw [handleNotification, handleNotification, if_pos active, if_pos active', ← noted,
      pushEvent_perform]
  · have inactive := fun other => active (alike.mpr other)
    rw [handleNotification, handleNotification, if_neg active, if_neg inactive]

/-- What is neither answered nor awaited is handled alike before and after a deed. -/
theorem handleMessage_perform {session : Session} {message : Value} {deed : Deed}
    (overlooks : session.Overlooks message deed)
    (unasked : ∀ request, Incoming.ofValue message ≠ .ok (.request request))
    (unawaited
      : ∀ response,
          Incoming.ofValue message = .ok (.response response)
          → ¬session.Awaits response.id ∧ ¬(session.perform deed).Awaits response.id)
    : ((session.perform deed).handleMessage message).2
      = (session.handleMessage message).2.perform deed := by
  unfold handleMessage
  cases read : Incoming.ofValue message with
  | error error => rfl
  | ok incoming =>
      cases incoming with
      | request request => exact absurd read (unasked request)
      | response response =>
          obtain ⟨before, after⟩ := unawaited response read
          dsimp only [handleIncoming]
          rw [handleResponse_unawaited before, handleResponse_unawaited after]
      | notification method params =>
          dsimp only [handleIncoming]
          cases understood : Notification.ofMethod method params with
          | error error => rfl
          | ok notification =>
              cases notification with
              | none => rfl
              | some notification =>
                  cases notification with
                  | shown notice => exact session.pushEvent_perform deed _
                  | logged notice => exact session.pushEvent_perform deed _
                  | diagnostics publication =>
                      exact handleDiagnostics_perform
                        (overlooks.diagnostics method params publication read understood)

-----------------------------------------------------------------------------------------
-- Streaks that are given up
-----------------------------------------------------------------------------------------

/-- Nothing but completion requests goes on waiting after a reply. -/
def RetainsCompletions (session : Session) : Prop :=
  ∀ pending,
    session.pending = some pending → pending.retain = true → pending.method = .completion

theorem RetainsCompletions.of_quiet {before after : Session}
    (retains : before.RetainsCompletions) (quiet : Quiet before after)
    : after.RetainsCompletions := by
  intro pending slot
  rcases quiet.slot with none | ⟨same, _⟩
  · exact absurd (slot.symm.trans none) nofun
  · exact retains pending (same.symm.trans slot)

theorem RetainsCompletions.handleMessage {session : Session}
    (retains : session.RetainsCompletions) (message : Value)
    : (session.handleMessage message).2.RetainsCompletions := by
  obtain ⟨after, queued, reacts, outcome⟩ := session.handleMessage_reacts message
  rw [(handleMessage_of_reacts reacts).1]
  have kept : after.RetainsCompletions := by
    rcases outcome with ⟨quiet, _⟩ | ⟨pending, id, slot, _, quiet, _⟩
    · exact retains.of_quiet quiet
    · refine RetainsCompletions.of_quiet ?_ quiet
      intro next answered
      dsimp only [PendingRequest.afterResponse] at answered
      split at answered
      · obtain rfl := Option.some.inj answered
        exact retains pending slot
      · cases answered
  exact kept

theorem retainsCompletions_of_asking (session : Session) (method : Method)
    (transport : Transport) (message : Value)
    : ((session.asking method).delivered transport message).RetainsCompletions := by
  intro pending slot retain
  obtain rfl : session.nextPending method = pending := Option.some.inj slot
  obtain ⟨_, named, retained⟩ := session.nextPending_spec method
  rw [retained, SessionOptions.retains, Bool.and_eq_true] at retain
  rw [named]
  simpa [Method.retains] using retain.1

theorem RetainsCompletions.run {session : Session} (retains : session.RetainsCompletions)
    {call : SessionCall} (silent : ∀ chunk, call ≠ .act (.receive chunk))
    : (call.run session).2.RetainsCompletions := by
  rcases call.run_cases session silent with
    ⟨_, quiet⟩ | ⟨_, method, params, transport, _, _, sent⟩
  · exact retains.of_quiet quiet
  · rw [sent]
    exact session.retainsCompletions_of_asking method transport _

/-- A streak that is given up when a request of the server is answered is given up as well
before it is answered.
-/
theorem send_releasePending (session : Session) (message : Value)
    : (session.releasePending.send message).2 = (session.send message).2.releasePending := by
  by_cases retained : session.pending.any (·.retain) = true
  · have given : session.releasePending = { session with pending := none } := if_pos retained
    have given' {transport : Option Transport} {written : List Value}
        : { session with transport, written }.releasePending
          = { session with transport, written, pending := none } :=
      if_pos retained
    rw [given]
    unfold send
    dsimp only
    split
    · exact given.symm
    · split
      · rfl
      · exact given'.symm
      · exact given'.symm
  · have kept : session.releasePending = session := if_neg retained
    have kept' {transport : Option Transport} {written : List Value}
        : { session with transport, written }.releasePending
          = { session with transport, written } :=
      if_neg retained
    rw [kept]
    unfold send
    split
    · exact kept.symm
    · split
      · rfl
      · exact kept'.symm
      · exact kept'.symm

/-- The answer to a completion request lets its candidates wait, if it can be read. -/
theorem Answers.candidates {session : Session} {message : Value} {pending : PendingRequest}
    {response : Response} (answers : session.Answers message pending response)
    (method : pending.method = .completion)
    (accepted : ∀ reason, response.outcome ≠ .error reason)
    : ∃ events,
        (session.handleMessage message).2
          = { session with pending := pending.afterResponse response.id, events }
        ∧ (events = session.events
          ∨ ∃ event,
              event.isCandidates = true
              ∧ events
                = waitingAfter session.options.eventCapacity session.events (some event)) := by
  cases decoded : replyOf pending.method response with
  | error error =>
      exact ⟨session.events, answers.handleMessage_of_misread decoded, Or.inl rfl⟩
  | ok reply =>
      rw [answers.handleMessage_of_reply decoded]
      rw [method] at decoded
      rcases replyOf_completion decoded with ⟨candidates, rfl⟩ | ⟨reason, refused, _⟩
      · refine ⟨_, ?_, Or.inr ⟨.reply { id := response.id, method := pending.method }
          (.completion candidates), rfl, rfl⟩⟩
        exact pushEvent_withEvents
          { session with pending := pending.afterResponse response.id } session.events _
      · exact absurd refused (accepted reason)

end Session

end LanguageClient
