import LanguageClient.Proofs.Session.Correlation

/-! The connection and what is awaited on it. Operations that ask for nothing leave both as
they are, or the connection ends and nothing is awaited any more.
-/

namespace LanguageClient.Session

open Json (Value)

/-- Whether the server is attached, and what is awaited of it. -/
def connection (session : Session) : Bool × Option PendingRequest :=
  (session.isRunning, session.pending)

/-- The connection stays as it is, or it ends. -/
def Stays (before after : Session) : Prop :=
  after.connection = before.connection ∨ after.connection = (false, none)

namespace Stays

theorem of_eq {before after : Session} (same : after.connection = before.connection)
    : Stays before after :=
  Or.inl same

theorem refl (session : Session) : Stays session session :=
  of_eq rfl

theorem trans {first second third : Session} (earlier : Stays first second)
    (later : Stays second third)
    : Stays first third := by
  rcases later with same | ended
  · rw [Stays, same]
    exact earlier
  · exact Or.inr ended

/-- While the server is attached, the same request is awaited. -/
theorem pending {before after : Session} (stays : Stays before after)
    (running : after.isRunning = true)
    : after.pending = before.pending ∧ before.isRunning = true := by
  rcases stays with same | ended
  · obtain ⟨runs, slot⟩ := Prod.mk.inj same
    exact ⟨slot, runs.symm.trans running⟩
  · exact absurd (running.symm.trans (Prod.mk.inj ended).1) (by decide)

/-- What is awaited has been awaited before, and the server has stayed attached. -/
theorem awaited {before after : Session} (stays : Stays before after) {pending : PendingRequest}
    (slot : after.pending = some pending)
    : before.pending = some pending ∧ after.isRunning = before.isRunning := by
  rcases stays with same | ended
  · obtain ⟨runs, kept⟩ := Prod.mk.inj same
    exact ⟨kept.symm.trans slot, runs⟩
  · exact absurd (slot.symm.trans (Prod.mk.inj ended).2) nofun

end Stays

theorem send_stays (session : Session) (message : Value)
    : Stays session (session.send message).2 := by
  rcases session.send_cases message with
    ⟨_, outcome⟩ | ⟨_, reason, outcome⟩ | ⟨running, transport, outcome⟩
  · rw [outcome]
    exact .refl session
  · rw [outcome]
    exact Or.inr rfl
  · rw [outcome]
    exact Or.inl (Prod.ext running.symm rfl)

theorem notify_stays (session : Session) (method : String) (params : Value)
    : Stays session (session.notify method params).2 :=
  session.send_stays _

/-- A request that is not issued leaves the connection, or the connection ends with it. -/
theorem request_stays_or (session : Session) (method : Method) (params : Value)
    : (∃ error after, session.request method params = (.error error, after) ∧ Stays session after)
      ∨ ∃ handle after, session.request method params = (.ok handle, after) := by
  rcases session.request_cases method params with
    ⟨_, outcome⟩ | ⟨_, reason, outcome⟩ | ⟨_, transport, outcome⟩
  · exact Or.inl ⟨_, _, outcome, .refl session⟩
  · exact Or.inl ⟨_, _, outcome, Or.inr rfl⟩
  · exact Or.inr ⟨_, _, outcome⟩

-----------------------------------------------------------------------------------------
-- Documents
-----------------------------------------------------------------------------------------

theorem setActive_stays (session : Session) (uri : String)
    : Stays session (session.setActive uri) := by
  unfold setActive
  split
  · exact .refl session
  · exact .of_eq rfl

theorem changeDocument_stays (session : Session) (text : String)
    : Stays session (session.changeDocument text).2 := by
  unfold changeDocument
  split
  · exact .refl session
  · split
    · exact .refl session
    · split
      · exact .of_eq rfl
      · exact Stays.trans (.of_eq rfl) (notify_stays (session.setDocument _ _) _ _)

theorem openDocument_stays (session : Session) (uri language text : String)
    : Stays session (session.openDocument uri language text).2 := by
  unfold openDocument
  split
  · exact .refl session
  · have activated := session.setActive_stays uri
    dsimp only
    split
    · exact activated.trans (changeDocument_stays _ text)
    · split
      · exact (activated.trans (.of_eq rfl)).trans (notify_stays _ _ _)
      · exact activated.trans (.of_eq rfl)

theorem saveDocument_stays (session : Session) (text : Option String)
    : Stays session (session.saveDocument text).2 := by
  unfold saveDocument
  split
  · exact .refl session
  · split
    · exact .refl session
    · exact session.notify_stays _ _

theorem closeDocument_stays (session : Session)
    : Stays session session.closeDocument.2 := by
  unfold closeDocument
  split
  · exact .refl session
  · rename_i uri _
    have closed
        : Stays session
            { session with
              active := none
              diagnostics := []
              documents := session.documents.erase uri } :=
      .of_eq rfl
    dsimp only
    split
    · exact closed
    · split
      · exact closed
      · exact closed.trans (notify_stays _ _ _)

-----------------------------------------------------------------------------------------
-- Messages
-----------------------------------------------------------------------------------------

theorem pushEvent_stays (session : Session) (event : SessionEvent)
    : Stays session (session.pushEvent event) := by
  unfold pushEvent
  split
  · exact .refl session
  · split <;> exact .of_eq rfl

theorem handleNotification_stays (session : Session) (notification : Notification)
    : Stays session (session.handleNotification notification) := by
  cases notification with
  | shown notice => exact session.pushEvent_stays _
  | logged notice => exact session.pushEvent_stays _
  | diagnostics publication =>
      rw [handleNotification]
      split
      · have told
            : Stays session { session with diagnostics := publication.diagnostics } :=
          .of_eq rfl
        exact told.trans (pushEvent_stays _ _)
      · exact .refl session

/-- The requests that a message replies to. -/
def repliesTo (session : Session) (message : Value) : List RequestHandle :=
  (session.queuedBy message).filterMap SessionEvent.replyHandle?

/-- A message answers what is awaited of the server, whether or not it can be read. -/
def Answers (session : Session) (message : Value) (pending : PendingRequest)
    (response : Response) : Prop :=
  session.pending = some pending
  ∧ Incoming.ofValue message = .ok (.response response)
  ∧ pending.awaits response.id = true

/-- An unrelated event is no reply. -/
theorem repliesTo_of_unrelated {session after : Session} {message : Value}
    {queued : Option SessionEvent}
    (reacts : Reacts session (fun state => (state.handleMessage message).2) after queued)
    (unrelated : Unrelated session after queued)
    : session.repliesTo message = [] := by
  rw [repliesTo, (handleMessage_of_reacts reacts).2]
  rcases Correlated.replies_of_waitingAfter session.options.eventCapacity queued with
    nothing | ⟨handle, reply, told, _⟩
  · exact nothing
  · exact absurd told (unrelated.2 handle reply)

/-- A message that answers nothing leaves the connection, or the connection ends. -/
theorem handleMessage_unanswered {session : Session} {message : Value}
    (unanswered : ∀ pending response, ¬session.Answers message pending response)
    : Stays session (session.handleMessage message).2 ∧ session.repliesTo message = [] := by
  have passed (same : ∀ state : Session,
      state.pending = session.pending → (state.handleMessage message).2 = state)
      : Stays session (session.handleMessage message).2 ∧ session.repliesTo message = [] := by
    refine ⟨by rw [same session rfl]; exact .refl session, ?_⟩
    rw [repliesTo, queuedBy, same (session.withEvents []) rfl]
    rfl
  cases read : Incoming.ofValue message with
  | error cause => exact passed fun state _ => by rw [handleMessage, read]
  | ok incoming =>
      have handled (state : Session)
          : state.handleMessage message = state.handleIncoming incoming := by
        rw [handleMessage, read]
      have reacts {after : Session} {queued : Option SessionEvent}
          (reacts : Reacts session (fun state => (state.handleIncoming incoming).2) after queued)
          : Reacts session (fun state => (state.handleMessage message).2) after queued := by
        intro events
        dsimp only
        rw [handled]
        exact reacts events
      cases incoming with
      | request request =>
          refine ⟨by rw [handled]; exact session.send_stays _, ?_⟩
          rw [repliesTo, queuedBy, handled, handleIncoming, send_withEvents]
          rfl
      | notification method params =>
          cases understood : Notification.ofMethod method params with
          | error cause =>
              exact passed fun state _ => by rw [handled, handleIncoming, understood]
          | ok notification =>
              cases notification with
              | none => exact passed fun state _ => by rw [handled, handleIncoming, understood]
              | some notification =>
                  obtain ⟨after, queued, told, unrelated⟩ :=
                    session.handleNotification_reacts notification
                  refine ⟨?_, repliesTo_of_unrelated (reacts ?_) unrelated⟩
                  · rw [handled, handleIncoming, understood]
                    exact session.handleNotification_stays notification
                  · intro events
                    dsimp only [handleIncoming]
                    rw [understood]
                    exact told events
      | response response =>
          refine passed fun state same => ?_
          rw [handled, handleIncoming, handleResponse, same]
          cases slot : session.pending with
          | none => rfl
          | some pending =>
              dsimp only
              rw [if_neg fun awaited => unanswered pending response ⟨slot, read, awaited⟩]

/-- What a message replies to is awaited, by the method that is awaited. -/
theorem repliesTo_awaited {session : Session} {message : Value} {handle : RequestHandle}
    (replied : handle ∈ session.repliesTo message)
    : ∃ pending response,
        session.Answers message pending response
        ∧ pending.awaits handle.id = true
        ∧ handle.method = pending.method := by
  obtain ⟨after, queued, reacts, outcome⟩ := session.handleMessage_reacts message
  rcases outcome with unrelated | ⟨pending, id, slot, awaited, _, event⟩
  · rw [repliesTo_of_unrelated reacts unrelated] at replied
    cases replied
  · have answered : ∃ other response, session.Answers message other response := by
      refine Classical.byContradiction fun none => ?_
      have nothing : session.repliesTo message = [] :=
        (handleMessage_unanswered fun other response answers =>
          none ⟨other, response, answers⟩).2
      rw [nothing] at replied
      cases replied
    obtain ⟨other, response, answers⟩ := answered
    obtain rfl := Option.some.inj (slot.symm.trans answers.1)
    refine ⟨pending, response, answers, ?_⟩
    rw [repliesTo, (handleMessage_of_reacts reacts).2] at replied
    rcases Correlated.replies_of_waitingAfter session.options.eventCapacity queued with
      nothing | ⟨told, reply, same, one⟩
    · rw [nothing] at replied
      cases replied
    · rw [one] at replied
      obtain rfl := List.mem_singleton.mp replied
      rcases event with none | ⟨answer, event⟩
      · exact absurd (same.symm.trans none) nofun
      · rw [Correlated.handle_of_event (Option.some.inj (event.symm.trans same))]
        exact ⟨awaited, rfl⟩

/-- No message asks for anything. -/
theorem handleMessage_unasked (session : Session) (message : Value)
    : (session.handleMessage message).2.options = session.options
      ∧ ((session.handleMessage message).2.isRunning = true
        → (session.handleMessage message).2.nextId = session.nextId
          ∧ session.isRunning = true) := by
  obtain ⟨after, queued, reacts, outcome⟩ := session.handleMessage_reacts message
  rw [(handleMessage_of_reacts reacts).1]
  rcases outcome with ⟨quiet, _⟩ | ⟨pending, id, _, _, quiet, _⟩
  · exact ⟨quiet.options, fun runs => ⟨quiet.nextId runs, quiet.running runs⟩⟩
  · exact ⟨quiet.options, fun runs => ⟨quiet.nextId runs, quiet.running runs⟩⟩

/-- Bytes use up no ids, and they do not bring back a server. -/
theorem receive_unasked {session : Session} {chunk : List UInt8}
    (running : (session.receive chunk).isRunning = true)
    : (session.receive chunk).nextId = session.nextId ∧ session.isRunning = true := by
  have back
      : (session.receive chunk).isRunning = true
        → (session.receive chunk).nextId = session.nextId ∧ session.isRunning = true :=
    receive_keeps
      (P := fun state =>
        state.isRunning = true → state.nextId = session.nextId ∧ session.isRunning = true)
      (fun runs => ⟨rfl, runs⟩)
      fun state message earlier runs => by
        obtain ⟨same, before⟩ := (state.handleMessage_unasked message).2 runs
        exact ⟨same.trans (earlier before).1, (earlier before).2⟩
  exact back running

/-- An answer that can be read is handled like its reply. -/
theorem Answers.handleMessage_of_reply {session : Session} {message : Value}
    {pending : PendingRequest} {response : Response} {reply : Reply}
    (answers : session.Answers message pending response)
    (decoded : replyOf pending.method response = .ok reply)
    : (session.handleMessage message).2
      = (handleReply { session with pending := pending.afterResponse response.id }
          { id := response.id, method := pending.method } reply).2 := by
  obtain ⟨slot, read, awaited⟩ := answers
  have handled := handleResponse_awaited slot awaited
  rw [decoded] at handled
  rw [handleMessage, read]
  exact handled

/-- An answer that cannot be read counts, too. -/
theorem Answers.handleMessage_of_misread {session : Session} {message : Value}
    {pending : PendingRequest} {response : Response} {error : ClientError}
    (answers : session.Answers message pending response)
    (unreadable : replyOf pending.method response = .error error)
    : (session.handleMessage message).2
      = { session with pending := pending.afterResponse response.id } := by
  obtain ⟨slot, read, awaited⟩ := answers
  have handled := handleResponse_awaited slot awaited
  rw [unreadable] at handled
  rw [handleMessage, read]
  exact handled

/-- After an answer to a request that is not retained nothing is awaited. -/
theorem Answers.alone {session : Session} {message : Value} {pending : PendingRequest}
    {response : Response} (answers : session.Answers message pending response)
    (unretained : pending.retain = false)
    : (session.handleMessage message).2.pending = none := by
  have given : pending.afterResponse response.id = none := by
    rw [PendingRequest.afterResponse, unretained, if_neg Bool.false_ne_true]
  cases decoded : replyOf pending.method response with
  | error error =>
      rw [answers.handleMessage_of_misread decoded]
      exact given
  | ok reply =>
      obtain ⟨after, queued, reacts, quiet, _⟩ :=
        handleReply_reacts { session with pending := pending.afterResponse response.id }
          { id := response.id, method := pending.method } reply
      have whole := reacts session.events
      rw [answers.handleMessage_of_reply decoded]
      refine (congrArg Session.pending whole).trans ?_
      rcases quiet.slot with none | ⟨kept, _⟩
      · exact none
      · exact kept.trans given

/-- Whatever answers a completion is an answer with candidates, or the request is refused. -/
theorem replyOf_completion {response : Response} {reply : Reply}
    (decoded : replyOf .completion response = .ok reply)
    : (∃ candidates, reply = .completion candidates)
      ∨ ∃ reason, response.outcome = .error reason ∧ reply = .error reason := by
  rcases replyOf_cases decoded with ⟨reason, refused, rfl⟩ | ⟨_, kind⟩
  · exact Or.inr ⟨reason, refused, rfl⟩
  · cases kind with
    | completion candidates => exact Or.inl ⟨candidates, rfl⟩

/-- An answer to a completion takes the place of the answer before it. It is a reply if it can
be read, and otherwise it is none.
-/
theorem Answers.completion {session : Session} {message : Value} {pending : PendingRequest}
    {response : Response} (answers : session.Answers message pending response)
    (method : pending.method = .completion) (room : 0 < session.options.eventCapacity)
    : (session.handleMessage message).2.connection
        = (session.isRunning, pending.afterResponse response.id)
      ∧ session.repliesTo message
        = if (replyOf .completion response).isOk then
            [{ id := response.id, method := .completion }]
          else
            [] := by
  have apart : (session.withEvents []).Answers message pending response := answers
  cases decoded : replyOf .completion response with
  | error error =>
      rw [← method] at decoded
      rw [repliesTo, queuedBy, answers.handleMessage_of_misread decoded,
        apart.handleMessage_of_misread decoded]
      exact ⟨rfl, rfl⟩
  | ok reply =>
      have kind := replyOf_completion decoded
      rw [← method] at decoded
      rw [repliesTo, queuedBy, answers.handleMessage_of_reply decoded,
        apart.handleMessage_of_reply decoded, method]
      have pushed (state : Session)
          : (state.handleReply { id := response.id, method := .completion } reply).2
            = state.pushEvent (.reply { id := response.id, method := .completion } reply) := by
        rcases kind with ⟨candidates, rfl⟩ | ⟨reason, _, rfl⟩ <;> rfl
      rw [pushed, pushed]
      constructor
      · unfold pushEvent
        split
        · rfl
        · split <;> rfl
      · unfold pushEvent
        split
        · rename_i none
          exact absurd none (Nat.ne_of_gt room)
        · split <;> rfl

end LanguageClient.Session

namespace LanguageClient.SessionCall

open Session

/-- A call that issues no request leaves the connection, or the connection ends. Only what is
released is given up while the server stays attached.
-/
theorem run_stays {session : Session} {call : SessionCall}
    (silent : ∀ chunk, call ≠ .act (.receive chunk)) (kept : call ≠ .act .releasePending)
    (unasked : call.issued session = [])
    : Stays session (call.run session).2 := by
  cases named : call.method? with
  | some method =>
      rcases run_of_method session named with refused | ⟨params, ran⟩
      · rw [refused]
        exact .refl session
      · rcases session.request_stays_or method params with
          ⟨error, after, failed, stays⟩ | ⟨handle, after, sent⟩
        · rw [ran, failed]
          exact stays
        · rw [issued, named, ran, sent] at unasked
          cases unasked
  | none =>
      cases call with
      | request method params => cases named
      | notify method params => exact session.notify_stays method params
      | act action =>
          cases action with
          | openDocument uri language text => exact session.openDocument_stays uri language text
          | changeDocument text => exact session.changeDocument_stays text
          | saveDocument text => exact session.saveDocument_stays text
          | closeDocument => exact session.closeDocument_stays
          | releasePending => exact absurd rfl kept
          | drainEvents => exact .of_eq rfl
          | receive chunk => exact absurd rfl (silent chunk)
          | requestHandshake _ | requestShutdown | requestCompletion _ | requestFormatting _ _
          | requestDefinition _ | requestReferences _ _ => cases named

end LanguageClient.SessionCall
