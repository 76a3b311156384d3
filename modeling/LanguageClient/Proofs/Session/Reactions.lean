import LanguageClient.Proofs.Session.Quiet

/-! What a received message comes to. The events that wait already have no influence on it:
the same message leads to the same session and lets the same event wait behind them.
-/

namespace LanguageClient

open Json (Value)

/-- The event that a reply leads to: the end of the handshake is not told as a reply. -/
def Reply.event (handle : RequestHandle) : Reply → SessionEvent
  | .handshake info => .initialized info
  | reply => .reply handle reply

/-- What a result is read as, by the method that was asked for. -/
inductive Reply.IsFor : Method → Reply → Prop where
  | handshake (info : ServerInfo) : IsFor .handshake (.handshake info)
  | completion (candidates : List Candidate) : IsFor .completion (.completion candidates)
  | formatting (edits : List TextEdit) : IsFor .formatting (.formatting edits)
  | definition (locations : List Location) : IsFor .definition (.definition locations)
  | references (locations : List Location) : IsFor .references (.references locations)
  | shutdown : IsFor .shutdown .shutdown
  | other (name : String) (result : Value) : IsFor (.other name) (.other result)

theorem Reply.isFor_of_ofResult {method : Method} {result : Value} {reply : Reply}
    (read : Reply.ofResult method result = .ok reply)
    : Reply.IsFor method reply := by
  cases method with
  | handshake =>
      obtain ⟨info, -, rfl⟩ := Json.exists_of_map_ok read
      exact .handshake info
  | completion =>
      obtain ⟨candidates, -, rfl⟩ := Json.exists_of_map_ok read
      exact .completion candidates
  | formatting =>
      obtain ⟨edits, -, rfl⟩ := Json.exists_of_map_ok read
      exact .formatting edits
  | definition =>
      obtain rfl := Except.ok.inj read
      exact .definition _
  | references =>
      obtain rfl := Except.ok.inj read
      exact .references _
  | shutdown =>
      obtain rfl := Except.ok.inj read
      exact .shutdown
  | other name =>
      obtain rfl := Except.ok.inj read
      exact .other name result

namespace Session

/-- A response refuses its request, or its result is read by the method asked for. -/
theorem replyOf_cases {method : Method} {response : Response} {reply : Reply}
    (decoded : replyOf method response = .ok reply)
    : (∃ reason, response.outcome = .error reason ∧ reply = .error reason)
      ∨ ((∃ result, response.outcome = .ok result) ∧ Reply.IsFor method reply) := by
  unfold replyOf at decoded
  cases outcome : response.outcome with
  | error reason =>
      rw [outcome] at decoded
      exact Or.inl ⟨reason, rfl, (Except.ok.inj decoded).symm⟩
  | ok result =>
      rw [outcome] at decoded
      cases read : Reply.ofResult method result with
      | error error =>
          dsimp only at decoded
          rw [read] at decoded
          cases decoded
      | ok other =>
          dsimp only at decoded
          rw [read] at decoded
          obtain rfl := Except.ok.inj decoded
          exact Or.inr ⟨⟨result, rfl⟩, Reply.isFor_of_ofResult read⟩

/-- A session with other waiting events. -/
def withEvents (session : Session) (events : List SessionEvent) : Session :=
  { session with events }

/-- The waiting events after another one, if there is one. -/
def waitingAfter (capacity : Nat) (waiting : List SessionEvent)
    : Option SessionEvent → List SessionEvent
  | none => waiting
  | some event =>
    if capacity = 0 then
      waiting
    else if waiting.length = capacity then
      waiting.drop 1 ++ [event]
    else
      waiting ++ [event]

theorem pushEvent_withEvents (session : Session) (events : List SessionEvent)
    (event : SessionEvent)
    : (session.withEvents events).pushEvent event
      = session.withEvents
          (waitingAfter session.options.eventCapacity events (some event)) := by
  unfold pushEvent withEvents waitingAfter
  dsimp only
  split
  · rfl
  · split <;> rfl

/-- An event that waits has been the last one of all for a while. -/
theorem waitingAfter_suffix {waiting log : List SessionEvent} (capacity : Nat)
    (queued : Option SessionEvent) (suffix : waiting <:+ log)
    : waitingAfter capacity waiting queued <:+ log ++ waitingAfter capacity [] queued := by
  obtain ⟨older, rfl⟩ := suffix
  cases queued with
  | none => exact ⟨older, (List.append_nil _).symm⟩
  | some event =>
      unfold waitingAfter
      dsimp only
      split
      · exact ⟨older, (List.append_nil _).symm⟩
      · rename_i positive
        have empty : ([] : List SessionEvent).length ≠ capacity := fun same => positive same.symm
        rw [if_neg empty, List.nil_append]
        split
        · refine ⟨older ++ waiting.take 1, ?_⟩
          rw [List.append_assoc, ← List.append_assoc (waiting.take 1), List.take_append_drop,
            List.append_assoc]
        · exact ⟨older, (List.append_assoc _ _ _).symm⟩

/-- The events that wait after a message that arrives while none waits. -/
def queuedBy (session : Session) (message : Value) : List SessionEvent :=
  ((session.withEvents []).handleMessage message).2.events

/-- Whatever waits in a session, what happens to it leads to one session and lets one event
wait or none.
-/
def Reacts (session : Session) (happen : Session → Session) (after : Session)
    (queued : Option SessionEvent) : Prop :=
  ∀ events,
    happen (session.withEvents events)
    = after.withEvents (waitingAfter session.options.eventCapacity events queued)

-----------------------------------------------------------------------------------------
-- Sending
-----------------------------------------------------------------------------------------

/-- Sending does not depend on what waits. -/
theorem send_withEvents (session : Session) (events : List SessionEvent) (message : Value)
    : (session.withEvents events).send message
      = ((session.send message).1, (session.send message).2.withEvents events) := by
  obtain ⟨_, transport, _⟩ := session
  cases transport with
  | none => rfl
  | some transport =>
      obtain ⟨remaining, failure⟩ := transport
      cases remaining with
      | none => rfl
      | some count =>
          cases count with
          | zero => rfl
          | succ count => rfl

theorem sendOpens_withEvents (session : Session) (events : List SessionEvent)
    (opened : List (String × OpenDocument × String))
    : (session.withEvents events).sendOpens opened
      = ((session.sendOpens opened).1, (session.sendOpens opened).2.withEvents events) := by
  induction opened generalizing session with
  | nil => rfl
  | cons first rest ih =>
      obtain ⟨uri, document, text⟩ := first
      unfold sendOpens sendOpen notify
      rw [send_withEvents]
      cases session.send
          (notificationMessage "textDocument/didOpen" (openParams uri document text)) with
      | mk result sent =>
          cases result with
          | error error => rfl
          | ok _ => exact ih sent

theorem flushDocuments_withEvents (session : Session) (events : List SessionEvent)
    : (session.withEvents events).flushDocuments
      = (session.flushDocuments.1, session.flushDocuments.2.withEvents events) :=
  sendOpens_withEvents { session with documents := markOpened session.documents } events _

/-- A message that does not go out leaves no connection. -/
theorem send_failed {session failed : Session} {message : Value} {error : ClientError}
    (outcome : session.send message = (.error error, failed))
    : failed.isRunning = false := by
  rcases session.send_cases message with
    ⟨stopped, same⟩ | ⟨_, reason, same⟩ | ⟨_, transport, same⟩
  · rw [outcome] at same
    exact (Prod.mk.inj same).2 ▸ stopped
  · rw [outcome] at same
    rw [(Prod.mk.inj same).2]
    rfl
  · rw [outcome] at same
    cases (Prod.mk.inj same).1

theorem sendOpens_failed {session failed : Session} {error : ClientError}
    {opened : List (String × OpenDocument × String)}
    (outcome : session.sendOpens opened = (.error error, failed))
    : failed.isRunning = false := by
  induction opened generalizing session with
  | nil => cases (Prod.mk.inj outcome).1
  | cons first rest ih =>
      obtain ⟨uri, document, text⟩ := first
      unfold sendOpens at outcome
      split at outcome
      · exact ih outcome
      · rename_i told
        obtain ⟨same, rfl⟩ := Prod.mk.inj outcome
        exact send_failed told

theorem notify_withEvents (session : Session) (events : List SessionEvent) (method : String)
    (params : Value)
    : (session.withEvents events).notify method params
      = ((session.notify method params).1, (session.notify method params).2.withEvents events) :=
  session.send_withEvents events (notificationMessage method params)

-----------------------------------------------------------------------------------------
-- Replies
-----------------------------------------------------------------------------------------

/-- The handshake ends quietly. Its event waits unless the connection ends. -/
theorem finishHandshake_reacts (session : Session) (info : ServerInfo)
    : ∃ after queued,
        Reacts session (fun state => (state.finishHandshake info).2) after queued
        ∧ Quiet session after
        ∧ (after.isRunning = false ∧ queued = none ∨ queued = some (.initialized info)) := by
  have ready : Quiet session { session with initialized := true, serverInfo := some info } :=
    Quiet.of_eq rfl rfl rfl rfl rfl rfl
  have greeted := ready.trans (notify_quiet _ "initialized" (.ofFields []))
  have greetAgain := fun events =>
    notify_withEvents { session with initialized := true, serverInfo := some info } events
      "initialized" (.ofFields [])
  cases greeting
    : notify { session with initialized := true, serverInfo := some info } "initialized"
        (.ofFields []) with
  | mk result told =>
      simp only [greeting, withEvents] at greeted greetAgain
      cases result with
      | error error =>
          refine ⟨told, none, ?_, greeted, Or.inl ⟨send_failed greeting, rfl⟩⟩
          intro events
          simp only [finishHandshake, withEvents, greetAgain, waitingAfter]
      | ok _ =>
          have flushed := greeted.trans told.flushDocuments_quiet
          have flushAgain := told.flushDocuments_withEvents
          cases flushing : told.flushDocuments with
          | mk result opened =>
              simp only [flushing, withEvents] at flushed flushAgain
              cases result with
              | error error =>
                  refine ⟨opened, none, ?_, flushed, Or.inl ⟨sendOpens_failed flushing, rfl⟩⟩
                  intro events
                  simp only [finishHandshake, withEvents, greetAgain, flushAgain, waitingAfter]
              | ok _ =>
                  refine ⟨opened, some (.initialized info), ?_, flushed, Or.inr rfl⟩
                  intro events
                  have pushed := opened.pushEvent_withEvents events (.initialized info)
                  rw [flushed.options] at pushed
                  simp only [withEvents] at pushed
                  simp only [finishHandshake, withEvents, greetAgain, flushAgain, pushed]

/-- Every reply is handled quietly, and its event waits unless the connection ends. -/
theorem handleReply_reacts (session : Session) (handle : RequestHandle) (reply : Reply)
    : ∃ after queued,
        Reacts session (fun state => (state.handleReply handle reply).2) after queued
        ∧ Quiet session after
        ∧ (after.isRunning = false ∧ queued = none
          ∨ queued = some (reply.event handle)) := by
  have pushed
      : ∀ reply : Reply,
          (∀ events,
            ((session.withEvents events).handleReply handle reply).2
            = (session.withEvents events).pushEvent (.reply handle reply))
          → reply.event handle = .reply handle reply
          → ∃ after queued,
              Reacts session (fun state => (state.handleReply handle reply).2) after queued
              ∧ Quiet session after
              ∧ (after.isRunning = false ∧ queued = none
                ∨ queued = some (reply.event handle)) := by
    intro reply handled told
    refine ⟨session, some (reply.event handle), ?_, Quiet.refl session, Or.inr rfl⟩
    intro events
    rw [told, ← pushEvent_withEvents]
    exact handled events
  cases reply with
  | handshake info => exact session.finishHandshake_reacts info
  | shutdown =>
      refine ⟨(session.notify "exit" .null).2, some (.reply handle .shutdown), ?_,
        session.notify_quiet _ _, Or.inr rfl⟩
      intro events
      simp only [handleReply, pushEvent_withEvents, notify_withEvents]
  | completion candidates => exact pushed _ (fun _ => rfl) rfl
  | formatting edits => exact pushed _ (fun _ => rfl) rfl
  | definition locations => exact pushed _ (fun _ => rfl) rfl
  | references locations => exact pushed _ (fun _ => rfl) rfl
  | other result => exact pushed _ (fun _ => rfl) rfl
  | error reason => exact pushed _ (fun _ => rfl) rfl

-----------------------------------------------------------------------------------------
-- Messages
-----------------------------------------------------------------------------------------

/-- A message that answers no request: nothing is asked, and no reply waits. -/
def Unrelated (session after : Session) (queued : Option SessionEvent) : Prop :=
  Quiet session after ∧ ∀ handle reply, queued ≠ some (.reply handle reply)

/-- A response that is awaited: at most one event waits for it, which is about the id that
the response names and the method that is awaited.
-/
def Answered (session after : Session) (queued : Option SessionEvent) : Prop :=
  ∃ pending id,
    session.pending = some pending
    ∧ pending.awaits id = true
    ∧ Quiet { session with pending := pending.afterResponse id } after
    ∧ (queued = none
      ∨ ∃ reply : Reply, queued = some (reply.event { id, method := pending.method }))

/-- A message that is passed over leads to nothing. -/
theorem unrelated_of_same (session : Session) (happen : Session → Session)
    (same : ∀ events, happen (session.withEvents events) = session.withEvents events)
    : ∃ after queued, Reacts session happen after queued ∧ Unrelated session after queued :=
  ⟨session, none, same, Quiet.refl session, fun _ _ => nofun⟩

/-- Notifications of the server are quiet, and none of their events is a reply. -/
theorem handleNotification_reacts (session : Session) (notification : Notification)
    : ∃ after queued,
        Reacts session (·.handleNotification notification) after queued
        ∧ Unrelated session after queued := by
  cases notification with
  | diagnostics publication =>
      by_cases active : session.active = some publication.uri
      · refine ⟨{ session with diagnostics := publication.diagnostics },
          some (.diagnostics publication), ?_, Quiet.of_eq rfl rfl rfl rfl rfl rfl,
          fun _ _ => nofun⟩
        intro events
        refine (if_pos active).trans ?_
        exact pushEvent_withEvents
          { session with diagnostics := publication.diagnostics } events _
      · exact unrelated_of_same session (·.handleNotification (.diagnostics publication))
          fun events => if_neg active
  | shown notice =>
      refine ⟨session, some (.shown notice), ?_, Quiet.refl session, fun _ _ => nofun⟩
      exact fun events => session.pushEvent_withEvents events _
  | logged notice =>
      refine ⟨session, some (.logged notice), ?_, Quiet.refl session, fun _ _ => nofun⟩
      exact fun events => session.pushEvent_withEvents events _

/-- A response to an awaited request is handled like its reply, if it can be read. -/
theorem handleResponse_awaited {session : Session} {pending : PendingRequest}
    {response : Response} (slot : session.pending = some pending)
    (awaited : pending.awaits response.id = true)
    : (session.handleResponse response).2
      = match replyOf pending.method response with
        | .error _ => { session with pending := pending.afterResponse response.id }
        | .ok reply =>
          (handleReply { session with pending := pending.afterResponse response.id }
            { id := response.id, method := pending.method } reply).2 := by
  unfold handleResponse
  simp only [slot, awaited, if_true]
  cases replyOf pending.method response with
  | error error => rfl
  | ok reply => rfl

/-- A response is passed over, or it answers a request, readable or not. -/
theorem handleResponse_reacts (session : Session) (response : Response)
    : ∃ after queued,
        Reacts session (fun state => (state.handleResponse response).2) after queued
        ∧ (Unrelated session after queued ∨ Answered session after queued) := by
  have passed := unrelated_of_same session fun state => (state.handleResponse response).2
  cases slot : session.pending with
  | none =>
      obtain ⟨after, queued, reacts, unrelated⟩ := passed (by
        intro events
        simp only [handleResponse, withEvents, slot])
      exact ⟨after, queued, reacts, Or.inl unrelated⟩
  | some pending =>
      cases awaited : pending.awaits response.id with
      | false =>
          obtain ⟨after, queued, reacts, unrelated⟩ := passed (by
            intro events
            simp [handleResponse, withEvents, slot, awaited])
          exact ⟨after, queued, reacts, Or.inl unrelated⟩
      | true =>
          have handled := fun events =>
            handleResponse_awaited (show (session.withEvents events).pending = _ from slot)
              awaited
          cases read : replyOf pending.method response with
          | error error =>
              simp only [read] at handled
              exact ⟨{ session with pending := pending.afterResponse response.id }, none, handled,
                Or.inr ⟨pending, response.id, slot, awaited, Quiet.refl _, Or.inl rfl⟩⟩
          | ok reply =>
              simp only [read] at handled
              obtain ⟨after, queued, reacts, quiet, outcome⟩ :=
                handleReply_reacts { session with pending := pending.afterResponse response.id }
                  { id := response.id, method := pending.method } reply
              refine ⟨after, queued, fun events => (handled events).trans (reacts events),
                Or.inr ⟨pending, response.id, slot, awaited, quiet, ?_⟩⟩
              rcases outcome with ⟨_, nothing⟩ | told
              · exact Or.inl nothing
              · exact Or.inr ⟨reply, told⟩

/-- A request of the server is answered, a notification may lead to an event. -/
theorem handleIncoming_reacts (session : Session) (incoming : Incoming)
    : ∃ after queued,
        Reacts session (fun state => (state.handleIncoming incoming).2) after queued
        ∧ (Unrelated session after queued ∨ Answered session after queued) := by
  cases incoming with
  | response response => exact session.handleResponse_reacts response
  | request request =>
      refine ⟨(session.send request.answer).2, none, ?_, Or.inl ⟨?_, fun _ _ => nofun⟩⟩
      · intro events
        simp only [handleIncoming, send_withEvents, waitingAfter]
      · exact session.send_quiet (requestHead?_answer request)
  | notification method params =>
      have passed := unrelated_of_same session
        fun state => (state.handleIncoming (.notification method params)).2
      have handled := session.handleNotification_reacts
      unfold handleIncoming at passed ⊢
      cases understood : Notification.ofMethod method params with
      | error error =>
          simp only [understood] at passed ⊢
          obtain ⟨after, queued, reacts, unrelated⟩ := passed fun _ => trivial
          exact ⟨after, queued, reacts, Or.inl unrelated⟩
      | ok notification =>
          cases notification with
          | none =>
              simp only [understood] at passed ⊢
              obtain ⟨after, queued, reacts, unrelated⟩ := passed fun _ => trivial
              exact ⟨after, queued, reacts, Or.inl unrelated⟩
          | some notification =>
              simp only [understood]
              obtain ⟨after, queued, reacts, unrelated⟩ := handled notification
              exact ⟨after, queued, reacts, Or.inl unrelated⟩

/-- Everything that a message can come to: it is unrelated to any request, or it answers
an awaited one.
-/
theorem handleMessage_reacts (session : Session) (message : Value)
    : ∃ after queued,
        Reacts session (fun state => (state.handleMessage message).2) after queued
        ∧ (Unrelated session after queued ∨ Answered session after queued) := by
  unfold handleMessage
  cases Incoming.ofValue message with
  | ok incoming => exact session.handleIncoming_reacts incoming
  | error error =>
      obtain ⟨after, queued, reacts, unrelated⟩ :=
        unrelated_of_same session id fun _ => rfl
      exact ⟨after, queued, reacts, Or.inl unrelated⟩

/-- What a session and its events come to, once a reaction is known. -/
theorem handleMessage_of_reacts {session after : Session} {message : Value}
    {queued : Option SessionEvent}
    (reacts : Reacts session (fun state => (state.handleMessage message).2) after queued)
    : (session.handleMessage message).2
        = after.withEvents
            (waitingAfter session.options.eventCapacity session.events queued)
      ∧ session.queuedBy message
        = waitingAfter session.options.eventCapacity [] queued :=
  ⟨reacts session.events, congrArg Session.events (reacts [])⟩

/-- A readable response to the latest request leads to exactly one event, as long as the
connection holds and there is room for an event at all.
-/
theorem queuedBy_of_response {session : Session} {pending : PendingRequest} {message : Value}
    {response : Response} {reply : Reply} (slot : session.pending = some pending)
    (read : Incoming.ofValue message = .ok (.response response))
    (same : response.id = pending.id)
    (decoded : replyOf pending.method response = .ok reply)
    (room : 0 < session.options.eventCapacity)
    (running : (session.handleMessage message).2.isRunning = true)
    : session.queuedBy message
      = [reply.event { id := pending.id, method := pending.method }] := by
  have awaited : pending.awaits response.id = true := by simp [PendingRequest.awaits, same]
  obtain ⟨after, queued, handled, _, outcome⟩ :=
    handleReply_reacts { session with pending := pending.afterResponse response.id }
      { id := response.id, method := pending.method } reply
  have reacts : Reacts session (fun state => (state.handleMessage message).2) after queued := by
    intro events
    simp only [handleMessage, read, handleIncoming]
    rw [handleResponse_awaited (show (session.withEvents events).pending = _ from slot) awaited]
    simp only [decoded]
    exact handled events
  obtain ⟨whole, events⟩ := handleMessage_of_reacts reacts
  rcases outcome with ⟨stopped, _⟩ | told
  · rw [whole] at running
    exact absurd (running.symm.trans stopped) (by decide)
  · rw [events, told, ← same]
    have empty : ([] : List SessionEvent).length ≠ session.options.eventCapacity :=
      Nat.ne_of_lt room
    simp only [waitingAfter, if_neg (Nat.ne_of_gt room), if_neg empty, List.nil_append]

end Session

end LanguageClient
