import LanguageClient.Proofs.Session.Correlation
import LanguageClient.Proofs.Session.ToldTexts

/-! What becomes of a formatting request that is awaited. Only asking for formatting makes a
session await it. While it is awaited, nothing that arrives tells a text, and at most one reply
waits for the editor.
-/

namespace LanguageClient

open Json (Value)

/-- Whether an event brings edits that are to be applied. -/
def SessionEvent.formats : SessionEvent → Bool
  | .reply _ (.formatting (_ :: _)) => true
  | _ => false

/-- Only replies bring edits. -/
theorem SessionEvent.formats_of_notice {event : SessionEvent}
    (notice : event.replyHandle? = none)
    : event.formats = false := by
  cases event with
  | reply handle reply => cases notice
  | initialized _ | diagnostics _ | shown _ | logged _ => rfl

/-- An event that brings edits is a formatting reply with some. -/
theorem SessionEvent.exists_of_formats {event : SessionEvent} (formats : event.formats = true)
    : ∃ handle edit rest, event = .reply handle (.formatting (edit :: rest)) := by
  unfold SessionEvent.formats at formats
  split at formats
  · exact ⟨_, _, _, rfl⟩
  · cases formats

namespace Session

/-- Whether the reply to a formatting request is awaited. -/
def AwaitsFormatting (session : Session) (pending : PendingRequest) : Prop :=
  session.pending = some pending ∧ pending.method = .formatting

-----------------------------------------------------------------------------------------
-- The active document and the handshake
-----------------------------------------------------------------------------------------

/-- The active document, and whether the handshake has ended. -/
def stage (session : Session) : Option String × Bool :=
  (session.active, session.initialized)

theorem send_stage (session : Session) (message : Value)
    : (session.send message).2.stage = session.stage := by
  rcases session.send_cases message with
    ⟨_, outcome⟩ | ⟨_, reason, outcome⟩ | ⟨_, transport, outcome⟩ <;> rw [outcome] <;> rfl

theorem notify_stage (session : Session) (method : String) (params : Value)
    : (session.notify method params).2.stage = session.stage :=
  session.send_stage _

theorem request_stage (session : Session) (method : Method) (params : Value)
    : (session.request method params).2.stage = session.stage := by
  rcases session.request_cases method params with
    ⟨_, outcome⟩ | ⟨_, reason, outcome⟩ | ⟨_, transport, outcome⟩ <;> rw [outcome] <;> rfl

theorem changeDocument_stage (session : Session) (text : String)
    : (session.changeDocument text).2.stage = session.stage := by
  unfold changeDocument
  split
  · rfl
  · split
    · rfl
    · split
      · rfl
      · exact notify_stage _ _ _

theorem setActive_stage (session : Session) (uri : String)
    : (session.setActive uri).stage = (some uri, session.initialized) := by
  unfold setActive
  split
  · rename_i same
    rw [stage, same]
  · rfl

/-- A running session makes the opened document the active one. -/
theorem openDocument_stage_of_running {session : Session} (running : session.isRunning = true)
    (uri language text : String)
    : (session.openDocument uri language text).2.stage = (some uri, session.initialized) := by
  have active := session.setActive_stage uri
  unfold openDocument
  simp only [running, Bool.not_true, Bool.false_eq_true, if_false]
  split
  · rw [changeDocument_stage, active]
  · split
    · rw [sendOpen, notify_stage]
      exact active
    · exact active

theorem openDocument_stage (session : Session) (uri language text : String)
    : (session.openDocument uri language text).2.stage = session.stage
      ∨ (session.openDocument uri language text).2.stage = (some uri, session.initialized) := by
  cases running : session.isRunning with
  | true => exact Or.inr (openDocument_stage_of_running running uri language text)
  | false =>
      left
      rw [openDocument, running]
      rfl

theorem saveDocument_stage (session : Session) (text : Option String)
    : (session.saveDocument text).2.stage = session.stage := by
  unfold saveDocument
  split
  · rfl
  · split
    · rfl
    · exact session.notify_stage _ _

theorem releasePending_stage (session : Session)
    : session.releasePending.stage = session.stage := by
  unfold releasePending
  split <;> rfl

theorem sendOpens_stage (session : Session) (opened : List (String × OpenDocument × String))
    : (session.sendOpens opened).2.stage = session.stage := by
  induction opened generalizing session with
  | nil => rfl
  | cons first rest ih =>
      obtain ⟨uri, document, text⟩ := first
      have told := session.notify_stage "textDocument/didOpen" (openParams uri document text)
      unfold sendOpens sendOpen
      split
      · rename_i outcome
        rw [outcome] at told
        exact (ih _).trans told
      · rename_i outcome
        rw [outcome] at told
        exact told

-----------------------------------------------------------------------------------------
-- Later states
-----------------------------------------------------------------------------------------

/-- A later state of a session, in which no formatting is awaited that was not before. -/
structure Follows (before after : Session) : Prop where
  running : after.isRunning = true → before.isRunning = true
  awaited
    : ∀ pending,
        after.AwaitsFormatting pending
        → before.AwaitsFormatting pending ∧ after.isRunning = before.isRunning
  written : before.written <+: after.written
  active : before.active.isSome = true → after.active.isSome = true
  initialized : before.initialized = true → after.initialized = true

namespace Follows

theorem of_quiet {before after : Session} (quiet : Quiet before after)
    (active : before.active.isSome = true → after.active.isSome = true)
    (initialized : before.initialized = true → after.initialized = true)
    : Follows before after where
  running := quiet.running
  awaited := by
    rintro pending ⟨slot, method⟩
    rcases quiet.slot with givenUp | ⟨kept, running⟩
    · exact absurd (slot.symm.trans givenUp) nofun
    · exact ⟨⟨kept.symm.trans slot, method⟩, running⟩
  written := by
    obtain ⟨sent, frames, _⟩ := quiet.written
    exact ⟨sent, frames.symm⟩
  active := active
  initialized := initialized

/-- Most operations keep the active document and do not end the handshake. -/
theorem of_stage {before after : Session} (quiet : Quiet before after)
    (stage : after.stage = before.stage)
    : Follows before after := by
  obtain ⟨active, initialized⟩ := Prod.mk.inj stage
  exact of_quiet quiet (fun isSome => active ▸ isSome) fun ended => initialized.trans ended

theorem refl (session : Session) : Follows session session :=
  of_stage (Quiet.refl session) rfl

theorem trans {first second third : Session} (earlier : Follows first second)
    (later : Follows second third)
    : Follows first third where
  running := fun runs => earlier.running (later.running runs)
  awaited := by
    intro pending awaits
    obtain ⟨between, same⟩ := later.awaited pending awaits
    obtain ⟨before, same'⟩ := earlier.awaited pending between
    exact ⟨before, same.trans same'⟩
  written := earlier.written.trans later.written
  active := fun isSome => later.active (earlier.active isSome)
  initialized := fun ended => later.initialized (earlier.initialized ended)

end Follows

theorem changeDocument_follows (session : Session) (text : String)
    : Follows session (session.changeDocument text).2 :=
  .of_stage (session.changeDocument_quiet text) (session.changeDocument_stage text)

theorem openDocument_follows (session : Session) (uri language text : String)
    : Follows session (session.openDocument uri language text).2 := by
  have quiet := session.openDocument_quiet uri language text
  rcases session.openDocument_stage uri language text with same | opened
  · exact .of_stage quiet same
  · obtain ⟨active, initialized⟩ := Prod.mk.inj opened
    exact .of_quiet quiet (fun _ => by rw [active]; rfl) fun ended => initialized.trans ended

theorem pushEvent_follows (session : Session) (event : SessionEvent)
    : Follows session (session.pushEvent event) := by
  unfold pushEvent
  split
  · exact .refl session
  · split <;>
      exact ⟨id, fun _ awaits => ⟨awaits, rfl⟩, List.prefix_rfl, id, id⟩

/-- A request for anything but formatting. -/
theorem request_follows (session : Session) {method : Method} (params : Value)
    (other : method ≠ .formatting)
    : Follows session (session.request method params).2 := by
  rcases session.request_quiet_or method params with
    ⟨error, after, failed, quiet⟩ | ⟨running, transport, sent⟩
  · have stage := session.request_stage method params
    rw [failed] at stage ⊢
    exact .of_stage quiet stage
  · rw [sent]
    refine ⟨fun _ => running, ?_, List.prefix_append _ _, id, id⟩
    rintro pending ⟨slot, formatting⟩
    have next : session.nextPending method = pending := Option.some.inj slot
    have same : (session.nextPending method).method = method := by
      unfold nextPending
      dsimp only
      split
      · rfl
      · split <;> rfl
    rw [next, formatting] at same
    exact absurd same.symm other

/-- A later state of a session that has been given no text, and that lets no new event wait. -/
structure Neutral (before after : Session) : Prop extends Follows before after where
  events : after.events <:+ before.events
  tracked
    : ∀ {earlier : List Value} {given : GivenTexts},
        Tracked earlier given before → Tracked earlier given after

namespace Neutral

theorem refl (session : Session) : Neutral session session :=
  ⟨.refl session, List.suffix_rfl, id⟩

theorem trans {first second third : Session} (earlier : Neutral first second)
    (later : Neutral second third)
    : Neutral first third :=
  ⟨earlier.toFollows.trans later.toFollows, later.events.trans earlier.events,
    fun tracked => later.tracked (earlier.tracked tracked)⟩

/-- What has been given last stays. -/
theorem told {before after : Session} (neutral : Neutral before after) {text : String}
    (told : before.Told text)
    : after.Told text := by
  obtain ⟨earlier, given, tracked, current⟩ := told
  exact ⟨earlier, given, neutral.tracked tracked, fun runs => current (neutral.running runs)⟩

end Neutral

theorem releasePending_neutral (session : Session) : Neutral session session.releasePending :=
  ⟨.of_stage session.releasePending_quiet session.releasePending_stage,
    session.releasePending_quiet.events, fun tracked => tracked.releasePending⟩

theorem saveDocument_neutral (session : Session) (text : Option String)
    : Neutral session (session.saveDocument text).2 :=
  ⟨.of_stage (session.saveDocument_quiet text) (session.saveDocument_stage text),
    (session.saveDocument_quiet text).events, fun tracked => tracked.saveDocument text⟩

/-- A request of a method with a name of its own, but for formatting. -/
theorem request_neutral (session : Session) {method : Method} (params : Value)
    (typed : ∀ name, method ≠ .other name) (other : method ≠ .formatting)
    : Neutral session (session.request method params).2 := by
  refine ⟨session.request_follows params other, ?_, fun tracked => tracked.request params typed⟩
  rcases session.request_quiet_or method params with
    ⟨error, after, failed, quiet⟩ | ⟨_, transport, sent⟩
  · rw [failed]
    exact quiet.events
  · rw [sent]
    exact List.suffix_rfl

theorem requestAboutDocument_neutral (session : Session) {method : Method}
    (extra : List (String × Value)) (typed : ∀ name, method ≠ .other name)
    (other : method ≠ .formatting)
    : Neutral session (session.requestAboutDocument method extra).2 := by
  rcases session.requestAboutDocument_cases method extra with
    ⟨error, refused⟩ | ⟨params, sent⟩
  · rw [refused]
    exact .refl session
  · rw [sent]
    exact session.request_neutral params typed other

theorem requestHandshake_neutral (session : Session) (workspace : Workspace)
    : Neutral session (session.requestHandshake workspace).2 := by
  rcases session.requestHandshake_cases workspace with ⟨error, refused⟩ | ⟨params, sent⟩
  · rw [refused]
    exact .refl session
  · rw [sent]
    exact session.request_neutral params nofun nofun

/-- A formatting is awaited by itself and only once. -/
theorem nextPending_formatting (session : Session)
    : session.nextPending .formatting
      = {
          id := session.nextId
          method := .formatting
          retain := false
          firstId := session.nextId
          lastDelivered := none
        } := by
  unfold nextPending
  split <;> simp [Method.retains]

/-- A formatting request that is sent is awaited, and any other one changes nothing that
counts.
-/
theorem requestFormatting_cases (session : Session) (tabSize : UInt32) (insertSpaces : Bool)
    : (∃ error after,
        session.requestFormatting tabSize insertSpaces = (.error error, after)
        ∧ Neutral session after)
      ∨ ∃ uri transport params,
          session.isRunning = true
          ∧ session.initialized = true
          ∧ session.active = some uri
          ∧ session.requestFormatting tabSize insertSpaces
            = (
                .ok { id := session.nextId, method := .formatting },
                (session.asking .formatting).delivered transport
                  (requestMessage session.nextId .formatting params)
              ) := by
  have tracked {earlier : List Value} {given : GivenTexts} (tracked : Tracked earlier given session)
      : Tracked earlier given (session.requestFormatting tabSize insertSpaces).2 :=
    tracked.requestAboutDocument _ fun _ => nofun
  unfold requestFormatting requestAboutDocument activeUri at tracked ⊢
  cases running : session.isRunning with
  | false => exact Or.inl ⟨_, session, rfl, .refl session⟩
  | true =>
      cases active : session.active with
      | none => exact Or.inl ⟨_, session, rfl, .refl session⟩
      | some uri =>
          cases initialized : session.initialized with
          | false => exact Or.inl ⟨_, session, rfl, .refl session⟩
          | true =>
              simp only [running, active, initialized, if_true] at tracked ⊢
              rcases session.request_quiet_or .formatting _ with
                ⟨error, after, failed, quiet⟩ | ⟨_, transport, sent⟩
              · rw [failed] at tracked
                have stage : after.stage = session.stage :=
                  (congrArg (·.2.stage) failed).symm.trans (session.request_stage _ _)
                exact Or.inl ⟨error, after, failed, .of_stage quiet stage, quiet.events, tracked⟩
              · exact Or.inr ⟨uri, transport, _, trivial, trivial, rfl, sent⟩

-----------------------------------------------------------------------------------------
-- What arrives
-----------------------------------------------------------------------------------------

/-- Everything that a message can do: nothing, an answer to a request of the server, what a
notification does, or what the reply to an awaited request does.
-/
theorem handleMessage_cases (session : Session) (message : Value)
    : (session.handleMessage message).2 = session
      ∨ (∃ request : ServerRequest,
          (session.handleMessage message).2 = (session.send request.answer).2)
      ∨ (∃ notification,
          (session.handleMessage message).2 = session.handleNotification notification)
      ∨ ∃ pending response,
          session.pending = some pending
          ∧ pending.awaits response.id = true
          ∧ ((session.handleMessage message).2
              = { session with pending := pending.afterResponse response.id }
            ∨ ∃ reply,
                replyOf pending.method response = .ok reply
                ∧ (session.handleMessage message).2
                  = (handleReply { session with pending := pending.afterResponse response.id }
                      { id := response.id, method := pending.method } reply).2) := by
  unfold handleMessage
  cases Incoming.ofValue message with
  | error error => exact Or.inl rfl
  | ok incoming =>
      cases incoming with
      | request request => exact Or.inr (Or.inl ⟨request, rfl⟩)
      | notification method params =>
          unfold handleIncoming
          dsimp only
          cases Notification.ofMethod method params with
          | error error => exact Or.inl rfl
          | ok notification =>
              cases notification with
              | none => exact Or.inl rfl
              | some notification => exact Or.inr (Or.inr (Or.inl ⟨notification, rfl⟩))
      | response response =>
          cases slot : session.pending with
          | none => exact Or.inl (by simp only [handleIncoming, handleResponse, slot])
          | some pending =>
              cases awaited : pending.awaits response.id with
              | false =>
                  exact Or.inl (by simp [handleIncoming, handleResponse, slot, awaited])
              | true =>
                  have handled := handleResponse_awaited slot awaited
                  refine Or.inr (Or.inr (Or.inr ⟨pending, response, rfl, awaited, ?_⟩))
                  dsimp only [handleIncoming]
                  rw [handled]
                  cases read : replyOf pending.method response with
                  | error error => exact Or.inl rfl
                  | ok reply => exact Or.inr ⟨reply, rfl, rfl⟩

/-- The end of the handshake asks for nothing. -/
theorem finishHandshake_follows (session : Session) (info : ServerInfo)
    : Follows session (session.finishHandshake info).2 := by
  have ready : Follows session { session with initialized := true, serverInfo := some info } :=
    .of_quiet (Quiet.of_eq rfl rfl rfl rfl rfl rfl) id fun _ => rfl
  have greeted := ready.trans (.of_stage (notify_quiet _ "initialized" (.ofFields []))
    (notify_stage _ _ _))
  unfold finishHandshake
  dsimp only
  split
  · rename_i outcome
    rwa [outcome] at greeted
  · rename_i told outcome
    rw [outcome] at greeted
    have flushed := greeted.trans (.of_stage told.flushDocuments_quiet
      (sendOpens_stage { told with documents := markOpened told.documents } _))
    split
    · rename_i outcome'
      rwa [outcome'] at flushed
    · rename_i outcome'
      rw [outcome'] at flushed
      exact flushed.trans (pushEvent_follows _ _)

theorem handleReply_follows (session : Session) (handle : RequestHandle) (reply : Reply)
    : Follows session (session.handleReply handle reply).2 := by
  cases reply with
  | handshake info => exact session.finishHandshake_follows info
  | shutdown =>
      exact (session.pushEvent_follows _).trans
        (.of_stage (notify_quiet _ _ _) (notify_stage _ _ _))
  | completion _ | formatting _ | definition _ | references _ | other _ | error _ =>
      exact session.pushEvent_follows _

theorem handleNotification_follows (session : Session) (notification : Notification)
    : Follows session (session.handleNotification notification) := by
  cases notification with
  | diagnostics publication =>
      rw [handleNotification]
      split
      · have noted : Follows session { session with diagnostics := publication.diagnostics } :=
          .of_stage (Quiet.of_eq rfl rfl rfl rfl rfl rfl) rfl
        exact noted.trans (pushEvent_follows _ _)
      · exact .refl session
  | shown notice => exact session.pushEvent_follows _
  | logged notice => exact session.pushEvent_follows _

/-- A formatting that is awaited does not go on waiting after its reply. -/
def FormatsOnce (session : Session) : Prop :=
  ∀ pending, session.AwaitsFormatting pending → pending.retain = false

theorem Follows.formatsOnce {before after : Session} (follows : Follows before after)
    (once : before.FormatsOnce)
    : after.FormatsOnce :=
  fun pending awaits => once pending (follows.awaited pending awaits).1

/-- Without a formatting that waits on, a message leads to a later state. -/
theorem handleMessage_follows {session : Session} (once : session.FormatsOnce)
    (message : Value)
    : Follows session (session.handleMessage message).2 := by
  rcases session.handleMessage_cases message with
    same | ⟨request, same⟩ | ⟨notification, same⟩ | ⟨pending, response, slot, _, outcome⟩
  · rw [same]
    exact .refl session
  · rw [same]
    exact .of_stage (session.send_quiet (requestHead?_answer request)) (session.send_stage _)
  · rw [same]
    exact session.handleNotification_follows notification
  · have answered
        : Follows session { session with pending := pending.afterResponse response.id } := by
      refine ⟨id, ?_, List.prefix_rfl, id, id⟩
      rintro next ⟨kept, formatting⟩
      dsimp only [PendingRequest.afterResponse] at kept
      split at kept
      · rename_i retain
        obtain rfl := Option.some.inj kept
        exact absurd (retain.symm.trans (once pending ⟨slot, formatting⟩)) (by decide)
      · cases kept
    rcases outcome with same | ⟨reply, _, same⟩
    · rw [same]
      exact answered
    · rw [same]
      exact answered.trans (handleReply_follows _ _ _)

/-- Messages in a row, by induction on them. -/
theorem handleMessages_follows {session : Session} (once : session.FormatsOnce)
    (messages : List Value)
    : Follows session (session.handleMessages messages) := by
  induction messages generalizing session with
  | nil => exact .refl session
  | cons message rest ih =>
      have follows := handleMessage_follows once message
      exact follows.trans (ih (follows.formatsOnce once))

theorem receive_follows {session : Session} (once : session.FormatsOnce) (chunk : List UInt8)
    : Follows session (session.receive chunk) := by
  have framed : Follows session { session with framer := (session.framer.feed chunk).2 } :=
    .of_stage (Quiet.of_eq rfl rfl rfl rfl rfl rfl) rfl
  exact framed.trans (handleMessages_follows (framed.formatsOnce once) _)

-----------------------------------------------------------------------------------------
-- Events
-----------------------------------------------------------------------------------------

/-- One event more may wait, and nothing else that counts has changed. -/
structure Noted (before after : Session) (event : SessionEvent) : Prop where
  active : after.active = before.active
  written : after.written = before.written
  pending : after.pending = before.pending
  events : after.events.Sublist (before.events ++ [event])

theorem pushEvent_noted (session : Session) (event : SessionEvent)
    : Noted session (session.pushEvent event) event := by
  unfold pushEvent
  split
  · exact ⟨rfl, rfl, rfl, List.sublist_append_left _ _⟩
  · split
    · exact ⟨rfl, rfl, rfl, (List.drop_sublist _ _).append (.refl _)⟩
    · exact ⟨rfl, rfl, rfl, .refl _⟩

/-- The event of a notification is no reply. -/
theorem handleNotification_noted (session : Session) (notification : Notification)
    : ∃ event,
        event.replyHandle? = none
        ∧ Noted session (session.handleNotification notification) event := by
  cases notification with
  | diagnostics publication =>
      refine ⟨.diagnostics publication, rfl, ?_⟩
      rw [handleNotification]
      split
      · obtain ⟨active, written, pending, events⟩ :=
          pushEvent_noted { session with diagnostics := publication.diagnostics }
            (.diagnostics publication)
        exact ⟨active, written, pending, events⟩
      · exact ⟨rfl, rfl, rfl, List.sublist_append_left _ _⟩
  | shown notice => exact ⟨.shown notice, rfl, session.pushEvent_noted _⟩
  | logged notice => exact ⟨.logged notice, rfl, session.pushEvent_noted _⟩

/-- A reply lets at most one event wait, which is its own. Beside that it is handled quietly. -/
theorem handleReply_noted (session : Session) (handle : RequestHandle) (reply : Reply)
    : ∃ before after,
        Quiet session before
        ∧ (after = before ∨ Noted before after (reply.event handle))
        ∧ Quiet after (session.handleReply handle reply).2 := by
  cases reply with
  | shutdown =>
      exact ⟨session, _, .refl session, Or.inr (session.pushEvent_noted _),
        notify_quiet _ _ _⟩
  | completion _ | formatting _ | definition _ | references _ | other _ | error _ =>
      exact ⟨session, _, .refl session, Or.inr (session.pushEvent_noted _), .refl _⟩
  | handshake info =>
      have ready : Quiet session { session with initialized := true, serverInfo := some info } :=
        Quiet.of_eq rfl rfl rfl rfl rfl rfl
      have greeted := ready.trans (notify_quiet _ "initialized" (.ofFields []))
      unfold handleReply finishHandshake
      dsimp only
      split
      · rename_i failed outcome
        rw [outcome] at greeted
        exact ⟨failed, failed, greeted, Or.inl rfl, .refl _⟩
      · rename_i told outcome
        rw [outcome] at greeted
        have flushed := greeted.trans told.flushDocuments_quiet
        split
        · rename_i failed outcome'
          rw [outcome'] at flushed
          exact ⟨failed, failed, flushed, Or.inl rfl, .refl _⟩
        · rename_i opened outcome'
          rw [outcome'] at flushed
          exact ⟨opened, _, flushed, Or.inr (opened.pushEvent_noted _), .refl _⟩

/-- A response to a formatting request, and no other one, is read as edits. -/
theorem replyOf_formatting {method : Method} {response : Response} {reply : Reply}
    (decoded : replyOf method response = .ok reply)
    : if method = .formatting then
        (∃ edits, reply = .formatting edits) ∨ ∃ reason, reply = .error reason
      else
        ∀ edits, reply ≠ .formatting edits := by
  rcases replyOf_cases decoded with ⟨reason, _, rfl⟩ | ⟨_, kind⟩
  · split
    · exact Or.inr ⟨reason, rfl⟩
    · exact fun _ => nofun
  · cases kind with
    | formatting edits => exact Or.inl ⟨edits, rfl⟩
    | handshake _ | completion _ | definition _ | references _ | shutdown | other _ _ =>
        exact fun _ => nofun

/-- No formatting is awaited, and no edits wait for the editor. -/
structure Unformatted (session : Session) : Prop where
  awaited : ∀ pending, ¬session.AwaitsFormatting pending
  events : ∀ event ∈ session.events, event.formats = false

namespace Unformatted

variable {session : Session}

/-- An event without edits may wait, too. -/
theorem noted (unformatted : session.Unformatted) {after : Session} {event : SessionEvent}
    (noted : Noted session after event) (plain : event.formats = false)
    : after.Unformatted where
  awaited := by
    rintro pending ⟨slot, formatting⟩
    exact unformatted.awaited pending ⟨noted.pending.symm.trans slot, formatting⟩
  events := by
    intro other waits
    rcases List.mem_append.mp (noted.events.subset waits) with earlier | new
    · exact unformatted.events other earlier
    · rw [List.mem_singleton.mp new]
      exact plain

/-- Operations that queue no event bring no edits. -/
theorem quiet (unformatted : session.Unformatted) {after : Session}
    (quiet : Quiet session after)
    : after.Unformatted where
  awaited := by
    rintro pending ⟨slot, formatting⟩
    rcases quiet.slot with givenUp | ⟨kept, _⟩
    · exact absurd (slot.symm.trans givenUp) nofun
    · exact unformatted.awaited pending ⟨kept.symm.trans slot, formatting⟩
  events := fun event waits => unformatted.events event (quiet.events.subset waits)

theorem handleReply (unformatted : session.Unformatted) (handle : RequestHandle)
    {reply : Reply} (other : ∀ edits, reply ≠ .formatting edits)
    : (session.handleReply handle reply).2.Unformatted := by
  have plain : (reply.event handle).formats = false := by
    cases reply with
    | formatting edits => exact absurd rfl (other edits)
    | handshake _ | shutdown | completion _ | definition _ | references _ | other _ | error _ =>
        rfl
  obtain ⟨before, after, earlier, queued, later⟩ := session.handleReply_noted handle reply
  refine Unformatted.quiet ?_ later
  rcases queued with rfl | noted
  · exact unformatted.quiet earlier
  · exact (unformatted.quiet earlier).noted noted plain

/-- No message brings edits that nobody has asked for. -/
theorem handleMessage (unformatted : session.Unformatted) (message : Value)
    : (session.handleMessage message).2.Unformatted := by
  rcases session.handleMessage_cases message with
    same | ⟨request, same⟩ | ⟨notification, same⟩ | ⟨pending, response, slot, _, outcome⟩
  · rw [same]
    exact unformatted
  · rw [same]
    exact unformatted.quiet (session.send_quiet (requestHead?_answer request))
  · rw [same]
    obtain ⟨event, other, noted⟩ := session.handleNotification_noted notification
    exact unformatted.noted noted (SessionEvent.formats_of_notice other)
  · have asked : pending.method ≠ .formatting :=
      fun formatting => unformatted.awaited pending ⟨slot, formatting⟩
    have answered
        : Unformatted { session with pending := pending.afterResponse response.id } := by
      refine ⟨?_, unformatted.events⟩
      rintro next ⟨kept, formatting⟩
      dsimp only [PendingRequest.afterResponse] at kept
      split at kept
      · obtain rfl := Option.some.inj kept
        exact asked formatting
      · cases kept
    rcases outcome with same | ⟨reply, decoded, same⟩
    · rw [same]
      exact answered
    · rw [same]
      have other := replyOf_formatting decoded
      rw [if_neg asked] at other
      exact answered.handleReply _ other

/-- Bytes bring no edits that nobody has asked for, since no message of them does. -/
theorem receive (unformatted : session.Unformatted) (chunk : List UInt8)
    : (session.receive chunk).Unformatted := by
  have framed : Unformatted { session with framer := (session.framer.feed chunk).2 } :=
    unformatted.quiet (Quiet.of_eq rfl rfl rfl rfl rfl rfl)
  exact receive_keeps framed fun _ message unformatted => unformatted.handleMessage message

end Unformatted

/-- While a formatting is awaited no text is told, and until it is answered no reply waits. -/
structure Answering (start : Session) (pending : PendingRequest) (session : Session) : Prop
    where
  active : session.active = start.active
  told : ∀ uri, lastTold? uri session.written = lastTold? uri start.written
  awaited
    : ∀ other,
        session.pending = some other
        → other = pending ∧ session.events.filterMap SessionEvent.replyHandle? = []
  replies
    : (session.events.filterMap SessionEvent.replyHandle?).Sublist
        [{ id := pending.id, method := .formatting }]

namespace Answering

variable {start : Session} {pending : PendingRequest} {session : Session}

/-- An event that is no reply may wait at any time. -/
theorem noted (answering : Answering start pending session) {after : Session}
    {event : SessionEvent} (noted : Noted session after event)
    (other : event.replyHandle? = none)
    : Answering start pending after := by
  have replies := noted.events.filterMap SessionEvent.replyHandle?
  rw [List.filterMap_append, List.filterMap_cons_none other, List.filterMap_nil,
    List.append_nil] at replies
  refine ⟨noted.active.trans answering.active, ?_, ?_, replies.trans answering.replies⟩
  · intro uri
    rw [noted.written, answering.told]
  · intro next slot
    obtain ⟨same, none⟩ := answering.awaited next (noted.pending.symm.trans slot)
    rw [none] at replies
    exact ⟨same, List.sublist_nil.mp replies⟩

/-- The one reply waits once nothing is awaited any more. -/
theorem answered (answering : Answering start pending session) {after : Session} {reply : Reply}
    (slot : session.pending = some pending)
    (noted
      : Noted { session with pending := none } after
          (.reply { id := pending.id, method := .formatting } reply))
    : Answering start pending after := by
  have replies := noted.events.filterMap SessionEvent.replyHandle?
  rw [List.filterMap_append, (answering.awaited pending slot).2, List.nil_append] at replies
  refine ⟨noted.active.trans answering.active, ?_, ?_, replies⟩
  · intro uri
    rw [noted.written, answering.told]
  · intro next kept
    exact absurd (noted.pending.symm.trans kept) nofun

theorem answer (answering : Answering start pending session) (request : ServerRequest)
    : Answering start pending (session.send request.answer).2 := by
  rcases session.send_cases request.answer with
    ⟨_, outcome⟩ | ⟨_, reason, outcome⟩ | ⟨_, transport, outcome⟩
  · rw [outcome]
    exact answering
  · rw [outcome]
    exact ⟨answering.active, answering.told, fun _ => nofun, answering.replies⟩
  · rw [outcome]
    refine ⟨answering.active, ?_, answering.awaited, answering.replies⟩
    intro uri
    dsimp only [delivered]
    rw [lastTold?_concat_of_none (toldText?_answer uri request), answering.told]

/-- A message may answer the formatting, and no message tells a text. -/
theorem handleMessage (formatting : pending.method = .formatting)
    (alone : pending.retain = false) (answering : Answering start pending session)
    (message : Value)
    : Answering start pending (session.handleMessage message).2 := by
  rcases session.handleMessage_cases message with
    same | ⟨request, same⟩ | ⟨notification, same⟩ | ⟨other, response, slot, awaits, outcome⟩
  · rw [same]
    exact answering
  · rw [same]
    exact answering.answer request
  · rw [same]
    obtain ⟨event, other, noted⟩ := session.handleNotification_noted notification
    exact answering.noted noted other
  · obtain ⟨rfl, _⟩ := answering.awaited other slot
    have id : response.id = other.id := by simpa [PendingRequest.awaits, alone] using awaits
    have after : other.afterResponse response.id = none := by
      simp [PendingRequest.afterResponse, alone]
    rw [after, formatting, id] at outcome
    rcases outcome with same | ⟨reply, decoded, same⟩
    · rw [same]
      refine ⟨answering.active, answering.told, ?_, answering.replies⟩
      intro next kept
      cases kept
    · rw [same]
      have kind := replyOf_formatting decoded
      rw [if_pos rfl] at kind
      rcases kind with ⟨edits, rfl⟩ | ⟨reason, rfl⟩
      · exact answering.answered slot (pushEvent_noted _ _)
      · exact answering.answered slot (pushEvent_noted _ _)

/-- Bytes may answer the formatting once, since every message of them keeps to that. -/
theorem receive (awaits : session.AwaitsFormatting pending) (alone : pending.retain = false)
    (nothing : session.events = []) (chunk : List UInt8)
    : Answering session pending (session.receive chunk) := by
  have framed
      : Answering session pending { session with framer := (session.framer.feed chunk).2 } := by
    refine ⟨rfl, fun _ => rfl, ?_, ?_⟩
    · intro other slot
      refine ⟨Option.some.inj (slot.symm.trans awaits.1), ?_⟩
      rw [nothing]
      rfl
    · rw [nothing]
      exact List.nil_sublist _
  exact receive_keeps framed fun _ message answering =>
    answering.handleMessage awaits.2 alone message

/-- When a reply waits, it is the one that is awaited, and everything else is a notice. -/
theorem only_reply (answering : Answering start pending session)
    {front back : List SessionEvent} {handle : RequestHandle} {reply : Reply}
    (split : session.events = front ++ .reply handle reply :: back)
    : handle = { id := pending.id, method := .formatting }
      ∧ (∀ event ∈ front, event.replyHandle? = none)
      ∧ ∀ event ∈ back, event.replyHandle? = none := by
  have named : (SessionEvent.reply handle reply).replyHandle? = some handle := rfl
  have replies := answering.replies
  rw [split, List.filterMap_append, List.filterMap_cons_some named] at replies
  have short := replies.length_le
  simp only [List.length_append, List.length_cons, List.length_nil] at short
  have frontNone := List.eq_nil_of_length_eq_zero
    (show (front.filterMap SessionEvent.replyHandle?).length = 0 by omega)
  have backNone := List.eq_nil_of_length_eq_zero
    (show (back.filterMap SessionEvent.replyHandle?).length = 0 by omega)
  rw [frontNone, backNone, List.nil_append] at replies
  exact ⟨List.mem_singleton.mp (replies.subset List.mem_cons_self),
    List.filterMap_eq_nil_iff.mp frontNone, List.filterMap_eq_nil_iff.mp backNone⟩

end Answering

end Session

end LanguageClient
