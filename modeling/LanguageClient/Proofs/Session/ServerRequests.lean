import LanguageClient.Proofs.Json.Readable
import LanguageClient.Proofs.Session.Dropped
import LanguageClient.Proofs.Session.Greeting

/-! Every request of a server is answered once, and the answers go out in the order of the
requests, whatever else arrives or is sent. Nothing else goes out without a method.
-/

namespace LanguageClient

open Json (Value)

-----------------------------------------------------------------------------------------
-- Requests and their answers
-----------------------------------------------------------------------------------------

namespace ServerRequest

/-- The request that a message is: it names a method and has an id. -/
def ofMessage? (message : Value) : Option ServerRequest :=
  (message.getText? "method").bind fun method =>
    (message.get? "id").map fun id => { id, method, params := Incoming.paramsOf message }

/-- Null in place of whatever a request asks for. Every setting that is asked for has a null of
its own.
-/
def nothing (request : ServerRequest) : Value :=
  if request.method = "workspace/configuration" then
    match request.params.get? "items" with
    | some (.array items) => .array (List.replicate items.length .null)
    | _ => .array []
  else
    .null

/-- A message is read as an answer to a request: as a value, and from its frame. A frame can
only count so many bytes.
-/
def AnsweredBy (request : ServerRequest) (message : Value) : Prop :=
  ∃ read,
    Value.readBytes (Text.Utf8.encode message.print) = .ok read
    ∧ read.get? "method" = none
    ∧ (∃ id, read.get? "id" = some id ∧ id.equals request.id = true)
    ∧ read.get? "result" = some request.nothing
    ∧ ((Text.Utf8.encode message.print).length ≤ Frame.lengthLimit
      → ({} : Framer).feed (Frame.ofMessage message) = ([read], {}))

theorem result_eq_nothing (request : ServerRequest) : request.result = request.nothing := by
  unfold result nothing
  split
  · cases request.params.get? "items" with
    | none => rfl
    | some items =>
        cases items with
        | array items => exact congrArg Value.array List.map_const'
        | null | boolean _ | number _ | text _ | object _ => rfl
  · rfl

theorem readBack_result (request : ServerRequest) : request.result.readBack = request.result := by
  unfold result
  split
  · rw [Value.readBack, Value.mapNumbers, Value.mapItems_eq, List.map_map]
    rfl
  · rfl

theorem result_readable (request : ServerRequest) (levels : Nat)
    : request.result.Readable (levels + 1) := by
  unfold result
  split
  · refine .array fun item listed => ?_
    obtain ⟨_, _, rfl⟩ := List.mem_map.mp listed
    exact .null levels
  · exact .null _

/-- The answer to a request is nested no deeper than the request itself. -/
theorem answer_readable {request : ServerRequest} {levels : Nat}
    (readable : request.id.Readable (levels + 1))
    : request.answer.Readable (levels + 2) := by
  refine .ofFields ?_
  simp only [List.forall_mem_cons]
  exact ⟨.text _ _, readable, request.result_readable levels, nofun⟩

/-- The id of a request that has been read is inside the object of its message. -/
theorem id_readable {message : Value} {request : ServerRequest} {levels : Nat}
    (readable : message.Readable (levels + 1)) (asks : ofMessage? message = some request)
    : request.id.Readable levels := by
  obtain ⟨method, _, given⟩ := Option.bind_eq_some_iff.mp asks
  obtain ⟨id, identified, rfl⟩ := Option.map_eq_some_iff.mp given
  exact readable.field identified

/-- A request that has been read is answered by its answer. -/
theorem answeredBy_answer {request : ServerRequest} (readable : request.id.Readable 511)
    : request.AnsweredBy request.answer := by
  have read := (answer_readable readable).readBytes_print
  refine ⟨_, read, ?_, ⟨request.id.readBack, ?_, readable.readBack_equals⟩, ?_, fun counted => ?_⟩
  · simp [Value.get?_readBack, answer, Value.get?_ofFields, Keyed.get?]
  · simp [Value.get?_readBack, answer, Value.get?_ofFields, Keyed.get?]
  · rw [Value.get?_readBack, ← result_eq_nothing]
    simp [answer, Value.get?_ofFields, Keyed.get?, readBack_result]
  · have fed := Framer.feed_frame counted []
    rw [List.append_nil, read] at fed
    exact fed

end ServerRequest

/-- The messages that are understood as requests are those that name a method and have an id. -/
theorem Incoming.ofValue_eq_request_iff (message : Value) (request : ServerRequest)
    : Incoming.ofValue message = .ok (.request request)
      ↔ ServerRequest.ofMessage? message = some request := by
  have unanswered (incoming : Incoming) (read : ofAnswer message = .ok incoming)
      : incoming ≠ .request request := by
    obtain ⟨_, _, read⟩ := Json.exists_of_bind_ok read
    obtain ⟨_, _, read⟩ := Json.exists_of_bind_ok read
    obtain ⟨_, _, read⟩ := Json.exists_of_bind_ok read
    obtain ⟨_, _, read⟩ := Json.exists_of_bind_ok read
    obtain ⟨_, _, read⟩ := Json.exists_of_bind_ok read
    obtain rfl := Except.ok.inj read
    nofun
  unfold ServerRequest.ofMessage? Value.getText?
  cases message with
  | object fields =>
      have listed : (Value.object fields).expectObject = .ok fields := rfl
      unfold Incoming.ofValue
      rw [listed]
      dsimp only [bind, Except.bind]
      cases named : (Value.object fields).get? "method" with
      | none => exact ⟨fun read => absurd rfl (unanswered _ read), nofun⟩
      | some method =>
          cases method with
          | text name =>
              have text : (Value.text name).expectText = .ok name := rfl
              dsimp only [ofCall, Option.bind_some, Value.asText?]
              rw [text]
              dsimp only [bind, Except.bind, pure, Except.pure]
              cases (Value.object fields).get? "id" with
              | none => exact ⟨nofun, nofun⟩
              | some id =>
                  simp only [Option.map_some, Except.ok.injEq, Incoming.request.injEq,
                    Option.some.injEq]
          | null | boolean _ | number _ | array _ | object _ => exact ⟨nofun, nofun⟩
  | null | boolean _ | number _ | text _ | array _ => exact ⟨nofun, nofun⟩

/-- A message that is not understood as a request asks for no answer. -/
theorem ServerRequest.ofMessage?_eq_none {message : Value}
    (other : ∀ request, Incoming.ofValue message ≠ .ok (.request request))
    : ofMessage? message = none :=
  Option.eq_none_iff_forall_ne_some.mpr fun request asks =>
    other request ((Incoming.ofValue_eq_request_iff message request).mpr asks)

-----------------------------------------------------------------------------------------
-- What goes out
-----------------------------------------------------------------------------------------

namespace Session

/-- What went out between two states answers some requests, in their order, and is otherwise of
the client's own accord. Nothing is said about a connection that has ended.
-/
structure Responds (requests : List ServerRequest) (before after : Session) : Prop where
  endless : before.Endless → after.Endless
  sent
    : after.isRunning = true
      → before.isRunning = true
        ∧ ∃ sent,
            after.written = before.written ++ sent
            ∧ sent.filter (!isOriginated ·) = requests.map (·.answer)

namespace Responds

/-- Changes of anything but the connection. -/
theorem of_eq {before after : Session} (transport : after.transport = before.transport)
    (written : after.written = before.written)
    : Responds [] before after where
  endless := fun ⟨failure, attached⟩ => ⟨failure, transport.trans attached⟩
  sent := by
    rw [isRunning, transport]
    exact fun running => ⟨running, [], by rw [written, List.append_nil], rfl⟩

theorem refl (session : Session) : Responds [] session session :=
  of_eq rfl rfl

theorem append {requests others : List ServerRequest} {first second third : Session}
    (earlier : Responds requests first second) (later : Responds others second third)
    : Responds (requests ++ others) first third where
  endless := fun endless => later.endless (earlier.endless endless)
  sent := by
    intro running
    obtain ⟨running, more, frames', answers'⟩ := later.sent running
    obtain ⟨running, sent, frames, answers⟩ := earlier.sent running
    refine ⟨running, sent ++ more, ?_, ?_⟩
    · rw [frames', frames, List.append_assoc]
    · rw [List.filter_append, answers, answers', List.map_append]

/-- Nothing is answered in two steps that answer nothing. -/
theorem trans {first second third : Session} (earlier : Responds [] first second)
    (later : Responds [] second third)
    : Responds [] first third :=
  earlier.append later

end Responds

/-- A message goes out, or the connection ends. -/
theorem send_responds (session : Session) {message : Value} {requests : List ServerRequest}
    (answers : [message].filter (!isOriginated ·) = requests.map (·.answer))
    : Responds requests session (session.send message).2 where
  endless := by
    intro endless
    rw [send_endless endless]
    exact endless.wrote _
  sent := by
    rcases session.send_cases message with
      ⟨stopped, outcome⟩ | ⟨_, reason, outcome⟩ | ⟨running, transport, outcome⟩
    · rw [outcome]
      exact fun running => absurd (running.symm.trans stopped) (by decide)
    · rw [outcome]
      exact nofun
    · rw [outcome]
      exact fun _ => ⟨running, [message], rfl, answers⟩

theorem notify_responds (session : Session) (method : String) (params : Value)
    : Responds [] session (session.notify method params).2 :=
  session.send_responds (by simp)

theorem request_responds (session : Session) (method : Method) (params : Value)
    : Responds [] session (session.request method params).2 := by
  have asking : Responds [] session (session.asking method) := .of_eq rfl rfl
  have sent
      : Responds [] (session.asking method)
          ((session.asking method).send (requestMessage session.nextId method params)).2 :=
    send_responds _ (by simp)
  have asked := asking.trans sent
  unfold request
  split
  · dsimp only
    split
    · rename_i sent
      exact (congrArg (·.2) sent) ▸ asked
    · rename_i sent
      exact (congrArg (·.2) sent) ▸ asked
  · exact .refl session

-----------------------------------------------------------------------------------------
-- Documents
-----------------------------------------------------------------------------------------

theorem setActive_responds (session : Session) (uri : String)
    : Responds [] session (session.setActive uri) := by
  unfold setActive
  split
  · exact .refl session
  · exact .of_eq rfl rfl

theorem setDocument_responds (session : Session) (uri : String) (document : OpenDocument)
    : Responds [] session (session.setDocument uri document) :=
  .of_eq rfl rfl

theorem changeDocument_responds (session : Session) (text : String)
    : Responds [] session (session.changeDocument text).2 := by
  unfold changeDocument
  split
  · exact .refl session
  · split
    · exact .refl session
    · split
      · exact session.setDocument_responds _ _
      · exact (session.setDocument_responds _ _).trans (notify_responds _ _ _)

theorem openDocument_responds (session : Session) (uri language text : String)
    : Responds [] session (session.openDocument uri language text).2 := by
  unfold openDocument
  split
  · exact .refl session
  · have activated := session.setActive_responds uri
    dsimp only
    split
    · exact activated.trans (changeDocument_responds _ text)
    · split
      · exact (activated.trans (setDocument_responds _ _ _)).trans (notify_responds _ _ _)
      · exact activated.trans (setDocument_responds _ _ _)

theorem saveDocument_responds (session : Session) (text : Option String)
    : Responds [] session (session.saveDocument text).2 := by
  unfold saveDocument
  split
  · exact .refl session
  · split
    · exact .refl session
    · exact session.notify_responds _ _

theorem closeDocument_responds (session : Session)
    : Responds [] session session.closeDocument.2 := by
  unfold closeDocument
  split
  · exact .refl session
  · rename_i uri _
    have closed
        : Responds [] session
            { session with
              active := none
              diagnostics := []
              documents := session.documents.erase uri } :=
      .of_eq rfl rfl
    dsimp only
    split
    · exact closed
    · split
      · exact closed
      · exact closed.trans (notify_responds _ _ _)

/-- Documents are told about one after another, by induction on them. -/
theorem sendOpens_responds (session : Session)
    (entries : List (String × OpenDocument × String))
    : Responds [] session (session.sendOpens entries).2 := by
  induction entries generalizing session with
  | nil => exact .refl session
  | cons first rest ih =>
      obtain ⟨uri, document, text⟩ := first
      have told : Responds [] session (session.sendOpen uri document text).2 :=
        session.notify_responds _ _
      unfold sendOpens
      split
      · rename_i sent
        rw [sent] at told
        exact told.trans (ih _)
      · rename_i failed
        rwa [failed] at told

-----------------------------------------------------------------------------------------
-- Messages
-----------------------------------------------------------------------------------------

theorem pushEvent_responds (session : Session) (event : SessionEvent)
    : Responds [] session (session.pushEvent event) := by
  unfold pushEvent
  split
  · exact .refl session
  · split <;> exact .of_eq rfl rfl

theorem finishHandshake_responds (session : Session) (info : ServerInfo)
    : Responds [] session (session.finishHandshake info).2 := by
  have ready
      : Responds [] session { session with initialized := true, serverInfo := some info } :=
    .of_eq rfl rfl
  have greeted := ready.trans (notify_responds _ "initialized" (.ofFields []))
  unfold finishHandshake
  dsimp only
  split
  · rename_i failed
    rwa [failed] at greeted
  · rename_i told greeting
    rw [greeting] at greeted
    have marked
        : Responds [] told { told with documents := markOpened told.documents } :=
      .of_eq rfl rfl
    have flushed := greeted.trans (marked.trans (sendOpens_responds _ (unopened told.documents)))
    have flushing : told.flushDocuments = sendOpens _ (unopened told.documents) := rfl
    rw [← flushing] at flushed
    split
    · rename_i failed
      rwa [failed] at flushed
    · rename_i opened
      rw [opened] at flushed
      exact flushed.trans (pushEvent_responds _ _)

theorem handleReply_responds (session : Session) (handle : RequestHandle) (reply : Reply)
    : Responds [] session (session.handleReply handle reply).2 := by
  cases reply with
  | handshake info => exact session.finishHandshake_responds info
  | shutdown => exact (session.pushEvent_responds _).trans (notify_responds _ _ _)
  | completion _ | formatting _ | definition _ | references _ | other _ | error _ =>
      exact session.pushEvent_responds _

theorem handleResponse_responds (session : Session) (response : Response)
    : Responds [] session (session.handleResponse response).2 := by
  unfold handleResponse
  split
  · exact .refl session
  · split
    · have answered (pending : Option PendingRequest)
          : Responds [] session { session with pending } :=
        .of_eq rfl rfl
      dsimp only
      split
      · exact answered _
      · exact (answered _).trans (handleReply_responds _ _ _)
    · exact .refl session

theorem handleNotification_responds (session : Session) (notification : Notification)
    : Responds [] session (session.handleNotification notification) := by
  cases notification with
  | shown notice => exact session.pushEvent_responds _
  | logged notice => exact session.pushEvent_responds _
  | diagnostics publication =>
      have told
          : Responds [] session { session with diagnostics := publication.diagnostics } :=
        .of_eq rfl rfl
      rw [handleNotification]
      split
      · exact told.trans (pushEvent_responds _ _)
      · exact .refl session

/-- A message is answered if it is a request. -/
theorem handleMessage_responds (session : Session) (message : Value)
    : Responds (ServerRequest.ofMessage? message).toList session
        (session.handleMessage message).2 := by
  unfold handleMessage
  cases read : Incoming.ofValue message with
  | error error =>
      rw [ServerRequest.ofMessage?_eq_none fun request => by rw [read]; nofun]
      exact .refl session
  | ok incoming =>
      cases incoming with
      | request request =>
          rw [(Incoming.ofValue_eq_request_iff message request).mp read]
          exact session.send_responds (by simp)
      | response response =>
          rw [ServerRequest.ofMessage?_eq_none fun request => by rw [read]; nofun]
          exact session.handleResponse_responds response
      | notification method params =>
          rw [ServerRequest.ofMessage?_eq_none fun request => by rw [read]; nofun]
          unfold handleIncoming
          dsimp only
          split
          · exact .refl session
          · exact .refl session
          · exact session.handleNotification_responds _

/-- Requests are answered in the order of the messages, by induction on them. -/
theorem handleMessages_responds (session : Session) (messages : List Value)
    : Responds (messages.filterMap ServerRequest.ofMessage?) session
        (session.handleMessages messages) := by
  induction messages generalizing session with
  | nil => exact .refl session
  | cons message rest ih =>
      have first := session.handleMessage_responds message
      have later := ih (session.handleMessage message).2
      have requests
          : (message :: rest).filterMap ServerRequest.ofMessage?
            = (ServerRequest.ofMessage? message).toList
              ++ rest.filterMap ServerRequest.ofMessage? := by
        rw [List.filterMap_cons]
        cases ServerRequest.ofMessage? message <;> rfl
      rw [requests]
      exact first.append later

/-- The requests in a chunk are answered. -/
theorem receive_responds (session : Session) (chunk : List UInt8)
    : Responds ((session.framer.feed chunk).1.filterMap ServerRequest.ofMessage?) session
        (session.receive chunk) := by
  have handled :=
    handleMessages_responds { session with framer := (session.framer.feed chunk).2 }
      (session.framer.feed chunk).1
  exact ⟨handled.endless, handled.sent⟩

end Session

-----------------------------------------------------------------------------------------
-- Runs
-----------------------------------------------------------------------------------------

open Session

namespace SessionCall

/-- The bytes that arrive with a call. -/
def arrival : SessionCall → List UInt8
  | act (.receive chunk) => chunk
  | _ => []

/-- A call that brings no bytes answers nothing. -/
theorem run_responds_of_silent (session : Session) {call : SessionCall}
    (silent : ∀ chunk, call ≠ .act (.receive chunk))
    : Responds [] session (call.run session).2 := by
  cases named : call.method? with
  | some method =>
      rcases run_of_method session named with refused | ⟨params, ran⟩
      · rw [refused]
        exact .refl session
      · rw [ran]
        exact session.request_responds method params
  | none =>
      cases call with
      | request method params => cases named
      | notify method params => exact session.notify_responds method params
      | act action =>
          cases action with
          | openDocument uri language text =>
              exact session.openDocument_responds uri language text
          | changeDocument text => exact session.changeDocument_responds text
          | saveDocument text => exact session.saveDocument_responds text
          | closeDocument => exact session.closeDocument_responds
          | releasePending =>
              dsimp only [run, SessionAction.run, releasePending]
              split
              · exact .of_eq rfl rfl
              · exact .refl session
          | drainEvents => exact .of_eq rfl rfl
          | receive chunk => exact absurd rfl (silent chunk)
          | requestHandshake _ | requestShutdown | requestCompletion _ | requestFormatting _ _
          | requestDefinition _ | requestReferences _ _ => cases named

/-- A call answers the requests that its bytes complete, and leaves the framer with the rest of
them.
-/
theorem run_responds {session : Session} (settled : session.framer.Settled)
    (call : SessionCall)
    : Responds ((session.framer.feed call.arrival).1.filterMap ServerRequest.ofMessage?) session
        (call.run session).2
      ∧ (call.run session).2.framer = (session.framer.feed call.arrival).2 := by
  by_cases arrives : ∃ chunk, call = .act (.receive chunk)
  · obtain ⟨chunk, rfl⟩ := arrives
    refine ⟨session.receive_responds chunk, ?_⟩
    exact congrArg framer (session.receive_eq chunk)
  · have silent (chunk : List UInt8) : call ≠ .act (.receive chunk) :=
      fun same => arrives ⟨chunk, same⟩
    have nothing : call.arrival = [] := by
      unfold arrival
      split
      · rename_i chunk
        exact absurd rfl (silent chunk)
      · rfl
    rw [nothing, settled.feed_nil]
    exact ⟨run_responds_of_silent session silent, run_framer session silent⟩

/-- Calls answer the requests in the bytes that arrive with them, wherever these are cut, by
induction on the calls.
-/
theorem runAll_responds {session : Session} (settled : session.framer.Settled)
    (calls : List SessionCall)
    : Responds
        ((session.framer.feed (calls.flatMap arrival)).1.filterMap ServerRequest.ofMessage?)
        session (calls.foldl (fun state call => (call.run state).2) session) := by
  induction calls generalizing session with
  | nil =>
      rw [List.flatMap_nil, settled.feed_nil]
      exact .refl session
  | cons call rest ih =>
      obtain ⟨first, framer⟩ := run_responds settled call
      have settled' : (call.run session).2.framer.Settled := by
        rw [framer]
        exact session.framer.feed_settled _
      have later := ih settled'
      rw [framer] at later
      rw [List.flatMap_cons, Framer.feed_append, List.filterMap_append, List.foldl_cons]
      exact first.append later

end SessionCall

/-- A request is answered at once, and nothing else changes. -/
theorem Session.handleMessage_request {session : Session} {message : Value}
    {request : ServerRequest} (asks : ServerRequest.ofMessage? message = some request)
    (running : (session.handleMessage message).2.isRunning = true)
    : ∃ attached,
        session.handleMessage message = (.ok (), session.delivered attached request.answer)
        ∧ (session.Endless → session.transport = some attached) := by
  have sent : session.handleMessage message = session.send request.answer := by
    rw [handleMessage, (Incoming.ofValue_eq_request_iff message request).mpr asks]
    rfl
  rw [sent] at running ⊢
  rcases session.send_cases request.answer with
    ⟨stopped, outcome⟩ | ⟨_, reason, outcome⟩ | ⟨_, transport, outcome⟩
  · rw [outcome] at running
    exact absurd (running.symm.trans stopped) (by decide)
  · rw [outcome] at running
    cases running
  · refine ⟨transport, outcome, fun endless => ?_⟩
    have kept := outcome.symm.trans (send_endless endless request.answer)
    exact (congrArg (fun outcome : Session.Outcome Unit => outcome.2.transport) kept).symm

/-- Along any run of a session that stays attached to its server, the messages that go out without
a method answer the requests in the stream of the server: as many, in the same order, each
with the id of its request and with nulls for a result. A run on a transport that does not
break stays attached. Answering a request changes nothing but what has gone out.
-/
theorem Session.requests_answered (earlier : Session) (transport : Transport)
    (calls : List SessionCall)
    : let session := (Exchange.after (earlier.start transport) calls).session
      let received := (({} : Framer).feed (calls.flatMap SessionCall.arrival)).1
      (transport.remaining = none → session.isRunning = true)
      ∧ (session.isRunning = true
        → ∃ sent,
            session.written = earlier.written ++ sent
            ∧ List.Forall₂ ServerRequest.AnsweredBy
                (received.filterMap ServerRequest.ofMessage?)
                (sent.filter (!isOriginated ·)))
      ∧ ∀ (state : Session) (message : Value) (request : ServerRequest),
          ServerRequest.ofMessage? message = some request
          → (state.handleMessage message).2.isRunning = true
          → ∃ attached,
              state.handleMessage message = (.ok (), state.delivered attached request.answer)
              ∧ (state.Endless → state.transport = some attached) := by
  intro session received
  have responds
      : Responds (received.filterMap ServerRequest.ofMessage?) (earlier.start transport) session := by
    have waits : (earlier.start transport).framer.Settled := rfl
    have run := SessionCall.runAll_responds waits calls
    rwa [← Exchange.after_session] at run
  refine ⟨fun lasting => ?_, fun running => ?_, fun state message request asks running =>
    handleMessage_request asks running⟩
  · obtain ⟨failure, attached⟩ := responds.endless ⟨transport.failure, by rw [← lasting]; rfl⟩
    rw [isRunning, attached]
    rfl
  · obtain ⟨_, sent, frames, answers⟩ := responds.sent running
    refine ⟨sent, frames, ?_⟩
    rw [answers, List.forall₂_map_right_iff, List.forall₂_same]
    intro request listed
    obtain ⟨message, arrived, asks⟩ := List.mem_filterMap.mp listed
    have readable := Framer.feed_readable {} _ message arrived
    exact ServerRequest.answeredBy_answer
      (ServerRequest.id_readable (show message.Readable (511 + 1) from readable) asks)

/-- A server asks for two settings. -/
def settingsQuestion : Value :=
  .object
    [
      ("id", .text "settings"),
      ("method", .text "workspace/configuration"),
      ("params", .object [("items", .array [.null, .null])])
    ]

/-- Bytes that arrive in two chunks, with a request of the client between them. -/
def cutByRequest (bytes : List UInt8) : List SessionCall :=
  [
    .act (.receive (bytes.take 9)),
    .request .completion .null,
    .act (.receive (bytes.drop 9))
  ]

theorem arrival_cutByRequest (bytes : List UInt8)
    : (cutByRequest bytes).flatMap SessionCall.arrival = bytes := by
  simp [cutByRequest, SessionCall.arrival]

/-- A session that is asked for settings in a frame that arrives in two chunks. -/
def askedForSettings : Session :=
  (Exchange.after (({} : Session).start {})
    (cutByRequest (Frame.ofMessage settingsQuestion))).session

theorem settingsQuestion_readable : settingsQuestion.Readable (509 + 1 + 1 + 1) := by
  refine .object (by unfold Keyed.Sorted; decide) ?_
  simp only [List.forall_mem_cons]
  refine ⟨.text _ _, .text _ _, .object (by unfold Keyed.Sorted; decide) ?_, nofun⟩
  simp only [List.forall_mem_cons]
  exact ⟨.array (by simp [Value.Readable.null]), nofun⟩

theorem feed_settingsQuestion
    : ({} : Framer).feed (Frame.ofMessage settingsQuestion) = ([settingsQuestion], {}) := by
  have counted : (Text.Utf8.encode settingsQuestion.print).length ≤ Frame.lengthLimit := by
    rw [Text.Utf8.length_encode, Value.print, String.toList_ofList]
    decide +kernel
  have fed := Framer.feed_frame counted []
  rw [List.append_nil, Value.Readable.readBytes_print settingsQuestion_readable] at fed
  exact fed

/-- The question is answered by one message, which has null twice for a result. -/
theorem Session.requests_answered_of_settings
    : askedForSettings.isRunning = true
      ∧ ∃ request : ServerRequest,
          ServerRequest.ofMessage? settingsQuestion = some request
          ∧ request.nothing.equals (.array [.null, .null]) = true
          ∧ ∃ sent,
              askedForSettings.written = ({} : Session).written ++ sent
              ∧ List.Forall₂ ServerRequest.AnsweredBy [request] (sent.filter (!isOriginated ·)) := by
  obtain ⟨lasting, answered, _⟩ :=
    requests_answered {} {} (cutByRequest (Frame.ofMessage settingsQuestion))
  rw [← askedForSettings] at lasting answered
  rw [arrival_cutByRequest, feed_settingsQuestion] at answered
  exact ⟨lasting rfl, _, rfl, rfl, answered (lasting rfl)⟩

end LanguageClient
