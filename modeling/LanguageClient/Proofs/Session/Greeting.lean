import LanguageClient.Proofs.Session.Chunks
import LanguageClient.Proofs.Session.Connection
import LanguageClient.Proofs.Session.DocumentRuns

/-! What goes out before a server has answered its greeting: nothing but the greeting and the
answers to its own requests. The texts of documents are held back until the answer arrives, and
then they go out first.
-/

namespace LanguageClient

open Json (Value)
open Session (notificationMessage requestMessage)

-----------------------------------------------------------------------------------------
-- Messages
-----------------------------------------------------------------------------------------

/-- Whether a message is sent of the client's own accord. Answers to requests of the server name
no method.
-/
def isOriginated (message : Value) : Bool :=
  (message.get? "method").isSome

@[simp]
theorem isOriginated_requestMessage (id : Nat) (method : Method) (params : Value)
    : isOriginated (requestMessage id method params) = true := by
  simp [isOriginated, requestMessage, Value.get?_ofFields, Keyed.get?]

@[simp]
theorem isOriginated_notificationMessage (method : String) (params : Value)
    : isOriginated (notificationMessage method params) = true := by
  simp [isOriginated, notificationMessage, Value.get?_ofFields, Keyed.get?]

@[simp]
theorem isOriginated_answer (request : ServerRequest)
    : isOriginated request.answer = false := by
  simp [isOriginated, ServerRequest.answer, Value.get?_ofFields, Keyed.get?]

/-- The response to a request that a message is, if it is one. -/
def responseTo? (id : Nat) (message : Value) : Option Response :=
  match Incoming.ofValue message with
  | .ok (.response response) => if response.id = id then some response else none
  | _ => none

theorem responseTo?_eq_some {id : Nat} {message : Value} {response : Response}
    (found : responseTo? id message = some response)
    : Incoming.ofValue message = .ok (.response response) ∧ response.id = id := by
  unfold responseTo? at found
  split at found
  · rename_i other read
    split at found
    · rename_i same
      obtain rfl := Option.some.inj found
      exact ⟨read, same⟩
    · cases found
  · cases found

/-- What a server says about itself in a response to the greeting that can be read. -/
def Response.serverInfo? (response : Response) : Option ServerInfo :=
  match response.outcome with
  | .ok result => (ServerInfo.ofValue result).toOption
  | .error _ => none

/-- The message that tells a server about a document. -/
def openMessage (entry : String × OpenDocument × String) : Value :=
  notificationMessage "textDocument/didOpen" (Session.openParams entry.1 entry.2.1 entry.2.2)

/-- Messages that tell a server about each document once, with its first version and the text
given last.
-/
def OpensAll (given : GivenTexts) (messages : List Value) : Prop :=
  ∃ entries : List (String × OpenDocument × String),
    messages = entries.map openMessage
    ∧ (entries.map Prod.fst).Nodup
    ∧ (∀ entry ∈ entries, entry.2.1.version = 1)
    ∧ ∀ uri text,
        given.texts uri = some text ↔ ∃ document, (uri, document, text) ∈ entries

namespace Session

/-- How a greeting is awaited. -/
def greetingSlot : PendingRequest where
  id := 0
  method := .handshake
  retain := false
  firstId := 0
  lastDelivered := none

-----------------------------------------------------------------------------------------
-- Operations before the answer
-----------------------------------------------------------------------------------------

/-- The way to the server, what has gone out and what is awaited, and whether the server is
ready.
-/
def wire (session : Session)
    : Option Transport × List Value × Option PendingRequest × Bool :=
  (session.transport, session.written, session.pending, session.initialized)

/-- The server is not ready, and the texts of all documents are held back. -/
def HoldsBack (session : Session) : Prop :=
  session.initialized = false
  ∧ ∀ uri document,
      session.documents.get? uri = some document → document.unopenedText.isSome = true

theorem HoldsBack.of_tracked {session : Session} {earlier : List Value} {given : GivenTexts}
    (tracked : Tracked earlier given session) (unready : session.initialized = false)
    : session.HoldsBack := by
  refine ⟨unready, fun uri document found => ?_⟩
  obtain ⟨_, _, _, _, synced⟩ := tracked
  have held := (synced.held unready).2 uri
  change (session.documents.get? uri).map _ = _ at held
  rw [found] at held
  obtain ⟨text, _, same⟩ := Option.map_eq_some_iff.mp held.symm
  rw [← (Prod.mk.inj same).2]
  rfl

theorem setActive_wire (session : Session) (uri : String)
    : (session.setActive uri).wire = session.wire := by
  unfold setActive
  split <;> rfl

theorem setActive_documents (session : Session) (uri : String)
    : (session.setActive uri).documents = session.documents := by
  unfold setActive
  split <;> rfl

theorem changeDocument_wire {session : Session} (holds : session.HoldsBack) (text : String)
    : (session.changeDocument text).2.wire = session.wire := by
  unfold changeDocument
  split
  · rfl
  · rename_i uri _
    split
    · rfl
    · rename_i document found
      split
      · rfl
      · rename_i told
        have held := holds.2 uri document found
        rw [told] at held
        cases held

theorem openDocument_wire {session : Session} (holds : session.HoldsBack)
    (uri language text : String)
    : (session.openDocument uri language text).2.wire = session.wire := by
  have activated : (session.setActive uri).HoldsBack := by
    refine ⟨?_, fun other document found => ?_⟩
    · have same := congrArg (·.2.2.2) (session.setActive_wire uri)
      exact same.trans holds.1
    · rw [session.setActive_documents] at found
      exact holds.2 other document found
  unfold openDocument
  dsimp only
  split
  · rfl
  · split
    · exact (changeDocument_wire activated text).trans (session.setActive_wire uri)
    · rw [holds.1, if_neg Bool.false_ne_true]
      exact session.setActive_wire uri

theorem saveDocument_wire {session : Session} (holds : session.HoldsBack)
    (known
      : ∀ uri, session.active = some uri → (session.documents.get? uri).isSome = true)
    (text : Option String)
    : (session.saveDocument text).2.wire = session.wire := by
  unfold saveDocument
  split
  · rfl
  · rename_i uri isActive
    split
    · rfl
    · rename_i told
      have active : session.active = some uri := by
        unfold activeUri at isActive
        split at isActive
        · split at isActive
          · rename_i same
            rwa [Except.ok.inj isActive] at same
          · cases isActive
        · cases isActive
      obtain ⟨document, found⟩ := Option.isSome_iff_exists.mp (known uri active)
      have held := holds.2 uri document found
      rw [isUnopened, found] at told
      exact absurd held told

theorem closeDocument_wire {session : Session} (holds : session.HoldsBack)
    : session.closeDocument.2.wire = session.wire := by
  unfold closeDocument
  split
  · rfl
  · rename_i uri _
    dsimp only
    split
    · rfl
    · rename_i document found
      split
      · rfl
      · rename_i told
        have held := holds.2 uri document found
        rw [told] at held
        cases held

theorem requestAboutDocument_unready {session : Session} (unready : session.initialized = false)
    (method : Method) (extra : List (String × Value))
    : (session.requestAboutDocument method extra).2 = session := by
  unfold requestAboutDocument
  split
  · rfl
  · rw [unready, if_neg Bool.false_ne_true]

theorem pushEvent_wire (session : Session) (event : SessionEvent)
    : (session.pushEvent event).wire = session.wire := by
  unfold pushEvent
  split
  · rfl
  · split <;> rfl

theorem handleNotification_wire (session : Session) (notification : Notification)
    : (session.handleNotification notification).wire = session.wire := by
  cases notification with
  | shown notice => exact session.pushEvent_wire _
  | logged notice => exact session.pushEvent_wire _
  | diagnostics publication =>
      rw [handleNotification]
      split
      · exact pushEvent_wire { session with diagnostics := publication.diagnostics } _
      · rfl

/-- A message that answers nothing is at most a request of the server. -/
theorem handleMessage_wire {session : Session} {message : Value}
    (unanswered : ∀ pending response, ¬session.Answers message pending response)
    : (session.handleMessage message).2.wire = session.wire
      ∨ ∃ request : ServerRequest,
          (session.handleMessage message).2 = (session.send request.answer).2 := by
  unfold handleMessage
  cases read : Incoming.ofValue message with
  | error error => exact Or.inl rfl
  | ok incoming =>
      cases incoming with
      | request request => exact Or.inr ⟨request, rfl⟩
      | notification method params =>
          left
          unfold handleIncoming
          dsimp only
          cases Notification.ofMethod method params with
          | error error => rfl
          | ok notification =>
              cases notification with
              | none => rfl
              | some notification => exact session.handleNotification_wire notification
      | response response =>
          left
          dsimp only [handleIncoming]
          unfold handleResponse
          split
          · rfl
          · rename_i pending slot
            rw [if_neg fun awaited => unanswered pending response ⟨slot, read, awaited⟩]

/-- Nothing that the client does sends a message before the server is ready. -/
theorem run_wire {session : Session} {action : SessionAction} (holds : session.HoldsBack)
    (known
      : ∀ uri, session.active = some uri → (session.documents.get? uri).isSome = true)
    (unretained : session.pending.any (·.retain) = false) (internal : action.isInternal = true)
    : (action.run session).2.wire = session.wire := by
  have refused (method : Method) (extra : List (String × Value))
      : (session.requestAboutDocument method extra).2.wire = session.wire :=
    congrArg wire (requestAboutDocument_unready holds.1 method extra)
  cases action with
  | requestHandshake _ | requestShutdown | receive _ => cases internal
  | requestCompletion _ | requestFormatting _ _ | requestDefinition _ | requestReferences _ _ =>
      exact refused _ _
  | openDocument uri language text => exact openDocument_wire holds uri language text
  | changeDocument text => exact changeDocument_wire holds text
  | saveDocument text => exact saveDocument_wire holds known text
  | closeDocument => exact closeDocument_wire holds
  | releasePending =>
      have kept : session.releasePending = session := by
        rw [releasePending, unretained, if_neg Bool.false_ne_true]
      exact congrArg wire kept
  | drainEvents => rfl

-----------------------------------------------------------------------------------------
-- The end of the handshake
-----------------------------------------------------------------------------------------

/-- A way to the server that does not break. -/
def Endless (session : Session) : Prop :=
  ∃ failure, session.transport = some { failure }

/-- A session that has sent messages. -/
def wrote (session : Session) (messages : List Value) : Session :=
  { session with written := session.written ++ messages }

theorem wrote_wrote (session : Session) (messages more : List Value)
    : (session.wrote messages).wrote more = session.wrote (messages ++ more) := by
  simp only [wrote, List.append_assoc]

theorem Endless.wrote {session : Session} (endless : session.Endless) (messages : List Value)
    : (session.wrote messages).Endless :=
  endless

theorem send_endless {session : Session} (endless : session.Endless) (message : Value)
    : session.send message = (.ok (), session.wrote [message]) := by
  obtain ⟨failure, transport⟩ := endless
  simp only [send, transport, wrote]

/-- All documents are told about, by induction on them. -/
theorem sendOpens_endless {session : Session} (endless : session.Endless)
    (entries : List (String × OpenDocument × String))
    : session.sendOpens entries = (.ok (), session.wrote (entries.map openMessage)) := by
  induction entries generalizing session with
  | nil =>
      rw [List.map_nil, wrote, List.append_nil]
      rfl
  | cons first rest ih =>
      obtain ⟨uri, document, text⟩ := first
      have told
          : session.sendOpen uri document text
            = (.ok (), session.wrote [openMessage (uri, document, text)]) :=
        send_endless endless _
      unfold sendOpens
      rw [told]
      dsimp only
      rw [ih (endless.wrote _), wrote_wrote]
      rfl

/-- The server is told that the client is ready, and then about the documents. -/
theorem finishHandshake_endless {session : Session} (endless : session.Endless)
    (info : ServerInfo)
    : (session.finishHandshake info).2.written
      = session.written
        ++ notificationMessage "initialized" (.ofFields [])
          :: (unopened session.documents).map openMessage := by
  have ready : Endless { session with initialized := true, serverInfo := some info } := endless
  have marked (written : List Value)
      : Endless
          { session with
            initialized := true
            serverInfo := some info
            documents := markOpened session.documents
            written } :=
    endless
  unfold finishHandshake notify flushDocuments
  simp only [send_endless ready, wrote, sendOpens_endless (marked _)]
  refine (congrArg (·.2.1) (pushEvent_wire _ _)).trans ?_
  exact (List.append_cons _ _ _).symm

/-- The texts held back are those given last, each for one document. -/
theorem opensAll_unopened {session : Session} {earlier : List Value} {given : GivenTexts}
    (tracked : Tracked earlier given session) (unready : session.initialized = false)
    : OpensAll given ((unopened session.documents).map openMessage) := by
  obtain ⟨_, mirror, _, _, synced⟩ := tracked
  have found {uri : String} {document : OpenDocument} {text : String}
      : (uri, document, text) ∈ unopened session.documents
        ↔ session.documents.get? uri = some document ∧ document.unopenedText = some text := by
    rw [unopened_eq_pick, Keyed.mem_pick]
    constructor
    · rintro ⟨old, member, chosen⟩
      obtain ⟨_, held, same⟩ := Option.map_eq_some_iff.mp chosen
      obtain ⟨rfl, rfl⟩ := Prod.mk.inj same
      exact ⟨synced.sorted.get?_of_mem member, held⟩
    · rintro ⟨known, held⟩
      exact ⟨document, Keyed.mem_of_get? known, by rw [held]; rfl⟩
  refine ⟨_, rfl, unopened_names_nodup synced.sorted, ?_, ?_⟩
  · rintro ⟨uri, document, text⟩ listed
    exact synced.version_one unready (found.mp listed).1
  · intro uri text
    have held := (synced.held unready).2 uri
    change (session.documents.get? uri).map _ = _ at held
    constructor
    · intro isText
      rw [isText] at held
      obtain ⟨document, known, same⟩ := Option.map_eq_some_iff.mp held
      exact ⟨document, found.mpr ⟨known, (Prod.mk.inj same).2⟩⟩
    · rintro ⟨document, listed⟩
      obtain ⟨known, isText⟩ := found.mp listed
      rw [known] at held
      obtain ⟨other, given', same⟩ := Option.map_eq_some_iff.mp held.symm
      rw [given']
      exact (Prod.mk.inj same).2.trans isText

theorem replyOf_greeting {response : Response} {info : ServerInfo}
    (readable : response.serverInfo? = some info)
    : replyOf .handshake response = .ok (.handshake info) := by
  unfold Response.serverInfo? at readable
  unfold replyOf Reply.ofResult
  cases outcome : response.outcome with
  | error reason =>
      rw [outcome] at readable
      cases readable
  | ok result =>
      rw [outcome] at readable
      dsimp only at readable ⊢
      cases read : ServerInfo.ofValue result with
      | error error =>
          rw [read] at readable
          cases readable
      | ok other =>
          rw [read] at readable
          obtain rfl := Option.some.inj readable
          rfl

theorem replyOf_greeting_refused {response : Response} (unreadable : response.serverInfo? = none)
    : (∃ error, replyOf .handshake response = .error error)
      ∨ ∃ reason, replyOf .handshake response = .ok (.error reason) := by
  unfold Response.serverInfo? at unreadable
  unfold replyOf Reply.ofResult
  cases outcome : response.outcome with
  | error reason => exact Or.inr ⟨reason, rfl⟩
  | ok result =>
      rw [outcome] at unreadable
      dsimp only at unreadable ⊢
      cases read : ServerInfo.ofValue result with
      | error error => exact Or.inl ⟨_, rfl⟩
      | ok info =>
          rw [read] at unreadable
          cases unreadable

-----------------------------------------------------------------------------------------
-- Without a server
-----------------------------------------------------------------------------------------

/-- Messages that arrive when the server is gone already lead nowhere. -/
theorem handleMessages_wire_of_stopped {session : Session} (stopped : session.isRunning = false)
    (free : session.pending = none) (messages : List Value)
    : (session.handleMessages messages).wire = session.wire := by
  refine handleMessages_keeps (P := fun state => state.wire = session.wire) rfl
    (fun state message same => ?_) messages
  obtain ⟨transport, _, pending, _⟩ :=
    (by simpa only [wire, Prod.mk.injEq] using same : _ ∧ _ ∧ _ ∧ _)
  refine Eq.trans ?_ same
  have unanswered (slot : PendingRequest) (response : Response)
      : ¬state.Answers message slot response := by
    rintro ⟨awaited, _⟩
    exact absurd (awaited.symm.trans (pending.trans free)) nofun
  rcases handleMessage_wire unanswered with same | ⟨request, sent⟩
  · exact same
  · rcases state.send_cases request.answer with ⟨_, outcome⟩ | ⟨running, _⟩ | ⟨running, _⟩
    · rw [sent, outcome]
    · rw [isRunning, transport] at running
      exact absurd (running.symm.trans stopped) (by decide)
    · rw [isRunning, transport] at running
      exact absurd (running.symm.trans stopped) (by decide)

/-- Without a server nothing that the client does counts. -/
theorem run_wire_of_stopped {session : Session} (stopped : session.isRunning = false)
    (free : session.pending = none) {action : SessionAction} (internal : action.isInternal = true)
    : (action.run session).2.wire = session.wire := by
  have inactive : session.activeUri = .error .notRunning := by
    rw [activeUri, stopped, if_neg Bool.false_ne_true]
  have refused (method : Method) (extra : List (String × Value))
      : (session.requestAboutDocument method extra).2.wire = session.wire := by
    rw [requestAboutDocument, inactive]
  cases action with
  | requestHandshake _ | requestShutdown | receive _ => cases internal
  | requestCompletion _ | requestFormatting _ _ | requestDefinition _ | requestReferences _ _ =>
      exact refused _ _
  | openDocument uri language text =>
      have same : session.openDocument uri language text = (.error .notRunning, session) := by
        rw [openDocument, stopped]
        rfl
      exact congrArg (·.2.wire) same
  | changeDocument text =>
      have same : session.changeDocument text = (.error .notRunning, session) := by
        rw [changeDocument, inactive]
      exact congrArg (·.2.wire) same
  | saveDocument text =>
      have same : session.saveDocument text = (.error .notRunning, session) := by
        rw [saveDocument, inactive]
      exact congrArg (·.2.wire) same
  | closeDocument =>
      have same : session.closeDocument = (.error .notRunning, session) := by
        rw [closeDocument, inactive]
      exact congrArg (·.2.wire) same
  | releasePending =>
      have kept : session.releasePending = session := by
        rw [releasePending, free]
        rfl
      exact congrArg wire kept
  | drainEvents => rfl

-----------------------------------------------------------------------------------------
-- What has gone out
-----------------------------------------------------------------------------------------

theorem Quiet.written_prefix {before after : Session} (quiet : Quiet before after)
    : before.written <+: after.written := by
  obtain ⟨sent, frames, _⟩ := quiet.written
  exact ⟨sent, frames.symm⟩

/-- Messages take back nothing that has gone out. -/
theorem handleMessages_written (session : Session) (messages : List Value)
    : session.written <+: (session.handleMessages messages).written := by
  refine handleMessages_keeps (P := fun state => session.written <+: state.written)
    List.prefix_rfl (fun state message earlier => earlier.trans ?_) messages
  obtain ⟨after, queued, reacts, outcome⟩ := state.handleMessage_reacts message
  rw [(handleMessage_of_reacts reacts).1]
  rcases outcome with ⟨quiet, _⟩ | ⟨_, _, _, _, quiet, _⟩
  · exact quiet.written_prefix
  · exact quiet.written_prefix

/-- No action takes back what has gone out. -/
theorem run_written (session : Session) (action : SessionAction)
    : session.written <+: (action.run session).2.written := by
  by_cases arrival : ∃ chunk, action = .receive chunk
  · obtain ⟨chunk, rfl⟩ := arrival
    exact handleMessages_written { session with framer := (session.framer.feed chunk).2 } _
  · rcases SessionCall.run_cases session (.act action) (by simpa using arrival) with
      ⟨_, quiet⟩ | ⟨_, method, params, transport, _, _, sent⟩
    · exact quiet.written_prefix
    · have frames := congrArg (·.written) sent
      exact ⟨_, frames.symm⟩

end Session

-----------------------------------------------------------------------------------------
-- Phases
-----------------------------------------------------------------------------------------

/-- The greeting is all that has gone out of the client's own accord. -/
def SaidOnly (earlier : List Value) (hello : Value) (session : Session) : Prop :=
  ∃ sent, session.written = earlier ++ sent ∧ sent.filter isOriginated = [hello]

/-- The server has been greeted, and nothing else has been said to it. -/
structure Greeted (earlier : List Value) (hello : Value) (slot : Option PendingRequest)
    (run : DocumentRun)
    : Prop where
  endless : run.session.Endless
  slot : run.session.pending = slot
  unready : run.session.initialized = false
  tracked : ∃ before, Tracked before run.given run.session
  alone : SaidOnly earlier hello run.session

/-- The server is ready: after the greeting it has been told so, then about all documents, and
then anything else.
-/
def Introduced (earlier : List Value) (hello : Value) (given : GivenTexts) (session : Session)
    : Prop :=
  ∃ sent opens,
    session.written = earlier ++ sent
    ∧ OpensAll given opens
    ∧ hello :: notificationMessage "initialized" (.ofFields []) :: opens
      <+: sent.filter isOriginated

variable {earlier : List Value} {hello : Value}

/-- Whatever goes out later comes later. -/
theorem Introduced.later {given : GivenTexts} {session : Session}
    (introduced : Introduced earlier hello given session) {after : Session}
    (written : session.written <+: after.written)
    : Introduced earlier hello given after := by
  obtain ⟨sent, opens, frames, complete, begins⟩ := introduced
  obtain ⟨more, frames'⟩ := written
  refine ⟨sent ++ more, opens, ?_, complete, ?_⟩
  · rw [← frames', frames, List.append_assoc]
  · rw [List.filter_append]
    exact begins.trans (List.prefix_append _ _)

namespace Greeted

variable {slot : Option PendingRequest} {run : DocumentRun}

theorem running (greeted : Greeted earlier hello slot run) : run.session.isRunning = true := by
  obtain ⟨failure, attached⟩ := greeted.endless
  rw [Session.isRunning, attached]
  rfl

/-- Nothing goes out, and nothing is answered. -/
theorem of_wire (greeted : Greeted earlier hello slot run) {after : DocumentRun}
    (wire : after.session.wire = run.session.wire)
    (tracked : ∃ before, Tracked before after.given after.session)
    : Greeted earlier hello slot after := by
  obtain ⟨transport, written, pending, initialized⟩ :=
    (by simpa only [Session.wire, Prod.mk.injEq] using wire : _ ∧ _ ∧ _ ∧ _)
  refine ⟨?_, pending.trans greeted.slot, initialized.trans greeted.unready, tracked, ?_⟩
  · obtain ⟨failure, attached⟩ := greeted.endless
    exact ⟨failure, transport.trans attached⟩
  · rw [SaidOnly, written]
    exact greeted.alone

/-- Something that the client does. -/
theorem step (greeted : Greeted earlier hello slot run)
    (unretained : slot.any (·.retain) = false) {action : SessionAction}
    (internal : action.isInternal = true)
    : Greeted earlier hello slot (run.step action) := by
  obtain ⟨before, tracked⟩ := greeted.tracked
  refine greeted.of_wire ?_ ⟨before, tracked.step action⟩
  refine Session.run_wire (.of_tracked tracked greeted.unready) ?_ (greeted.slot ▸ unretained)
    internal
  obtain ⟨_, _, _, _, synced⟩ := tracked
  exact synced.activeKnown

/-- What the client does, action after action. -/
theorem steps (greeted : Greeted earlier hello slot run)
    (unretained : slot.any (·.retain) = false) {actions : List SessionAction}
    (internal : ∀ action ∈ actions, action.isInternal = true)
    : Greeted earlier hello slot (actions.foldl DocumentRun.step run) :=
  List.foldlRecOn actions DocumentRun.step (motive := Greeted earlier hello slot) greeted
    fun _ greeted action listed => greeted.step unretained (internal action listed)

/-- A message that answers nothing, though it may be answered. -/
theorem pass (greeted : Greeted earlier hello slot run) {message : Value}
    (unanswered : ∀ pending response, ¬run.session.Answers message pending response)
    : Greeted earlier hello slot
        { run with session := (run.session.handleMessage message).2 } := by
  obtain ⟨before, tracked⟩ := greeted.tracked
  have tracked' := tracked.handleMessage message
  rcases Session.handleMessage_wire unanswered with same | ⟨request, sent⟩
  · exact greeted.of_wire same ⟨before, tracked'⟩
  · rw [sent] at tracked' ⊢
    rw [Session.send_endless greeted.endless] at tracked' ⊢
    obtain ⟨sent, frames, alone⟩ := greeted.alone
    refine ⟨greeted.endless, greeted.slot, greeted.unready, ⟨before, tracked'⟩,
      sent ++ [request.answer], ?_, ?_⟩
    · simp only [Session.wrote, frames, List.append_assoc]
    · rw [List.filter_append, alone]
      simp

/-- Once nothing is awaited, no message is an answer, by induction on the messages. -/
theorem deaf (greeted : Greeted earlier hello none run) (messages : List Value)
    : Greeted earlier hello none
        { run with session := run.session.handleMessages messages } := by
  induction messages generalizing run with
  | nil => exact greeted
  | cons message rest ih =>
      have passed
          : Greeted earlier hello none
              { run with session := (run.session.handleMessage message).2 } :=
        greeted.pass fun pending response answers =>
          absurd (answers.1.symm.trans greeted.slot) nofun
      exact ih passed

/-- Nothing is awaited any more. -/
theorem given_up (greeted : Greeted earlier hello slot run)
    : Greeted earlier hello none
        { run with session := { run.session with pending := none } } := by
  obtain ⟨before, tracked⟩ := greeted.tracked
  exact ⟨greeted.endless, rfl, greeted.unready, ⟨before, tracked.congr rfl rfl⟩, greeted.alone⟩

/-- A response to the greeting that can be read ends the handshake. -/
theorem introduce (greeted : Greeted earlier hello slot run) (info : ServerInfo)
    : Introduced earlier hello run.given (run.session.finishHandshake info).2 := by
  obtain ⟨before, tracked⟩ := greeted.tracked
  obtain ⟨sent, frames, alone⟩ := greeted.alone
  refine ⟨
    sent
      ++ notificationMessage "initialized" (.ofFields [])
        :: (Session.unopened run.session.documents).map openMessage,
    _, ?_, Session.opensAll_unopened tracked greeted.unready, ?_⟩
  · rw [Session.finishHandshake_endless greeted.endless, frames, List.append_assoc]
  · have originated
        : ((Session.unopened run.session.documents).map openMessage).filter isOriginated
          = (Session.unopened run.session.documents).map openMessage := by
      refine List.filter_eq_self.mpr fun message listed => ?_
      obtain ⟨entry, _, rfl⟩ := List.mem_map.mp listed
      exact isOriginated_notificationMessage _ _
    rw [List.filter_append, alone, List.filter_cons_of_pos (isOriginated_notificationMessage _ _),
      originated]
    exact List.prefix_rfl

theorem answers (greeted : Greeted earlier hello (some Session.greetingSlot) run)
    {message : Value} {response : Response} (found : responseTo? 0 message = some response)
    : run.session.Answers message Session.greetingSlot response := by
  obtain ⟨read, numbered⟩ := responseTo?_eq_some found
  refine ⟨greeted.slot, read, ?_⟩
  rw [numbered]
  rfl

/-- A message that is no response to the greeting. -/
theorem pass_other (greeted : Greeted earlier hello (some Session.greetingSlot) run)
    {message : Value} (other : responseTo? 0 message = none)
    : Greeted earlier hello (some Session.greetingSlot)
        { run with session := (run.session.handleMessage message).2 } := by
  refine greeted.pass fun pending response answers => ?_
  obtain ⟨slot, read, awaited⟩ := answers
  obtain rfl := Option.some.inj (slot.symm.trans greeted.slot)
  have numbered : response.id = 0 := by
    rw [PendingRequest.awaits, Bool.or_eq_true, decide_eq_true_eq] at awaited
    exact awaited.resolve_right Bool.false_ne_true
  simp [responseTo?, read, numbered] at other

/-- A response that can be read ends the handshake. -/
theorem answer (greeted : Greeted earlier hello (some Session.greetingSlot) run)
    {message : Value} {response : Response} (found : responseTo? 0 message = some response)
    {info : ServerInfo} (readable : response.serverInfo? = some info)
    : Introduced earlier hello run.given (run.session.handleMessage message).2 := by
  rw [(greeted.answers found).handleMessage_of_reply (Session.replyOf_greeting readable)]
  exact greeted.given_up.introduce info

/-- After a response that cannot be read nothing is awaited any more. -/
theorem refuse (greeted : Greeted earlier hello (some Session.greetingSlot) run)
    {message : Value} {response : Response} (found : responseTo? 0 message = some response)
    (unreadable : response.serverInfo? = none)
    : Greeted earlier hello none
        { run with session := (run.session.handleMessage message).2 } := by
  obtain ⟨before, tracked⟩ := greeted.tracked
  have handled := tracked.handleMessage message
  refine greeted.given_up.of_wire ?_ ⟨before, handled⟩
  rcases Session.replyOf_greeting_refused unreadable with ⟨error, misread⟩ | ⟨reason, refused⟩
  · exact congrArg Session.wire ((greeted.answers found).handleMessage_of_misread misread)
  · have replied := (greeted.answers found).handleMessage_of_reply refused
    refine (congrArg Session.wire replied).trans ?_
    exact Session.pushEvent_wire _ _

/-- Messages arrive before the answer, and with it, by induction on them. -/
theorem hear (greeted : Greeted earlier hello (some Session.greetingSlot) run)
    (messages : List Value)
    : let after := { run with session := run.session.handleMessages messages }
      (messages.findSome? (responseTo? 0) = none
        ∧ Greeted earlier hello (some Session.greetingSlot) after)
      ∨ ∃ response,
          messages.findSome? (responseTo? 0) = some response
          ∧ ((response.serverInfo? = none ∧ Greeted earlier hello none after)
            ∨ (response.serverInfo?.isSome = true
              ∧ Introduced earlier hello run.given after.session)) := by
  induction messages generalizing run with
  | nil => exact Or.inl ⟨rfl, greeted⟩
  | cons message rest ih =>
      rw [List.findSome?_cons]
      cases found : responseTo? 0 message with
      | none => exact ih (greeted.pass_other found)
      | some response =>
          refine Or.inr ⟨response, rfl, ?_⟩
          cases readable : response.serverInfo? with
          | none => exact Or.inl ⟨rfl, (greeted.refuse found readable).deaf rest⟩
          | some info =>
              refine Or.inr ⟨rfl, (greeted.answer found readable).later ?_⟩
              exact Session.handleMessages_written _ rest

/-- Bytes left over from before make no difference. -/
theorem withFramer (greeted : Greeted earlier hello slot run) (framer : Framer)
    : Greeted earlier hello slot { run with session := run.session.withFramer framer } := by
  obtain ⟨before, tracked⟩ := greeted.tracked
  exact greeted.of_wire rfl ⟨before, tracked.congr rfl rfl⟩

end Greeted

/-- A server has been greeted and is gone, before anything else was said to it. -/
def Hushed (earlier : List Value) (hello : Value) (session : Session) : Prop :=
  session.isRunning = false
  ∧ session.pending = none
  ∧ SaidOnly earlier hello session

theorem Hushed.of_wire {session after : Session} (hushed : Hushed earlier hello session)
    (wire : after.wire = session.wire)
    : Hushed earlier hello after := by
  obtain ⟨transport, written, pending, _⟩ :=
    (by simpa only [Session.wire, Prod.mk.injEq] using wire : _ ∧ _ ∧ _ ∧ _)
  unfold Hushed SaidOnly Session.isRunning
  rw [transport, written, pending]
  exact hushed

theorem Hushed.acts {session : Session} (hushed : Hushed earlier hello session)
    {actions : List SessionAction} (internal : ∀ action ∈ actions, action.isInternal = true)
    : Hushed earlier hello (actions.foldl (fun state action => (action.run state).2) session) :=
  List.foldlRecOn actions _ (motive := Hushed earlier hello) hushed
    fun _ hushed action listed =>
      hushed.of_wire (Session.run_wire_of_stopped hushed.1 hushed.2.1 (internal action listed))

theorem Hushed.receive {session : Session} (hushed : Hushed earlier hello session)
    (chunk : List UInt8)
    : Hushed earlier hello (session.receive chunk) := by
  have framed
      : Hushed earlier hello { session with framer := (session.framer.feed chunk).2 } :=
    hushed
  exact framed.of_wire (Session.handleMessages_wire_of_stopped framed.1 framed.2.1 _)

end LanguageClient
