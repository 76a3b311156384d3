import LanguageClient.Proofs.Frame.Chunks
import LanguageClient.Proofs.Session.Exchange

/-! A session does the same about a stream wherever it is cut into chunks. What is done about
a message does not look at the bytes that have been left over.
-/

namespace LanguageClient.Session

open Json (Value)

/-- A session with other bytes left over. -/
def withFramer (session : Session) (framer : Framer) : Session :=
  { session with framer }

/-- Sending does not look at the bytes left over. -/
theorem send_withFramer (session : Session) (framer : Framer) (message : Value)
    : (session.withFramer framer).send message
      = ((session.send message).1, (session.send message).2.withFramer framer) := by
  unfold send withFramer
  dsimp only
  split
  · rfl
  · split <;> rfl

theorem notify_withFramer (session : Session) (framer : Framer) (method : String)
    (params : Value)
    : (session.withFramer framer).notify method params
      = ((session.notify method params).1, (session.notify method params).2.withFramer framer) :=
  session.send_withFramer framer _

theorem sendOpens_withFramer (session : Session) (framer : Framer)
    (opened : List (String × OpenDocument × String))
    : (session.withFramer framer).sendOpens opened
      = ((session.sendOpens opened).1, (session.sendOpens opened).2.withFramer framer) := by
  induction opened generalizing session with
  | nil => rfl
  | cons first rest ih =>
      obtain ⟨uri, document, text⟩ := first
      unfold sendOpens sendOpen
      rw [notify_withFramer]
      cases session.notify "textDocument/didOpen" (openParams uri document text) with
      | mk result sent =>
          cases result with
          | error error => rfl
          | ok _ => exact ih sent

theorem pushEvent_withFramer (session : Session) (framer : Framer) (event : SessionEvent)
    : (session.withFramer framer).pushEvent event
      = (session.pushEvent event).withFramer framer := by
  unfold pushEvent withFramer
  dsimp only
  split
  · rfl
  · split <;> rfl

theorem finishHandshake_withFramer (session : Session) (framer : Framer) (info : ServerInfo)
    : (session.withFramer framer).finishHandshake info
      = ((session.finishHandshake info).1, (session.finishHandshake info).2.withFramer framer) := by
  have greeted :=
    notify_withFramer { session with initialized := true, serverInfo := some info } framer
      "initialized" (.ofFields [])
  unfold withFramer at greeted
  unfold finishHandshake
  dsimp only [withFramer]
  rw [greeted]
  cases notify { session with initialized := true, serverInfo := some info } "initialized"
      (.ofFields []) with
  | mk result told =>
      cases result with
      | error error => rfl
      | ok _ =>
          have flushed
              : (told.withFramer framer).flushDocuments
                = (told.flushDocuments.1, told.flushDocuments.2.withFramer framer) :=
            sendOpens_withFramer { told with documents := markOpened told.documents } framer _
          unfold withFramer at flushed
          dsimp only
          rw [flushed]
          cases told.flushDocuments with
          | mk result opened =>
              cases result with
              | error error => rfl
              | ok _ =>
                  have pushed := pushEvent_withFramer opened framer (.initialized info)
                  unfold withFramer at pushed
                  dsimp only
                  rw [pushed]

theorem handleReply_withFramer (session : Session) (framer : Framer) (handle : RequestHandle)
    (reply : Reply)
    : (session.withFramer framer).handleReply handle reply
      = (
          (session.handleReply handle reply).1,
          (session.handleReply handle reply).2.withFramer framer
        ) := by
  cases reply with
  | handshake info => exact session.finishHandshake_withFramer framer info
  | shutdown => rw [handleReply, pushEvent_withFramer, notify_withFramer, handleReply]
  | completion _ | formatting _ | definition _ | references _ | other _ | error _ =>
      exact congrArg (Prod.mk _) (session.pushEvent_withFramer framer _)

/-- A response is handled alike, whatever bytes are left over. -/
theorem handleResponse_withFramer (session : Session) (framer : Framer) (response : Response)
    : (session.withFramer framer).handleResponse response
      = (
          (session.handleResponse response).1,
          (session.handleResponse response).2.withFramer framer
        ) := by
  have slot : (session.withFramer framer).pending = session.pending := rfl
  unfold handleResponse
  rw [slot]
  split
  · rfl
  · split
    · dsimp only
      split
      · rfl
      · exact handleReply_withFramer
          { session with pending := PendingRequest.afterResponse _ response.id } framer _ _
    · rfl

theorem handleMessage_withFramer (session : Session) (framer : Framer) (message : Value)
    : ((session.withFramer framer).handleMessage message).2
      = (session.handleMessage message).2.withFramer framer := by
  unfold handleMessage
  cases Incoming.ofValue message with
  | error error => rfl
  | ok incoming =>
      cases incoming with
      | request request => exact congrArg Prod.snd (session.send_withFramer framer _)
      | response response => exact congrArg Prod.snd (session.handleResponse_withFramer framer _)
      | notification method params =>
          dsimp only [handleIncoming]
          cases Notification.ofMethod method params with
          | error error => rfl
          | ok notification =>
              cases notification with
              | none => rfl
              | some notification =>
                  cases notification with
                  | shown notice => exact session.pushEvent_withFramer framer _
                  | logged notice => exact session.pushEvent_withFramer framer _
                  | diagnostics publication =>
                      dsimp only [handleNotification, withFramer]
                      split
                      · exact pushEvent_withFramer
                          { session with diagnostics := publication.diagnostics } framer _
                      · rfl

/-- Messages are handled one after another, none of them with a look at the bytes left over. -/
theorem handleMessages_withFramer (session : Session) (framer : Framer)
    (messages : List Value)
    : (session.withFramer framer).handleMessages messages
      = (session.handleMessages messages).withFramer framer :=
  List.foldl_hom (withFramer · framer) fun session message =>
    session.handleMessage_withFramer framer message

-----------------------------------------------------------------------------------------
-- Chunks
-----------------------------------------------------------------------------------------

/-- Receive chunks in their order. -/
def receiveAll (session : Session) (chunks : List (List UInt8)) : Session :=
  chunks.foldl receive session

/-- What a chunk completes is handled, and the rest of it is left over. -/
theorem receive_eq (session : Session) (chunk : List UInt8)
    : session.receive chunk
      = (session.handleMessages (session.framer.feed chunk).1).withFramer
          (session.framer.feed chunk).2 :=
  session.handleMessages_withFramer _ _

theorem receive_settled (session : Session) (chunk : List UInt8)
    : (session.receive chunk).framer.Settled := by
  rw [receive_eq]
  exact session.framer.feed_settled chunk

/-- What chunks complete is handled, and the rest of them is left over, by induction on the
chunks.
-/
theorem receiveAll_eq (session : Session) (chunks : List (List UInt8))
    : session.receiveAll chunks
      = (session.handleMessages (session.framer.feedAll chunks).1).withFramer
          (session.framer.feedAll chunks).2 := by
  induction chunks generalizing session with
  | nil => rfl
  | cons chunk rest ih =>
      have joined (messages more : List Value)
          : session.handleMessages (messages ++ more)
            = (session.handleMessages messages).handleMessages more :=
        List.foldl_append
      have later := ih (session.receive chunk)
      rw [receive_eq] at later
      dsimp only [receiveAll, List.foldl_cons, Framer.feedAll] at later ⊢
      rw [receive_eq, later, joined, handleMessages_withFramer]
      rfl

/-- The events that messages let wait, also those that give way to later ones. -/
def queuedByAll (session : Session) : List Value → List SessionEvent
  | [] => []
  | message :: rest =>
    session.queuedBy message ++ (session.handleMessage message).2.queuedByAll rest

/-- The events that chunks let wait, also those that give way to later ones. -/
def queuedFrom (session : Session) : List (List UInt8) → List SessionEvent
  | [] => []
  | chunk :: rest =>
    session.queuedByAll (session.framer.feed chunk).1 ++ (session.receive chunk).queuedFrom rest

theorem queuedByAll_withFramer (session : Session) (framer : Framer) (messages : List Value)
    : (session.withFramer framer).queuedByAll messages = session.queuedByAll messages := by
  induction messages generalizing session with
  | nil => rfl
  | cons message rest ih =>
      have first : (session.withFramer framer).queuedBy message = session.queuedBy message := by
        have kept := congrArg events
          ((session.withEvents []).handleMessage_withFramer framer message)
        exact kept
      rw [queuedByAll, queuedByAll, handleMessage_withFramer, ih, first]

theorem queuedByAll_append (session : Session) (messages more : List Value)
    : session.queuedByAll (messages ++ more)
      = session.queuedByAll messages ++ (session.handleMessages messages).queuedByAll more := by
  induction messages generalizing session with
  | nil => rfl
  | cons message rest ih =>
      rw [List.cons_append, queuedByAll, queuedByAll, ih, List.append_assoc]
      rfl

/-- The events are those of the messages that the chunks complete, by induction on the chunks. -/
theorem queuedFrom_eq (session : Session) (chunks : List (List UInt8))
    : session.queuedFrom chunks
      = session.queuedByAll (session.framer.feedAll chunks).1 := by
  induction chunks generalizing session with
  | nil => rfl
  | cons chunk rest ih =>
      have later := ih (session.receive chunk)
      rw [receive_eq, queuedByAll_withFramer] at later
      rw [queuedFrom, receive_eq, later]
      exact (session.queuedByAll_append _ _).symm

-----------------------------------------------------------------------------------------
-- Runs
-----------------------------------------------------------------------------------------

@[simp] theorem send_framer (session : Session) (message : Value)
    : (session.send message).2.framer = session.framer := by
  rcases session.send_cases message with
    ⟨_, outcome⟩ | ⟨_, reason, outcome⟩ | ⟨_, transport, outcome⟩ <;> rw [outcome] <;> rfl

@[simp] theorem notify_framer (session : Session) (method : String) (params : Value)
    : (session.notify method params).2.framer = session.framer :=
  session.send_framer _

@[simp] theorem setActive_framer (session : Session) (uri : String)
    : (session.setActive uri).framer = session.framer := by
  unfold setActive
  split <;> rfl

theorem changeDocument_framer (session : Session) (text : String)
    : (session.changeDocument text).2.framer = session.framer := by
  unfold changeDocument
  split
  · rfl
  · split
    · rfl
    · split
      · rfl
      · exact notify_framer _ _ _

theorem openDocument_framer (session : Session) (uri language text : String)
    : (session.openDocument uri language text).2.framer = session.framer := by
  unfold openDocument
  split
  · rfl
  · dsimp only
    split
    · rw [changeDocument_framer, setActive_framer]
    · split
      · rw [sendOpen, notify_framer]
        exact session.setActive_framer uri
      · exact session.setActive_framer uri

theorem saveDocument_framer (session : Session) (text : Option String)
    : (session.saveDocument text).2.framer = session.framer := by
  unfold saveDocument
  split
  · rfl
  · split
    · rfl
    · exact session.notify_framer _ _

theorem closeDocument_framer (session : Session)
    : session.closeDocument.2.framer = session.framer := by
  unfold closeDocument
  split
  · rfl
  · dsimp only
    split
    · rfl
    · split
      · rfl
      · exact notify_framer _ _ _

theorem request_framer (session : Session) (method : Method) (params : Value)
    : (session.request method params).2.framer = session.framer := by
  rcases session.request_cases method params with
    ⟨_, outcome⟩ | ⟨_, reason, outcome⟩ | ⟨_, transport, outcome⟩ <;> rw [outcome] <;> rfl

end LanguageClient.Session

namespace LanguageClient

open Session

/-- No call but the arrival of bytes touches the framer. -/
theorem SessionCall.run_framer (session : Session) {call : SessionCall}
    (silent : ∀ chunk, call ≠ .act (.receive chunk))
    : (call.run session).2.framer = session.framer := by
  cases named : call.method? with
  | some method =>
      rcases run_of_method session named with refused | ⟨params, ran⟩
      · rw [refused]
      · rw [ran]
        exact session.request_framer method params
  | none =>
      cases call with
      | request method params => cases named
      | notify method params => exact session.notify_framer method params
      | act action =>
          cases action with
          | openDocument uri language text => exact session.openDocument_framer uri language text
          | changeDocument text => exact session.changeDocument_framer text
          | saveDocument text => exact session.saveDocument_framer text
          | closeDocument => exact session.closeDocument_framer
          | releasePending =>
              dsimp only [run, SessionAction.run, releasePending]
              split <;> rfl
          | drainEvents => rfl
          | receive chunk => exact absurd rfl (silent chunk)
          | requestHandshake _ | requestShutdown | requestCompletion _ | requestFormatting _ _
          | requestDefinition _ | requestReferences _ _ => cases named

/-- Between the calls of a run the framer waits, by induction on the calls. -/
theorem Exchange.after_settled (earlier : Session) (transport : Transport)
    (calls : List SessionCall)
    : (after (earlier.start transport) calls).session.framer.Settled := by
  rw [after_session]
  generalize started : earlier.start transport = session
  have settled : session.framer.Settled := by
    rw [← started]
    rfl
  clear started
  induction calls generalizing session with
  | nil => exact settled
  | cons call rest ih =>
      refine ih _ ?_
      by_cases arrival : ∃ chunk, call = .act (.receive chunk)
      · obtain ⟨chunk, rfl⟩ := arrival
        exact session.receive_settled chunk
      · have kept := SessionCall.run_framer session fun chunk same => arrival ⟨chunk, same⟩
        rw [kept]
        exact settled

/-- A stream means the same wherever it is cut: the same messages and the same bytes left
over, the same session, which includes what has gone out, and the same events on the way to
it. Only a cut without any chunk can differ from one with an empty chunk, and only on a framer
that does not wait. A new framer waits, and so does every one that it becomes, alone or in the
run of a session, so that for those cuts never differ.
-/
theorem Session.receive_chunks (chunks others : List (List UInt8))
    (same : chunks.flatten = others.flatten)
    : (∀ framer : Framer,
          framer.Settled ∨ (chunks = [] ↔ others = [])
          → framer.feedAll chunks = framer.feedAll others)
      ∧ (∀ earlier : List (List UInt8),
          let framer := (({} : Framer).feedAll earlier).2
          framer.feedAll chunks = framer.feedAll others)
      ∧ (∀ session : Session,
          session.framer.Settled ∨ (chunks = [] ↔ others = [])
          → session.receiveAll chunks = session.receiveAll others
            ∧ session.queuedFrom chunks = session.queuedFrom others)
      ∧ ∀ (earlier : Session) (transport : Transport) (calls : List SessionCall),
          let session := (Exchange.after (earlier.start transport) calls).session
          session.receiveAll chunks = session.receiveAll others
          ∧ session.queuedFrom chunks = session.queuedFrom others := by
  have fed (framer : Framer) (given : framer.Settled ∨ (chunks = [] ↔ others = []))
      : framer.feedAll chunks = framer.feedAll others := by
    by_cases settled : framer.Settled
    · rw [Framer.feedAll_eq_feed (Or.inl settled), same,
        Framer.feedAll_eq_feed (Or.inl settled)]
    · have alike := given.resolve_left settled
      by_cases none : chunks = []
      · rw [none, alike.mp none]
      · rw [Framer.feedAll_eq_feed (Or.inr none), same,
          Framer.feedAll_eq_feed (Or.inr fun absent => none (alike.mpr absent))]
  have received (session : Session)
      (given : session.framer.Settled ∨ (chunks = [] ↔ others = []))
      : session.receiveAll chunks = session.receiveAll others
        ∧ session.queuedFrom chunks = session.queuedFrom others := by
    rw [receiveAll_eq, receiveAll_eq, queuedFrom_eq, queuedFrom_eq, fed session.framer given]
    exact ⟨rfl, rfl⟩
  have waits : ({} : Framer).Settled := rfl
  refine ⟨fed, fun earlier => fed _ (Or.inl (waits.feedAll earlier)), received,
    fun earlier transport calls => ?_⟩
  exact received _ (Or.inl (Exchange.after_settled earlier transport calls))

/-- A frame that is cut inside its header, with an empty chunk between. -/
theorem Session.receive_chunks_of_cut_header
    : let frame := Frame.encode [123, 125]
      let chunks := [frame.take 9, [], frame.drop 9]
      chunks.flatten = [frame].flatten
      ∧ ({} : Framer).feedAll chunks = ({} : Framer).feedAll [frame]
      ∧ ({} : Session).receiveAll chunks = ({} : Session).receiveAll [frame] := by
  intro frame chunks
  have same : chunks.flatten = [frame].flatten := by decide
  obtain ⟨fed, _, received, _⟩ := receive_chunks chunks [frame] same
  have waits : ({} : Framer).Settled := rfl
  exact ⟨same, fed {} (Or.inl waits), (received {} (Or.inl waits)).1⟩

end LanguageClient
