import LanguageClient.Proofs.Frame.Noise
import LanguageClient.Proofs.Session.Chunks

/-! Messages that are dropped. Most of them leave no trace at all. The exception is a response
that is awaited and cannot be read: what it answers is no longer awaited afterwards, though
nobody has got a reply.
-/

namespace LanguageClient.Session

open Json (Value)

-----------------------------------------------------------------------------------------
-- Errors of sending
-----------------------------------------------------------------------------------------

/-- That a message does not go out is never passed over. -/
theorem send_error {session after : Session} {message : Value} {error : ClientError}
    (outcome : session.send message = (.error error, after))
    : error.isIgnorable = false := by
  rcases session.send_cases message with
    ⟨_, same⟩ | ⟨_, reason, same⟩ | ⟨_, transport, same⟩
  · rw [outcome] at same
    obtain ⟨rfl⟩ := (Prod.mk.inj same).1
    rfl
  · rw [outcome] at same
    obtain ⟨rfl⟩ := (Prod.mk.inj same).1
    rfl
  · rw [outcome] at same
    cases (Prod.mk.inj same).1

/-- Opens end with the first one that does not go out, by induction on them. -/
theorem sendOpens_error {session after : Session} {error : ClientError}
    {opened : List (String × OpenDocument × String)}
    (outcome : session.sendOpens opened = (.error error, after))
    : error.isIgnorable = false := by
  induction opened generalizing session with
  | nil => cases (Prod.mk.inj outcome).1
  | cons first rest ih =>
      obtain ⟨uri, document, text⟩ := first
      unfold sendOpens at outcome
      split at outcome
      · exact ih outcome
      · rename_i told
        obtain ⟨same, _⟩ := Prod.mk.inj outcome
        obtain rfl := Except.error.inj same
        exact send_error told

/-- A reply that has been read is not passed over: only sending can go wrong with it. -/
theorem handleReply_error {session after : Session} {handle : RequestHandle} {reply : Reply}
    {error : ClientError} (outcome : session.handleReply handle reply = (.error error, after))
    : error.isIgnorable = false := by
  cases reply with
  | shutdown => exact send_error outcome
  | completion _ | formatting _ | definition _ | references _ | other _ | error _ =>
      cases (Prod.mk.inj outcome).1
  | handshake info =>
      unfold handleReply finishHandshake at outcome
      dsimp only at outcome
      split at outcome
      · rename_i greeting
        obtain ⟨same, _⟩ := Prod.mk.inj outcome
        obtain rfl := Except.error.inj same
        exact send_error greeting
      · split at outcome
        · rename_i flushing
          obtain ⟨same, _⟩ := Prod.mk.inj outcome
          obtain rfl := Except.error.inj same
          exact sendOpens_error flushing
        · cases (Prod.mk.inj outcome).1

-----------------------------------------------------------------------------------------
-- Responses that cannot be read
-----------------------------------------------------------------------------------------

/-- A message is a response that is awaited, but it cannot be read as a reply. -/
structure Misreads (session : Session) (message : Value) (pending : PendingRequest)
    (response : Response) : Prop where
  slot : session.pending = some pending
  read : Incoming.ofValue message = .ok (.response response)
  awaited : pending.awaits response.id = true
  unreadable : ∃ error, replyOf pending.method response = .error error

/-- A response that cannot be read counts as an answer, and that is all. -/
theorem Misreads.handleMessage_eq {session : Session} {message : Value}
    {pending : PendingRequest} {response : Response}
    (misreads : session.Misreads message pending response)
    : (session.handleMessage message).2
      = { session with pending := pending.afterResponse response.id } := by
  obtain ⟨slot, read, awaited, error, unreadable⟩ := misreads
  have handled := handleResponse_awaited slot awaited
  rw [unreadable] at handled
  simp only [handleMessage, read, handleIncoming, handled]

/-- A dropped message changes nothing, or it is a response that cannot be read. -/
theorem handleMessage_ignorable {session after : Session} {message : Value}
    {error : ClientError} (dropped : session.handleMessage message = (.error error, after))
    (ignorable : error.isIgnorable = true)
    : after = session ∨ ∃ pending response, session.Misreads message pending response := by
  have sent {failed : ClientError} (same : failed = error) (counts : failed.isIgnorable = false)
      : False := by
    rw [same, ignorable] at counts
    cases counts
  unfold handleMessage at dropped
  cases read : Incoming.ofValue message with
  | error cause =>
      rw [read] at dropped
      exact Or.inl (Prod.mk.inj dropped).2.symm
  | ok incoming =>
      rw [read] at dropped
      cases incoming with
      | request request => exact (sent rfl (send_error dropped)).elim
      | notification method params =>
          dsimp only [handleIncoming] at dropped
          cases understood : Notification.ofMethod method params with
          | error cause =>
              rw [understood] at dropped
              exact Or.inl (Prod.mk.inj dropped).2.symm
          | ok notification =>
              rw [understood] at dropped
              cases notification <;> cases (Prod.mk.inj dropped).1
      | response response =>
          dsimp only [handleIncoming, handleResponse] at dropped
          cases slot : session.pending with
          | none =>
              rw [slot] at dropped
              exact Or.inl (Prod.mk.inj dropped).2.symm
          | some pending =>
              simp only [slot] at dropped
              cases awaited : pending.awaits response.id with
              | false =>
                  rw [awaited] at dropped
                  exact Or.inl (Prod.mk.inj dropped).2.symm
              | true =>
                  rw [awaited, if_pos rfl] at dropped
                  cases decoded : replyOf pending.method response with
                  | error cause =>
                      exact Or.inr ⟨pending, response, slot, read, awaited, cause, decoded⟩
                  | ok reply =>
                      rw [decoded] at dropped
                      exact (sent rfl (handleReply_error dropped)).elim

end LanguageClient.Session

namespace LanguageClient

open Json (Value)

/-- An answer leaves what is awaited as it is only if it repeats the latest one of a streak. -/
theorem PendingRequest.afterResponse_eq_iff (pending : PendingRequest) (id : Nat)
    : pending.afterResponse id = some pending
      ↔ pending.retain = true ∧ pending.lastDelivered = some id := by
  unfold afterResponse
  cases retain : pending.retain with
  | false => simp
  | true =>
      simp only [if_true, Option.some.injEq, true_and]
      constructor
      · exact fun same => (congrArg lastDelivered same).symm
      · intro last
        rw [← retain, ← last]

-----------------------------------------------------------------------------------------
-- Streams
-----------------------------------------------------------------------------------------

/-- A frame in front of other bytes gives its message, if it has one. -/
theorem Framer.feed_frame {body : List UInt8} (counted : body.length ≤ Frame.lengthLimit)
    (rest : List UInt8)
    : ({} : Framer).feed (Frame.encode body ++ rest)
      = (
          (Value.readBytes body).toOption.toList ++ (({} : Framer).feed rest).1,
          (({} : Framer).feed rest).2
        ) := by
  have taken := nextBody_frame (show Frame.Stray [] by decide) counted rest
  have bodies
      : ({} : Framer).feedBodies (Frame.encode body ++ rest)
        = (
            body :: (({} : Framer).feedBodies rest).1,
            (({} : Framer).feedBodies rest).2
          ) := by
    rw [feedBodies_eq]
    dsimp only
    rw [List.nil_append] at taken ⊢
    rw [taken]
    exact congrArg (fun fed : List (List UInt8) × Framer => (body :: fed.1, fed.2))
      (feedBodies_buffer {} rest).symm
  rw [feed, feed, bodies]
  dsimp only
  cases read : Value.readBytes body <;> simp [read, Except.toOption]

namespace Session

/-- Bytes in two chunks are received like one chunk. -/
theorem receive_append (session : Session) (first second : List UInt8)
    : session.receive (first ++ second) = (session.receive first).receive second := by
  have fed : session.framer.feedAll [first, second] = session.framer.feed [first, second].flatten :=
    Framer.feedAll_eq_feed (Or.inr nofun)
  rw [List.flatten_cons, List.flatten_singleton] at fed
  rw [receive_eq, ← fed, ← receiveAll_eq]
  rfl

/-- The frame of a message is received as the message. -/
theorem receive_frame {session : Session} {body : List UInt8} {message : Value}
    (empty : session.framer = {}) (counted : body.length ≤ Frame.lengthLimit)
    (read : Value.readBytes body = .ok message) (rest : List UInt8)
    : session.receive (Frame.encode body ++ rest)
      = ((session.handleMessage message).2.withFramer {}).receive rest := by
  rw [receive_eq, receive_eq, empty, Framer.feed_frame counted, read,
    handleMessages_withFramer]
  rfl

/-- A dropped message can only change what is awaited, and only as a response that is awaited
and cannot be read: it takes the place of the reply that has not come. Any other dropped
message could as well be missing from the stream.
-/
theorem handleMessage_dropped {session after : Session} {message : Value}
    {error : ClientError} (dropped : session.handleMessage message = (.error error, after))
    (ignorable : error.isIgnorable = true)
    : after = { session with pending := after.pending }
      ∧ (after.pending ≠ session.pending
        ↔ ∃ pending response,
            session.Misreads message pending response
            ∧ ¬(pending.retain = true ∧ pending.lastDelivered = some response.id))
      ∧ (∀ pending response,
          session.Misreads message pending response
          → after.pending = pending.afterResponse response.id)
      ∧ (after.pending = session.pending
        → after = session
          ∧ ∀ (earlier : Session) (front body back : List UInt8),
              earlier.receive front = session
              → session.framer = {}
              → body.length ≤ Frame.lengthLimit
              → Value.readBytes body = .ok message
              → earlier.receive (front ++ Frame.encode body ++ back)
                = earlier.receive (front ++ back)) := by
  have outcome : (session.handleMessage message).2 = after := by rw [dropped]
  have misread (pending : PendingRequest) (response : Response)
      (misreads : session.Misreads message pending response)
      : after = { session with pending := pending.afterResponse response.id } :=
    outcome.symm.trans misreads.handleMessage_eq
  have slotOnly : after = { session with pending := after.pending } := by
    rcases handleMessage_ignorable dropped ignorable with
      unchanged | ⟨pending, response, misreads⟩
    · rw [unchanged]
    · rw [misread pending response misreads]
  refine ⟨slotOnly, ?_, fun pending response misreads => ?_, fun same => ?_⟩
  · constructor
    · intro changed
      rcases handleMessage_ignorable dropped ignorable with
        unchanged | ⟨pending, response, misreads⟩
      · exact absurd (congrArg Session.pending unchanged) changed
      · refine ⟨pending, response, misreads, fun repeated => changed ?_⟩
        rw [misread pending response misreads, misreads.slot]
        exact (pending.afterResponse_eq_iff response.id).mpr repeated
    · rintro ⟨pending, response, misreads, news⟩ same
      rw [misread pending response misreads, misreads.slot] at same
      exact news ((pending.afterResponse_eq_iff response.id).mp same)
  · rw [misread pending response misreads]
  · have unchanged : after = session := by rw [slotOnly, same]
    refine ⟨unchanged, fun earlier front body back arrived empty counted read => ?_⟩
    have framed : session.withFramer {} = session := by rw [← empty]; rfl
    rw [List.append_assoc, earlier.receive_append front, earlier.receive_append front, arrived,
      receive_frame empty counted read, outcome, unchanged, framed]

-----------------------------------------------------------------------------------------
-- Two completion requests
-----------------------------------------------------------------------------------------

/-- A session that awaits two completion requests in a row. -/
def askedTwice : Session :=
  (Exchange.after (({} : Session).start {})
    [.request .completion .null, .request .completion .null]).session

/-- A response to a request that has never been sent changes nothing. -/
theorem handleMessage_dropped_of_stale
    : let stale := resultMessage (.ofNat 7) .null
      askedTwice.handleMessage stale = (.error (.staleResponse 7 1), askedTwice)
      ∧ (ClientError.staleResponse 7 1).isIgnorable = true
      ∧ ∀ pending response,
          askedTwice.Misreads stale pending response
          → askedTwice.pending = pending.afterResponse response.id := by
  intro stale
  have dropped : askedTwice.handleMessage stale = (.error (.staleResponse 7 1), askedTwice) := by
    rw [handleMessage_resultMessage askedTwice (by decide)]
    rfl
  exact ⟨dropped, rfl, (handleMessage_dropped dropped rfl).2.2.1⟩

/-- The response to the second request cannot be read, and it is dropped. Without it the
response to the first request, which can be read, is replied to; after it that one is dropped,
too.
-/
theorem misread_response_stops_earlier_one
    : let misread := resultMessage (.ofNat 1) (.boolean true)
      let readable := resultMessage (.ofNat 0) (.array [])
      (∃ cause, (askedTwice.handleMessage misread).1 = .error (.shape cause))
      ∧ askedTwice.pending.map (·.lastDelivered) = some none
      ∧ (askedTwice.handleMessage misread).2.pending.map (·.lastDelivered) = some (some 1)
      ∧ (askedTwice.handleMessages [readable]).events.filterMap SessionEvent.replyHandle?
        = [{ id := 0, method := .completion }]
      ∧ (askedTwice.handleMessages [misread, readable]).events.filterMap
          SessionEvent.replyHandle?
        = [] := by
  intro misread readable
  have first (session : Session)
      : session.handleMessage misread
        = session.handleResponse { id := 1, outcome := .ok (.boolean true) } :=
    handleMessage_resultMessage session (by decide) _
  have second (session : Session)
      : session.handleMessage readable
        = session.handleResponse { id := 0, outcome := .ok (.array []) } :=
    handleMessage_resultMessage session (by decide) _
  simp only [handleMessages, List.foldl_cons, List.foldl_nil, first, second]
  refine ⟨⟨_, rfl⟩, ?_⟩
  decide +kernel

end Session

end LanguageClient
