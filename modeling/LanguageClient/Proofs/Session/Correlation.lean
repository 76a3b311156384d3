import LanguageClient.Proofs.Json.Number
import LanguageClient.Proofs.Session.Exchange

/-! Replies belong to requests. A session knows its latest request only, so the method of a
reply is right because the ids of a streak have all been issued by one method.
-/

namespace LanguageClient

open Json (Value)

/-- Whether requests of a method go on waiting after a reply. -/
def SessionOptions.retains (options : SessionOptions) (method : Method) : Bool :=
  method.retains && options.retainCompletion

-----------------------------------------------------------------------------------------
-- The invariant
-----------------------------------------------------------------------------------------

/-- What is awaited is the latest request. Those of its streak have been issued by the same
method, and a request that is not retained has no reply yet.
-/
structure Awaited (options : SessionOptions) (run : Exchange) (pending : PendingRequest)
    : Prop where
  running : run.session.isRunning = true
  latest : pending.id + 1 = run.issued.length
  retain : pending.retain = options.retains pending.method
  firstId_le : pending.firstId ≤ pending.id
  streak
    : ∀ id,
        pending.firstId ≤ id
        → id ≤ pending.id
        → ({ id, method := pending.method } : RequestHandle) ∈ run.issued
  unanswered
    : pending.retain = false
      → { id := pending.id, method := pending.method } ∉ run.received.flatMap Receipt.replies

/-- A response that is awaited is about a request that has been issued by the awaited
method. Without a streak it is the latest one.
-/
theorem Awaited.issued_of_awaits {options : SessionOptions}
    {run : Exchange} {pending : PendingRequest} (awaited : Awaited options run pending) {id : Nat}
    (awaits : pending.awaits id = true)
    : ({ id, method := pending.method } : RequestHandle) ∈ run.issued
      ∧ (pending.retain = false → id = pending.id) := by
  simp only [PendingRequest.awaits, Bool.or_eq_true, Bool.and_eq_true, decide_eq_true_eq]
    at awaits
  rcases awaits with rfl | ⟨⟨⟨retain, above⟩, below⟩, _⟩
  · exact ⟨awaited.streak _ awaited.firstId_le (Nat.le_refl _), fun _ => rfl⟩
  · refine ⟨awaited.streak id above (Nat.le_of_lt below), ?_⟩
    intro alone
    exact absurd (retain.symm.trans alone) (by decide)

/-- The record and the session agree on what has been asked and answered. -/
structure Correlated (start : Session) (run : Exchange) : Prop where
  options : run.session.options = start.options
  numbered : run.issued.map RequestHandle.id = List.range run.issued.length
  counted : run.session.isRunning = true → run.session.nextId = run.issued.length
  written
    : ∃ sent,
        run.session.written = start.written ++ sent
        ∧ (run.issued.length ≤ 2 ^ 53
          → sent.filterMap Session.requestHead?
            = run.issued.map fun handle => (handle.id, handle.method.name))
  slot
    : ∀ pending,
        run.session.pending = some pending → Awaited start.options run pending
  answered
    : ∀ receipt ∈ run.received,
        ∀ handle ∈ receipt.replies,
          handle ∈ run.issued
          ∧ (start.options.retains handle.method = false → receipt.issued = handle.id + 1)
  once
    : ∀ handle : RequestHandle,
        start.options.retains handle.method = false
        → (run.received.flatMap Receipt.replies).count handle ≤ 1

namespace Correlated

variable {start : Session} {run : Exchange}

/-- Nothing has been asked or received before a session starts. -/
theorem initial (earlier : Session) (transport : Transport)
    : Correlated (earlier.start transport) { session := earlier.start transport } where
  options := rfl
  numbered := rfl
  counted := fun _ => rfl
  written := ⟨[], (List.append_nil _).symm, fun _ => rfl⟩
  slot := by intro pending slot; cases slot
  answered := by intro receipt received; cases received
  once := fun _ _ => Nat.zero_le 1

/-- The events that wait do not matter for what has been asked and answered. -/
theorem withEvents (correlated : Correlated start run) (events : List SessionEvent)
    : Correlated start { run with session := run.session.withEvents events } where
  options := correlated.options
  numbered := correlated.numbered
  counted := correlated.counted
  written := correlated.written
  slot := by
    intro pending slot
    obtain ⟨running, latest, retain, firstId_le, streak, unanswered⟩ :=
      correlated.slot pending slot
    exact ⟨running, latest, retain, firstId_le, streak, unanswered⟩
  answered := correlated.answered
  once := correlated.once

/-- Operations that ask for nothing keep what is awaited or give it up. -/
theorem quiet (correlated : Correlated start run) {after : Session}
    (quiet : Session.Quiet run.session after)
    : Correlated start { run with session := after } where
  options := quiet.options.trans correlated.options
  numbered := correlated.numbered
  counted := fun runs => (quiet.nextId runs).trans (correlated.counted (quiet.running runs))
  written := by
    obtain ⟨sent, frames, heads⟩ := correlated.written
    obtain ⟨more, frames', unasked⟩ := quiet.written
    refine ⟨sent ++ more, ?_, ?_⟩
    · rw [frames', frames, List.append_assoc]
    · intro few
      rw [List.filterMap_append, heads few, unasked, List.append_nil]
  slot := by
    intro pending slot
    rcases quiet.slot with givenUp | ⟨kept, running⟩
    · exact absurd (slot.symm.trans givenUp) nofun
    · have awaited := correlated.slot pending (kept.symm.trans slot)
      exact { awaited with running := running.trans awaited.running }
  answered := correlated.answered
  once := correlated.once

/-- All ids that have been issued are below the next one. -/
theorem id_lt_length (correlated : Correlated start run) {handle : RequestHandle}
    (issued : handle ∈ run.issued)
    : handle.id < run.issued.length := by
  have listed := List.mem_map_of_mem (f := RequestHandle.id) issued
  rw [correlated.numbered] at listed
  exact List.mem_range.mp listed

/-- Only requests that have been issued have replies. -/
theorem issued_of_replied (correlated : Correlated start run) {handle : RequestHandle}
    (replied : handle ∈ run.received.flatMap Receipt.replies)
    : handle ∈ run.issued := by
  obtain ⟨receipt, received, told⟩ := List.mem_flatMap.mp replied
  exact (correlated.answered receipt received handle told).1

/-- What is awaited after a request: the request on its own, which has no reply because its
id is new, or the streak before it with one request more.
-/
theorem awaited_nextPending (correlated : Correlated start run)
    (running : run.session.isRunning = true) (method : Method) {session : Session}
    (runs : session.isRunning = true)
    : Awaited start.options
        { run with
          session
          issued := run.issued ++ [{ id := run.session.nextId, method }] }
        (run.session.nextPending method) := by
  have counted := correlated.counted running
  have latest
      : run.session.nextId + 1
        = (run.issued ++ [({ id := run.session.nextId, method } : RequestHandle)]).length := by
    rw [List.length_append, ← counted, List.length_singleton]
  have newest
      : ({ id := run.session.nextId, method } : RequestHandle)
        ∈ run.issued ++ [{ id := run.session.nextId, method }] :=
    List.mem_append_right _ (List.mem_singleton_self _)
  have unanswered
      : ({ id := run.session.nextId, method } : RequestHandle)
        ∉ run.received.flatMap Receipt.replies := by
    intro replied
    have below := correlated.id_lt_length (correlated.issued_of_replied replied)
    exact absurd below (by rw [← counted]; exact Nat.lt_irrefl _)
  have retains
      : (method.retains && run.session.options.retainCompletion)
        = start.options.retains method := by
    rw [correlated.options, SessionOptions.retains]
  have alone
      : Awaited start.options
          { run with
            session
            issued := run.issued ++ [{ id := run.session.nextId, method }] }
          {
            id := run.session.nextId
            method
            retain := method.retains && run.session.options.retainCompletion
            firstId := run.session.nextId
            lastDelivered := none
          } := by
    refine ⟨runs, latest, retains, Nat.le_refl _, ?_, fun _ => unanswered⟩
    intro id above below
    rw [Nat.le_antisymm below above]
    exact newest
  unfold Session.nextPending
  dsimp only
  split
  · exact alone
  · rename_i previous slot
    split
    · rename_i goesOn
      simp only [Bool.and_eq_true, decide_eq_true_eq] at goesOn
      obtain ⟨⟨retain, _⟩, sameMethod⟩ := goesOn
      obtain ⟨_, previousLatest, _, ordered, streak, _⟩ := correlated.slot previous slot
      refine ⟨runs, latest, retains, ?_, ?_, ?_⟩
      · show previous.firstId ≤ run.session.nextId
        omega
      · intro id above below
        rcases Nat.lt_or_eq_of_le below with older | same
        · have old := streak id above (by
            change id < run.session.nextId at older
            omega)
          exact List.mem_append_left _ (sameMethod ▸ old)
        · rw [same]
          exact newest
      · intro unretained
        have retained : (method.retains && run.session.options.retainCompletion) = true := by
          simpa using retain
        exact absurd (retained.symm.trans unretained) (by decide)
    · exact alone

/-- A request gets the next id. It goes on with the streak before it or starts anew. -/
theorem issue (correlated : Correlated start run) (running : run.session.isRunning = true)
    (method : Method) (params : Value) (transport : Transport)
    : Correlated start
        { run with
          session :=
            (run.session.asking method).delivered transport
              (Session.requestMessage run.session.nextId method params)
          issued := run.issued ++ [{ id := run.session.nextId, method }] } where
  options := correlated.options
  numbered := by
    rw [List.map_append, correlated.numbered, List.length_append, List.length_singleton,
      List.range_succ, correlated.counted running]
    rfl
  counted := by
    intro _
    rw [List.length_append, ← correlated.counted running]
    rfl
  written := by
    obtain ⟨sent, frames, heads⟩ := correlated.written
    refine ⟨sent ++ [Session.requestMessage run.session.nextId method params], ?_, ?_⟩
    · simp only [Session.delivered, Session.asking, frames, List.append_assoc]
    · intro few
      rw [List.length_append, List.length_singleton] at few
      have small : run.session.nextId ≤ 2 ^ 53 := by
        have counted := correlated.counted running
        omega
      have head
          : Session.requestHead? (Session.requestMessage run.session.nextId method params)
            = some (run.session.nextId, method.name) := by
        rw [Session.requestHead?, Session.requestMessage_id, Session.requestMessage_method,
          Option.bind_some, Value.asNat?_ofNat small]
      rw [List.filterMap_append, heads (by omega), List.map_append,
        List.filterMap_cons_some head, List.filterMap_nil]
      rfl
  slot := by
    intro pending slot
    obtain rfl : run.session.nextPending method = pending := Option.some.inj slot
    exact correlated.awaited_nextPending running method rfl
  answered := by
    intro receipt received handle replied
    obtain ⟨issued, alone⟩ := correlated.answered receipt received handle replied
    exact ⟨List.mem_append_left _ issued, alone⟩
  once := correlated.once

-----------------------------------------------------------------------------------------
-- Received messages
-----------------------------------------------------------------------------------------

/-- A message without a reply changes the record of what has been received only. -/
theorem pass (correlated : Correlated start run) {receipt : Receipt}
    (nothing : receipt.replies = [])
    : Correlated start { run with received := run.received ++ [receipt] } := by
  have same
      : (run.received ++ [receipt]).flatMap Receipt.replies
        = run.received.flatMap Receipt.replies := by
    simp [nothing]
  refine { correlated with slot := ?_, answered := ?_, once := ?_ }
  · intro pending slot
    have awaited := correlated.slot pending slot
    exact { awaited with unanswered := fun alone => same ▸ awaited.unanswered alone }
  · intro other received handle replied
    rcases List.mem_append.mp received with earlier | last
    · exact correlated.answered other earlier handle replied
    · rw [List.mem_singleton.mp last, nothing] at replied
      cases replied
  · intro handle alone
    rw [same]
    exact correlated.once handle alone

/-- A response to an awaited request replies to it at most once: unless the request is
retained, nothing is awaited afterwards.
-/
theorem respond (correlated : Correlated start run) {pending : PendingRequest} {id : Nat}
    {receipt : Receipt} (slot : run.session.pending = some pending)
    (awaits : pending.awaits id = true) (arrived : receipt.issued = run.issued.length)
    (replies
      : receipt.replies = [] ∨ receipt.replies = [{ id, method := pending.method }])
    : Correlated start
        { run with
          session := { run.session with pending := pending.afterResponse id }
          received := run.received ++ [receipt] } := by
  have awaited := correlated.slot pending slot
  obtain ⟨issued, alone⟩ := awaited.issued_of_awaits awaits
  have reply : ∀ handle ∈ receipt.replies, handle = { id, method := pending.method } := by
    intro handle replied
    rcases replies with nothing | one
    · rw [nothing] at replied
      cases replied
    · rw [one] at replied
      exact List.mem_singleton.mp replied
  refine { correlated with slot := ?_, answered := ?_, once := ?_ }
  · intro next kept
    unfold PendingRequest.afterResponse at kept
    split at kept
    · rename_i retain
      obtain rfl := Option.some.inj kept
      exact
        { awaited with
          unanswered := fun unretained => absurd (retain.symm.trans unretained) (by decide) }
    · cases kept
  · intro other received handle replied
    rcases List.mem_append.mp received with earlier | last
    · exact correlated.answered other earlier handle replied
    · rw [List.mem_singleton.mp last] at replied ⊢
      rw [reply handle replied]
      refine ⟨issued, ?_⟩
      intro unretained
      have latest := alone (awaited.retain.trans unretained)
      rw [arrived, ← awaited.latest, latest]
  · intro handle unretained
    rw [List.flatMap_append, List.count_append, List.flatMap_singleton]
    rcases replies with nothing | one
    · rw [nothing, List.count_nil]
      exact correlated.once handle unretained
    · rw [one]
      by_cases same : handle = { id, method := pending.method }
      · have retain : pending.retain = false := by
          rw [awaited.retain]
          rw [same] at unretained
          exact unretained
        have fresh : handle ∉ run.received.flatMap Receipt.replies := by
          rw [same, alone retain]
          exact awaited.unanswered retain
        rw [List.count_eq_zero_of_not_mem fresh, Nat.zero_add]
        exact List.count_le_length
      · have other : handle ∉ [({ id, method := pending.method } : RequestHandle)] :=
          fun member => same (List.mem_singleton.mp member)
        rw [List.count_eq_zero_of_not_mem other]
        exact correlated.once handle unretained

/-- The replies among the events of one message: none, or the one that is queued. -/
theorem replies_of_waitingAfter (capacity : Nat) (queued : Option SessionEvent)
    : (Session.waitingAfter capacity [] queued).filterMap SessionEvent.replyHandle? = []
      ∨ ∃ handle reply,
          queued = some (.reply handle reply)
          ∧ (Session.waitingAfter capacity [] queued).filterMap SessionEvent.replyHandle?
            = [handle] := by
  cases queued with
  | none => exact Or.inl rfl
  | some event =>
      unfold Session.waitingAfter
      dsimp only
      split
      · exact Or.inl rfl
      · have alone
            : (if ([] : List SessionEvent).length = capacity then
                  ([] : List SessionEvent).drop 1 ++ [event]
                else
                  [] ++ [event])
              = [event] := by
          split <;> rfl
        rw [alone]
        cases event with
        | reply handle reply => exact Or.inr ⟨handle, reply, rfl, rfl⟩
        | initialized info => exact Or.inl rfl
        | diagnostics publication => exact Or.inl rfl
        | shown notice => exact Or.inl rfl
        | logged notice => exact Or.inl rfl

/-- The event of a reply is about its request. -/
theorem handle_of_event {reply told : Reply} {handle other : RequestHandle}
    (same : reply.event handle = .reply other told)
    : other = handle := by
  cases reply with
  | handshake info => cases same
  | completion _ => exact (SessionEvent.reply.inj same).1.symm
  | formatting _ => exact (SessionEvent.reply.inj same).1.symm
  | definition _ => exact (SessionEvent.reply.inj same).1.symm
  | references _ => exact (SessionEvent.reply.inj same).1.symm
  | shutdown => exact (SessionEvent.reply.inj same).1.symm
  | other _ => exact (SessionEvent.reply.inj same).1.symm
  | error _ => exact (SessionEvent.reply.inj same).1.symm

/-- Any message keeps the record right. -/
theorem take (correlated : Correlated start run) (message : Value)
    : Correlated start (run.take message) := by
  obtain ⟨after, queued, reacts, outcome⟩ := run.session.handleMessage_reacts message
  obtain ⟨whole, events⟩ := Session.handleMessage_of_reacts reacts
  have told := replies_of_waitingAfter run.session.options.eventCapacity queued
  rw [← events] at told
  unfold Exchange.take
  rw [whole]
  rcases outcome with ⟨quiet, unanswered⟩ | ⟨pending, id, slot, awaits, quiet, replied⟩
  · have nothing
        : Receipt.replies
            { issued := run.issued.length, session := run.session, message } = [] := by
      rcases told with nothing | ⟨handle, reply, same, _⟩
      · exact nothing
      · exact absurd same (unanswered handle reply)
    exact ((correlated.pass nothing).quiet quiet).withEvents _
  · have replies
        : Receipt.replies { issued := run.issued.length, session := run.session, message } = []
          ∨ Receipt.replies { issued := run.issued.length, session := run.session, message }
            = [{ id, method := pending.method }] := by
      rcases told with nothing | ⟨handle, reply, same, one⟩
      · exact Or.inl nothing
      · rcases replied with none | ⟨answer, event⟩
        · exact absurd (same.symm.trans none) nofun
        · have about := handle_of_event (Option.some.inj (event.symm.trans same))
          exact Or.inr (about ▸ one)
    exact ((correlated.respond slot awaits rfl replies).quiet quiet).withEvents _

-----------------------------------------------------------------------------------------
-- Runs
-----------------------------------------------------------------------------------------

/-- Messages keep the record right one after another, by induction on them. -/
theorem takeAll (correlated : Correlated start run) (messages : List Value)
    : Correlated start (messages.foldl Exchange.take run) := by
  induction messages generalizing run with
  | nil => exact correlated
  | cons message rest ih => exact ih (correlated.take message)

/-- One call keeps the record right: bytes are received, and any other call asks for
nothing or issues one request.
-/
theorem step (correlated : Correlated start run) (call : SessionCall)
    : Correlated start (run.step call) := by
  unfold Exchange.step
  split
  · rename_i chunk
    have framed
        : Correlated start
            { run with
              session := { run.session with framer := (run.session.framer.feed chunk).2 } } :=
      correlated.quiet (Session.Quiet.of_eq rfl rfl rfl rfl rfl rfl)
    exact framed.takeAll _
  · rename_i silent
    rcases call.run_cases run.session silent with
      ⟨nothing, quiet⟩ | ⟨running, method, params, transport, one, _, sent⟩
    · rw [nothing, List.append_nil]
      exact correlated.quiet quiet
    · rw [one, sent]
      exact correlated.issue running method params transport

/-- Every run that follows a start, by induction on its calls. -/
theorem after (earlier : Session) (transport : Transport) (calls : List SessionCall)
    : Correlated (earlier.start transport)
        (Exchange.after (earlier.start transport) calls) := by
  suffices from_run
      : ∀ run,
          Correlated (earlier.start transport) run
          → Correlated (earlier.start transport) (calls.foldl Exchange.step run) from
    from_run _ (initial earlier transport)
  induction calls with
  | nil => exact fun run correlated => correlated
  | cons call rest ih => exact fun run correlated => ih (run.step call) (correlated.step call)

end Correlated

namespace Exchange

/-- The events that wait are the latest ones that have been queued. -/
def Waiting (run : Exchange) : Prop :=
  run.session.events <:+ run.received.flatMap Receipt.queued

theorem Waiting.take {run : Exchange} (waiting : run.Waiting) (message : Value)
    : (run.take message).Waiting := by
  obtain ⟨after, queued, reacts, _⟩ := run.session.handleMessage_reacts message
  obtain ⟨whole, events⟩ := Session.handleMessage_of_reacts reacts
  unfold Waiting Exchange.take
  rw [whole, List.flatMap_append, List.flatMap_singleton, Receipt.queued, events]
  exact Session.waitingAfter_suffix _ queued waiting

theorem Waiting.takeAll {run : Exchange} (waiting : run.Waiting) (messages : List Value)
    : (messages.foldl Exchange.take run).Waiting := by
  induction messages generalizing run with
  | nil => exact waiting
  | cons message rest ih => exact ih (waiting.take message)

theorem Waiting.step {run : Exchange} (waiting : run.Waiting) (call : SessionCall)
    : (run.step call).Waiting := by
  unfold Exchange.step
  split
  · rename_i chunk
    have framed
        : Waiting
            { run with
              session := { run.session with framer := (run.session.framer.feed chunk).2 } } :=
      waiting
    exact framed.takeAll _
  · rename_i silent
    rcases call.run_cases run.session silent with
      ⟨_, quiet⟩ | ⟨_, method, params, transport, _, _, sent⟩
    · exact quiet.events.trans waiting
    · rw [sent]
      exact waiting

theorem Waiting.after (earlier : Session) (transport : Transport) (calls : List SessionCall)
    : (Exchange.after (earlier.start transport) calls).Waiting := by
  suffices from_run : ∀ run : Exchange, run.Waiting → (calls.foldl Exchange.step run).Waiting from
    from_run { session := earlier.start transport } List.suffix_rfl
  induction calls with
  | nil => exact fun run waiting => waiting
  | cons call rest ih => exact fun run waiting => ih (run.step call) (waiting.step call)

end Exchange

-----------------------------------------------------------------------------------------
-- Requests and their replies
-----------------------------------------------------------------------------------------

/-- Only a result of the handshake is read as one. -/
theorem Session.replyOf_eq_handshake_iff {method : Method} {response : Response}
    {reply : Reply} (decoded : replyOf method response = .ok reply)
    : (∃ info, reply = .handshake info)
      ↔ method = .handshake ∧ ∃ result, response.outcome = .ok result := by
  rcases replyOf_cases decoded with ⟨reason, refused, rfl⟩ | ⟨read, kind⟩
  · simp [refused]
  · cases kind with
    | handshake info => exact ⟨fun _ => ⟨rfl, read⟩, fun _ => ⟨info, rfl⟩⟩
    | completion _ | formatting _ | definition _ | references _ | shutdown | other _ _ => simp

/-- Along every run the requests are numbered from zero, and the messages that have gone out
show them so. Every reply that is queued is about a request that has been issued, by its own
method; a request that is not retained has one reply at most, and none after a later
request. In return, a readable response to the latest request leads to exactly one event.
-/
theorem Session.replies_correlate (earlier : Session) (transport : Transport)
    (calls : List SessionCall)
    : let run := Exchange.after (earlier.start transport) calls
      run.session
          = calls.foldl (fun session call => (call.run session).2) (earlier.start transport)
      ∧ run.issued.map RequestHandle.id = List.range run.issued.length
      ∧ (∃ sent,
          run.session.written = earlier.written ++ sent
          ∧ (run.issued.length ≤ 2 ^ 53
            → sent.filterMap requestHead?
              = run.issued.map fun handle => (handle.id, handle.method.name)))
      ∧ run.session.events <:+ run.received.flatMap Receipt.queued
      ∧ (∀ receipt ∈ run.received,
          ∀ handle ∈ receipt.replies,
            handle ∈ run.issued
            ∧ (earlier.options.retains handle.method = false
              → receipt.issued = handle.id + 1))
      ∧ (∀ handle : RequestHandle,
          earlier.options.retains handle.method = false
          → (run.received.flatMap Receipt.replies).count handle ≤ 1)
      ∧ ∀ receipt ∈ run.received,
          ∀ pending response reply,
            receipt.session.pending = some pending
            → Incoming.ofValue receipt.message = .ok (.response response)
            → response.id = pending.id
            → replyOf pending.method response = .ok reply
            → 0 < receipt.session.options.eventCapacity
            → receipt.after.isRunning = true
            → receipt.queued
                = [reply.event { id := pending.id, method := pending.method }]
              ∧ ((∃ info, reply = .handshake info)
                ↔ pending.method = .handshake ∧ ∃ result, response.outcome = .ok result) := by
  intro run
  have correlated := Correlated.after earlier transport calls
  refine ⟨Exchange.after_session _ calls, correlated.numbered, correlated.written,
    Exchange.Waiting.after earlier transport calls, correlated.answered, correlated.once, ?_⟩
  intro receipt _ pending response reply slot read same decoded room running
  exact ⟨queuedBy_of_response slot read same decoded room running,
    replyOf_eq_handshake_iff decoded⟩

end LanguageClient
