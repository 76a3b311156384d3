import LanguageClient.Proofs.Session.AwaitedFormatting
import LanguageClient.Proofs.Session.Independence

/-! The completion requests that may still be replied to. Whatever arrives, these are requests
that have been sent, and a session awaits no other than its latest one and those of its streak.
-/

namespace LanguageClient

open Json (Value)

/-- After a response nothing is awaited that has not been awaited before. -/
theorem PendingRequest.awaits_of_afterResponse {pending next : PendingRequest}
    {answered id : Nat} (awaited : pending.awaits answered = true)
    (kept : pending.afterResponse answered = some next) (awaits : next.awaits id = true)
    : pending.awaits id = true := by
  unfold afterResponse at kept
  split at kept
  · obtain rfl := Option.some.inj kept
    simp only [PendingRequest.awaits, Bool.or_eq_true, Bool.and_eq_true, decide_eq_true_eq,
      Option.all_some] at awaited awaits ⊢
    rcases awaits with latest | ⟨⟨within, below⟩, after⟩
    · exact Or.inl latest
    · refine Or.inr ⟨⟨within, below⟩, ?_⟩
      rcases awaited with rfl | ⟨_, before⟩
      · omega
      · cases last : pending.lastDelivered with
        | none => rfl
        | some delivered =>
            rw [last, Option.all_some, decide_eq_true_eq] at before
            rw [Option.all_some, decide_eq_true_eq]
            exact before.trans after
  · cases kept

/-- The event of candidates is their reply. -/
theorem Reply.event_eq_completion {handle told : RequestHandle} {reply : Reply}
    {candidates : List Candidate}
    (event : reply.event handle = .reply told (.completion candidates))
    : told = handle ∧ reply = .completion candidates := by
  cases reply with
  | handshake info => cases event
  | completion _ =>
      obtain ⟨rfl, same⟩ := SessionEvent.reply.inj event
      exact ⟨rfl, same⟩
  | formatting _ | definition _ | references _ | shutdown | other _ | error _ =>
      cases (SessionEvent.reply.inj event).2

namespace Session

/-- Only a response to a completion request is read as candidates. -/
theorem replyOf_candidates {method : Method} {response : Response}
    {candidates : List Candidate}
    (decoded : replyOf method response = .ok (.completion candidates))
    : method = .completion := by
  rcases replyOf_cases decoded with ⟨_, _, other⟩ | ⟨_, kind⟩
  · cases other
  · cases kind with
    | completion _ => rfl

-----------------------------------------------------------------------------------------
-- The latest request
-----------------------------------------------------------------------------------------

/-- What is awaited is the latest request, and there is a server that may reply to it. -/
def AwaitsLatest (session : Session) : Prop :=
  ∀ pending,
    session.pending = some pending
    → session.isRunning = true ∧ pending.id + 1 = session.nextId

theorem awaitsLatest_of_none {session : Session} (none : session.pending = none)
    : session.AwaitsLatest :=
  fun _ slot => absurd (slot.symm.trans none) nofun

theorem AwaitsLatest.quiet {before after : Session} (latest : before.AwaitsLatest)
    (quiet : Quiet before after)
    : after.AwaitsLatest := by
  intro pending slot
  rcases quiet.slot with none | ⟨same, running⟩
  · exact absurd (slot.symm.trans none) nofun
  · obtain ⟨runs, last⟩ := latest pending (same.symm.trans slot)
    have still := running.trans runs
    exact ⟨still, last.trans (quiet.nextId still).symm⟩

/-- A request that goes out is the latest one. -/
theorem awaitsLatest_of_asking (session : Session) (method : Method) (transport : Transport)
    (message : Value)
    : ((session.asking method).delivered transport message).AwaitsLatest := by
  intro pending slot
  obtain rfl : session.nextPending method = pending := Option.some.inj slot
  exact ⟨rfl, congrArg (· + 1) (session.nextPending_spec method).1⟩

/-- A request that goes on waiting after a reply is one for completions. -/
theorem nextPending_unretained (session : Session) {method : Method}
    (other : method ≠ .completion)
    : (session.nextPending method).retain = false := by
  rw [(session.nextPending_spec method).2.2, SessionOptions.retains, Method.retains,
    decide_eq_false other, Bool.false_and]

theorem AwaitsLatest.handleMessage {session : Session} (latest : session.AwaitsLatest)
    (message : Value)
    : (session.handleMessage message).2.AwaitsLatest := by
  obtain ⟨after, queued, reacts, outcome⟩ := session.handleMessage_reacts message
  rw [(handleMessage_of_reacts reacts).1]
  have kept : after.AwaitsLatest := by
    rcases outcome with ⟨quiet, _⟩ | ⟨pending, id, slot, _, quiet, _⟩
    · exact latest.quiet quiet
    · refine AwaitsLatest.quiet ?_ quiet
      intro next answered
      dsimp only [PendingRequest.afterResponse] at answered
      split at answered
      · obtain rfl := Option.some.inj answered
        exact latest pending slot
      · cases answered
  exact kept

/-- A completion request goes on with the requests that are awaited, or starts afresh. -/
theorem AwaitsLatest.awaits_nextPending {session : Session} (latest : session.AwaitsLatest)
    {method : Method} {id : Nat} (awaits : (session.nextPending method).awaits id = true)
    : id = session.nextId
      ∨ ∃ previous,
          session.pending = some previous
          ∧ previous.method = method
          ∧ previous.awaits id = true := by
  have alone {retain : Bool} {lastDelivered : Option Nat}
      (awaits
        : PendingRequest.awaits
            { id := session.nextId, method, retain, firstId := session.nextId, lastDelivered } id
          = true)
      : id = session.nextId := by
    simp only [PendingRequest.awaits, Bool.or_eq_true, Bool.and_eq_true, decide_eq_true_eq]
      at awaits
    omega
  unfold nextPending at awaits
  dsimp only at awaits
  split at awaits
  · exact Or.inl (alone awaits)
  · rename_i previous slot
    split at awaits
    · rename_i goesOn
      simp only [Bool.and_eq_true, decide_eq_true_eq] at goesOn
      have last := (latest previous slot).2
      simp only [PendingRequest.awaits, Bool.or_eq_true, Bool.and_eq_true, decide_eq_true_eq]
        at awaits
      rcases awaits with new | ⟨⟨⟨_, above⟩, below⟩, after⟩
      · exact Or.inl new
      · refine Or.inr ⟨previous, slot, goesOn.2, ?_⟩
        simp only [PendingRequest.awaits, goesOn.1.2, above, after, Bool.or_eq_true,
          Bool.and_eq_true, decide_eq_true_eq, and_true, true_and]
        omega
    · exact Or.inl (alone awaits)

-----------------------------------------------------------------------------------------
-- Known requests
-----------------------------------------------------------------------------------------

/-- Candidates are awaited and wait for known requests only. -/
structure CompletionsFrom (known : Nat → Prop) (session : Session) : Prop where
  awaited
    : ∀ pending id,
        session.pending = some pending
        → pending.method = .completion
        → pending.awaits id = true
        → known id
  events
    : ∀ handle candidates,
        .reply handle (.completion candidates) ∈ session.events → known handle.id

namespace CompletionsFrom

variable {known : Nat → Prop} {session : Session}

theorem mono (completions : CompletionsFrom known session) {more : Nat → Prop}
    (known_more : ∀ id, known id → more id)
    : CompletionsFrom more session where
  awaited := fun pending id slot method awaits =>
    known_more id (completions.awaited pending id slot method awaits)
  events := fun handle candidates waits =>
    known_more handle.id (completions.events handle candidates waits)

theorem quiet (completions : CompletionsFrom known session) {after : Session}
    (quiet : Quiet session after)
    : CompletionsFrom known after where
  awaited := by
    intro pending id slot
    rcases quiet.slot with none | ⟨same, _⟩
    · exact absurd (slot.symm.trans none) nofun
    · exact completions.awaited pending id (same.symm.trans slot)
  events := fun handle candidates waits =>
    completions.events handle candidates (quiet.events.subset waits)

/-- A request for completions becomes known. -/
theorem asking_completion (completions : CompletionsFrom known session)
    (latest : session.AwaitsLatest) {more : Nat → Prop}
    (known_more : ∀ id, known id → more id) (new : more session.nextId) (transport : Transport)
    (message : Value)
    : CompletionsFrom more ((session.asking .completion).delivered transport message) where
  awaited := by
    intro pending id slot method awaits
    obtain rfl : session.nextPending .completion = pending := Option.some.inj slot
    rcases latest.awaits_nextPending awaits with rfl | ⟨previous, slot, method, awaited⟩
    · exact new
    · exact known_more id (completions.awaited previous id slot method awaited)
  events := (completions.mono known_more).events

/-- Another request takes the place of the completions that have been awaited. -/
theorem asking_other (completions : CompletionsFrom known session) {method : Method}
    (other : method ≠ .completion) (transport : Transport) (message : Value)
    : CompletionsFrom known ((session.asking method).delivered transport message) where
  awaited := by
    intro pending id slot completion
    obtain rfl : session.nextPending method = pending := Option.some.inj slot
    exact absurd ((session.nextPending_spec method).2.1.symm.trans completion) other
  events := completions.events

theorem noted (completions : CompletionsFrom known session) {after : Session}
    {event : SessionEvent} (noted : Noted session after event)
    (candidates
      : ∀ handle candidates, event = .reply handle (.completion candidates) → known handle.id)
    : CompletionsFrom known after where
  awaited := fun pending id slot => completions.awaited pending id (noted.pending.symm.trans slot)
  events := by
    intro handle list waits
    rcases List.mem_append.mp (noted.events.subset waits) with earlier | new
    · exact completions.events handle list earlier
    · exact candidates handle list (List.mem_singleton.mp new).symm

/-- Messages bring candidates for awaited requests only. -/
theorem handleMessage (completions : CompletionsFrom known session) (message : Value)
    : CompletionsFrom known (session.handleMessage message).2 := by
  rcases session.handleMessage_cases message with
    same | ⟨request, same⟩ | ⟨notification, same⟩ | ⟨pending, response, slot, awaited, outcome⟩
  · rw [same]
    exact completions
  · rw [same]
    exact completions.quiet (session.send_quiet (requestHead?_answer request))
  · rw [same]
    obtain ⟨event, other, noted⟩ := session.handleNotification_noted notification
    refine completions.noted noted fun handle candidates reply => ?_
    rw [reply] at other
    cases other
  · have answered
        : CompletionsFrom known
            { session with pending := pending.afterResponse response.id } := by
      refine ⟨fun next id kept method awaits => ?_, completions.events⟩
      have before := PendingRequest.awaits_of_afterResponse awaited kept awaits
      refine completions.awaited pending id slot ?_ before
      dsimp only [PendingRequest.afterResponse] at kept
      split at kept
      · obtain rfl := Option.some.inj kept
        exact method
      · cases kept
    rcases outcome with same | ⟨reply, decoded, same⟩
    · rw [same]
      exact answered
    · rw [same]
      obtain ⟨told, shown, earlier, queued, later⟩ :=
        handleReply_noted { session with pending := pending.afterResponse response.id }
          { id := response.id, method := pending.method } reply
      refine CompletionsFrom.quiet ?_ later
      rcases queued with rfl | noted
      · exact answered.quiet earlier
      · refine (answered.quiet earlier).noted noted fun handle candidates event => ?_
        obtain ⟨rfl, rfl⟩ := Reply.event_eq_completion event
        exact completions.awaited pending response.id slot (replyOf_candidates decoded) awaited

/-- Bytes bring candidates for awaited requests only. -/
theorem receive (completions : CompletionsFrom known session) (chunk : List UInt8)
    : CompletionsFrom known (session.receive chunk) := by
  have framed : CompletionsFrom known { session with framer := (session.framer.feed chunk).2 } :=
    ⟨completions.awaited, completions.events⟩
  exact receive_keeps framed fun _ message completions => completions.handleMessage message

end CompletionsFrom

theorem AwaitsLatest.receive {session : Session} (latest : session.AwaitsLatest)
    (chunk : List UInt8)
    : (session.receive chunk).AwaitsLatest := by
  have framed : AwaitsLatest { session with framer := (session.framer.feed chunk).2 } := latest
  exact receive_keeps framed fun _ message latest => latest.handleMessage message

/-- A streak is not revived by bytes. -/
theorem receive_unretained {session : Session}
    (unretained : session.pending.any (·.retain) = false) (chunk : List UInt8)
    : (session.receive chunk).pending.any (·.retain) = false :=
  receive_keeps (P := fun state => state.pending.any (·.retain) = false) unretained
    fun _ message unretained => handleMessage_unretained message unretained

-----------------------------------------------------------------------------------------
-- A server that is new
-----------------------------------------------------------------------------------------

/-- Nothing is awaited for a word, and no candidates wait. -/
structure Wordless (session : Session) : Prop where
  latest : session.AwaitsLatest
  unretained : session.pending.any (·.retain) = false
  completions : CompletionsFrom (fun _ => False) session

namespace Wordless

theorem quiet {before after : Session} (wordless : before.Wordless)
    (quiet : Quiet before after)
    : after.Wordless :=
  ⟨wordless.latest.quiet quiet, quiet.unretained wordless.unretained,
    wordless.completions.quiet quiet⟩

theorem started (session : Session) (transport : Transport)
    : (session.start transport).Wordless :=
  ⟨awaitsLatest_of_none rfl, rfl, ⟨fun _ _ => nofun, fun _ _ => nofun⟩⟩

theorem requestHandshake {session : Session} (wordless : session.Wordless)
    (workspace : Workspace)
    : (session.requestHandshake workspace).2.Wordless := by
  have other : Method.handshake ≠ .completion := by decide
  rcases session.requestHandshake_cases workspace with ⟨error, refused⟩ | ⟨params, sent⟩
  · rw [refused]
    exact wordless
  · rw [sent]
    rcases session.request_quiet_or .handshake params with
      ⟨error, failed, outcome, quiet⟩ | ⟨_, transport, outcome⟩
    · rw [outcome]
      exact wordless.quiet quiet
    · rw [outcome]
      exact ⟨session.awaitsLatest_of_asking _ _ _, session.nextPending_unretained other,
        wordless.completions.asking_other other _ _⟩

end Wordless

-----------------------------------------------------------------------------------------
-- Requests that go out
-----------------------------------------------------------------------------------------

/-- The completion request that has gone out from one moment to another, by its id: the one that
is awaited by then with the id that was next.
-/
def completionSent? (before after : Session) : Option Nat :=
  after.pending.bind fun pending =>
    if pending.method = .completion ∧ pending.id = before.nextId then some pending.id else none

theorem completionSent?_of_quiet {before after : Session} (latest : before.AwaitsLatest)
    (quiet : Quiet before after)
    : completionSent? before after = none := by
  unfold completionSent?
  rcases quiet.slot with none | ⟨same, _⟩
  · rw [none]
    rfl
  · rw [same]
    cases slot : before.pending with
    | none => rfl
    | some pending =>
        have last := (latest pending slot).2
        rw [Option.bind_some, if_neg (by omega)]

theorem completionSent?_of_asking {before middle : Session} (quiet : Quiet before middle)
    (running : middle.isRunning = true) (method : Method) (transport : Transport)
    (message : Value)
    : completionSent? before ((middle.asking method).delivered transport message)
      = if method = .completion then some before.nextId else none := by
  obtain ⟨id, same, _⟩ := middle.nextPending_spec method
  change Option.bind (some (middle.nextPending method)) _ = _
  rw [Option.bind_some, id, same, quiet.nextId running]
  simp only [and_true]

end Session

end LanguageClient
