import Mathlib.Data.List.Nodup
import LanguageClient.Proofs.Session.Course

/-! Completion requests in a row. Whatever arrives and in whatever order, their replies come in
the order in which they have been asked for, and nothing replies to them once they have ended.
-/

namespace LanguageClient

open Json (Value)
open Session

/-- A completion request. -/
def completionHandle (id : Nat) : RequestHandle where
  id
  method := .completion

/-- If a moment brings a response, then one that a completion request can have. -/
def Moment.Decodes (moment : Moment) : Prop :=
  ∀ message response,
    moment.occurrence = .message message
    → Incoming.ofValue message = .ok (.response response)
    → ∃ reply, replyOf .completion response = .ok reply

-----------------------------------------------------------------------------------------
-- One streak
-----------------------------------------------------------------------------------------

/-- What is awaited agrees with the streak so far. The latest reply to it is the one that
counted last, provided that all responses can be read.
-/
structure Streaking (streak : List Moment) (pending : PendingRequest) : Prop where
  method : pending.method = .completion
  ordered : pending.firstId ≤ pending.id
  asked
    : streak.flatMap Moment.asked
      = (List.range' pending.firstId (pending.id + 1 - pending.firstId)).map completionHandle
  known : ∀ handle ∈ streak.flatMap Moment.replies, handle ∈ streak.flatMap Moment.asked
  sorted : (streak.flatMap Moment.replies).Pairwise fun earlier later => earlier.id ≤ later.id
  bounded
    : ∀ handle ∈ streak.flatMap Moment.replies,
        ∃ latest, pending.lastDelivered = some latest ∧ handle.id ≤ latest
  delivered
    : (∀ moment ∈ streak, moment.Decodes)
      → ∀ latest,
          pending.lastDelivered = some latest
          → ∃ handle ∈ streak.flatMap Moment.replies, handle.id = latest

namespace Streaking

variable {streak : List Moment} {pending : PendingRequest} {moment : Moment}

theorem mem_asked_iff (streaking : Streaking streak pending) (handle : RequestHandle)
    : handle ∈ streak.flatMap Moment.asked
      ↔ handle.method = .completion ∧ pending.firstId ≤ handle.id ∧ handle.id ≤ pending.id := by
  have ordered := streaking.ordered
  rw [streaking.asked, List.mem_map]
  constructor
  · rintro ⟨id, within, rfl⟩
    rw [List.mem_range'_1] at within
    exact ⟨rfl, within.1, by change id ≤ pending.id; omega⟩
  · rintro ⟨method, above, below⟩
    refine ⟨handle.id, List.mem_range'_1.mpr ⟨above, by omega⟩, ?_⟩
    rw [completionHandle, ← method]

theorem ne_nil (streaking : Streaking streak pending) : streak ≠ [] := by
  rintro rfl
  have last := (streaking.mem_asked_iff (completionHandle pending.id)).mpr
    ⟨rfl, streaking.ordered, Nat.le_refl _⟩
  cases last

/-- The first completion request of a streak. -/
theorem begins (method : pending.method = .completion) (alone : pending.firstId = pending.id)
    (fresh : pending.lastDelivered = none) (asked : moment.asked = [completionHandle pending.id])
    (silent : moment.replies = [])
    : Streaking [moment] pending where
  method := method
  ordered := Nat.le_of_eq alone
  asked := by
    rw [List.flatMap_singleton, asked, alone, Nat.add_sub_cancel_left]
    rfl
  known := by simp [silent]
  sorted := by simp [silent]
  bounded := by simp [silent]
  delivered := by simp [fresh]

/-- Something that neither asks nor replies. -/
theorem passes (streaking : Streaking streak pending) (unasked : moment.asked = [])
    (silent : moment.replies = [])
    : Streaking (streak ++ [moment]) pending := by
  have sameAsked : (streak ++ [moment]).flatMap Moment.asked = streak.flatMap Moment.asked := by
    simp [unasked]
  have sameReplies
      : (streak ++ [moment]).flatMap Moment.replies = streak.flatMap Moment.replies := by
    simp [silent]
  refine ⟨streaking.method, streaking.ordered, ?_, ?_, ?_, ?_, fun decodes => ?_⟩
  · rw [sameAsked]
    exact streaking.asked
  · rw [sameAsked, sameReplies]
    exact streaking.known
  · rw [sameReplies]
    exact streaking.sorted
  · rw [sameReplies]
    exact streaking.bounded
  · rw [sameReplies]
    exact streaking.delivered fun other member => decodes other (List.mem_append_left _ member)

/-- One more completion request. -/
theorem asks (streaking : Streaking streak pending)
    (next : moment.asked = [completionHandle (pending.id + 1)]) (silent : moment.replies = [])
    : Streaking (streak ++ [moment]) { pending with id := pending.id + 1 } := by
  have ordered := streaking.ordered
  have moreAsked
      : (streak ++ [moment]).flatMap Moment.asked
        = streak.flatMap Moment.asked ++ [completionHandle (pending.id + 1)] := by
    simp [next]
  have sameReplies
      : (streak ++ [moment]).flatMap Moment.replies = streak.flatMap Moment.replies := by
    simp [silent]
  refine ⟨streaking.method, Nat.le_succ_of_le ordered, ?_, ?_, ?_, ?_, fun decodes => ?_⟩
  · have count
        : pending.id + 1 + 1 - pending.firstId = (pending.id + 1 - pending.firstId) + 1 := by
      omega
    have last : pending.firstId + (pending.id + 1 - pending.firstId) = pending.id + 1 := by
      omega
    dsimp only
    rw [moreAsked, streaking.asked, count, List.range'_1_concat, List.map_append, last]
    rfl
  · rw [moreAsked, sameReplies]
    exact fun handle replied => List.mem_append_left _ (streaking.known handle replied)
  · rw [sameReplies]
    exact streaking.sorted
  · rw [sameReplies]
    exact streaking.bounded
  · rw [sameReplies]
    exact streaking.delivered fun other member => decodes other (List.mem_append_left _ member)

/-- No reply so far is to a later request than one that is awaited. -/
theorem replied_le (streaking : Streaking streak pending) {id : Nat}
    (awaited : pending.awaits id = true) {handle : RequestHandle}
    (replied : handle ∈ streak.flatMap Moment.replies)
    : handle.id ≤ id := by
  simp only [PendingRequest.awaits, Bool.or_eq_true, Bool.and_eq_true, decide_eq_true_eq]
    at awaited
  rcases awaited with rfl | ⟨_, newest⟩
  · exact ((streaking.mem_asked_iff handle).mp (streaking.known handle replied)).2.2
  · obtain ⟨latest, last, below⟩ := streaking.bounded handle replied
    rw [last] at newest
    exact Nat.le_of_lt (Nat.lt_of_le_of_lt below (by simpa using newest))

/-- A response to one of the requests that is awaited. -/
theorem answers (streaking : Streaking streak pending) {message : Value} {response : Response}
    (occurs : moment.occurrence = .message message)
    (read : Incoming.ofValue message = .ok (.response response))
    (awaited : pending.awaits response.id = true) (unasked : moment.asked = [])
    (replied
      : moment.replies
        = if (replyOf .completion response).isOk then [completionHandle response.id] else [])
    : Streaking (streak ++ [moment]) { pending with lastDelivered := some response.id } := by
  have sameAsked : (streak ++ [moment]).flatMap Moment.asked = streak.flatMap Moment.asked := by
    simp [unasked]
  have moreReplies
      : (streak ++ [moment]).flatMap Moment.replies
        = streak.flatMap Moment.replies ++ moment.replies := by
    simp
  have latest : ∀ handle ∈ moment.replies, handle = completionHandle response.id := by
    intro handle member
    rw [replied] at member
    split at member
    · exact List.mem_singleton.mp member
    · cases member
  have inStreak : completionHandle response.id ∈ streak.flatMap Moment.asked := by
    have ordered := streaking.ordered
    rw [streaking.mem_asked_iff]
    simp only [PendingRequest.awaits, Bool.or_eq_true, Bool.and_eq_true, decide_eq_true_eq]
      at awaited
    refine ⟨rfl, ?_⟩
    dsimp only [completionHandle]
    omega
  refine ⟨streaking.method, streaking.ordered, ?_, ?_, ?_, ?_, fun decodes => ?_⟩
  · rw [sameAsked]
    exact streaking.asked
  · rw [sameAsked, moreReplies]
    intro handle member
    rcases List.mem_append.mp member with earlier | now
    · exact streaking.known handle earlier
    · rw [latest handle now]
      exact inStreak
  · rw [moreReplies, List.pairwise_append]
    refine ⟨streaking.sorted, ?_, ?_⟩
    · rw [replied]
      split <;> simp
    · intro earlier before later now
      rw [latest later now]
      exact streaking.replied_le awaited before
  · rw [moreReplies]
    intro handle member
    refine ⟨response.id, rfl, ?_⟩
    rcases List.mem_append.mp member with earlier | now
    · exact streaking.replied_le awaited earlier
    · rw [latest handle now]
      exact Nat.le_refl _
  · rintro id same
    obtain rfl := Option.some.inj same
    obtain ⟨reply, decoded⟩ := decodes moment (by simp) message response occurs read
    refine ⟨completionHandle response.id, ?_, rfl⟩
    rw [moreReplies, replied, decoded]
    simp [Except.isOk, Except.toBool]

/-- What counts is that an answer is the latest one, or newer than all replies so far. -/
theorem awaits_iff (streaking : Streaking streak pending) (retain : pending.retain = true)
    (decodes : ∀ moment ∈ streak, moment.Decodes) {id : Nat}
    (known : completionHandle id ∈ streak.flatMap Moment.asked)
    : pending.awaits id = true
      ↔ id = pending.id ∨ ∀ handle ∈ streak.flatMap Moment.replies, handle.id < id := by
  obtain ⟨_, above, below⟩ := (streaking.mem_asked_iff _).mp known
  dsimp only [completionHandle] at above below
  simp only [PendingRequest.awaits, Bool.or_eq_true, Bool.and_eq_true, decide_eq_true_eq, retain,
    true_and]
  constructor
  · rintro (same | ⟨_, newest⟩)
    · exact Or.inl same
    · refine Or.inr fun handle replied => ?_
      obtain ⟨latest, last, within⟩ := streaking.bounded handle replied
      rw [last] at newest
      exact Nat.lt_of_le_of_lt within (by simpa using newest)
  · rintro (same | newest)
    · exact Or.inl same
    · rcases Nat.lt_or_eq_of_le below with older | same
      · refine Or.inr ⟨⟨above, older⟩, ?_⟩
        cases last : pending.lastDelivered with
        | none => rfl
        | some latest =>
            obtain ⟨handle, replied, rfl⟩ := streaking.delivered decodes latest last
            simpa using newest handle replied
      · exact Or.inl same

end Streaking

-----------------------------------------------------------------------------------------
-- Requests
-----------------------------------------------------------------------------------------

/-- A request is awaited under the next id, by its method. -/
theorem Session.nextPending_spec (session : Session) (method : Method)
    : (session.nextPending method).id = session.nextId
      ∧ (session.nextPending method).method = method
      ∧ (session.nextPending method).retain = session.options.retains method := by
  unfold nextPending
  dsimp only
  split
  · exact ⟨rfl, rfl, rfl⟩
  · split <;> exact ⟨rfl, rfl, rfl⟩

/-- A completion request goes on with the one before it. -/
theorem Session.nextPending_goesOn {session : Session} {previous : PendingRequest}
    (retaining : session.options.retainCompletion = true)
    (slot : session.pending = some previous) (method : previous.method = .completion)
    (retain : previous.retain = true)
    : session.nextPending .completion = { previous with id := session.nextId } := by
  obtain ⟨id, _, _, firstId, lastDelivered⟩ := previous
  dsimp only at method retain
  subst method retain
  unfold nextPending
  rw [slot, retaining]
  rfl

/-- After anything else it stands alone. -/
theorem Session.nextPending_alone {session : Session}
    (alone : ∀ previous, session.pending = some previous → previous.retain = false)
    (method : Method)
    : (session.nextPending method).firstId = session.nextId
      ∧ (session.nextPending method).lastDelivered = none := by
  unfold nextPending
  cases slot : session.pending with
  | none => exact ⟨rfl, rfl⟩
  | some previous =>
      dsimp only
      rw [alone previous slot, Bool.and_false, Bool.false_and, if_neg Bool.false_ne_true]
      exact ⟨rfl, rfl⟩

-----------------------------------------------------------------------------------------
-- Courses
-----------------------------------------------------------------------------------------

/-- What is awaited at the end of a course. A completion request is awaited as the latest one
of its streak, and any other request alone.
-/
structure Awaiting (options : SessionOptions) (course : Course) (pending : PendingRequest)
    : Prop where
  running : course.session.isRunning = true
  latest : pending.id + 1 = course.session.nextId
  retain : pending.retain = options.retains pending.method
  streaking : pending.retain = true → Streaking (Moment.streak course.past) pending
  alone
    : pending.retain = false
      → { id := pending.id, method := pending.method } ∈ Moment.sinceStart course.past

/-- The session agrees with its course. -/
structure Kept (options : SessionOptions) (course : Course) : Prop where
  settings : course.session.options = options
  numbered
    : course.session.isRunning = true
      → (Moment.sinceStart course.past).map RequestHandle.id
        = List.range course.session.nextId
  slot : ∀ pending, course.session.pending = some pending → Awaiting options course pending
  idle
    : (∀ pending, course.session.pending = some pending → pending.retain = false)
      → Moment.streak course.past = []

namespace Kept

variable {options : SessionOptions} {course : Course}

theorem new (options : SessionOptions) : Kept options { session := { options } } where
  settings := rfl
  numbered := nofun
  slot := nofun
  idle := fun _ => rfl

theorem framed (kept : Kept options course) (framer : Framer)
    : Kept options { course with session := { course.session with framer } } where
  settings := kept.settings
  numbered := kept.numbered
  slot := by
    intro pending slot
    obtain ⟨running, latest, retain, streaking, alone⟩ := kept.slot pending slot
    exact ⟨running, latest, retain, streaking, alone⟩
  idle := kept.idle

/-- A connection starts, and it is not used yet. -/
theorem start (kept : Kept options course) (transport : Transport)
    : Kept options (course.note (.start transport)) where
  settings := kept.settings
  numbered := by
    intro _
    rw [Course.note, Moment.sinceStart_concat]
    rfl
  slot := nofun
  idle := by
    intro _
    rw [Course.note, Moment.streak_concat]
    rfl

/-- A connection ends. -/
theorem stop (kept : Kept options course) : Kept options (course.note .stop) where
  settings := kept.settings
  numbered := nofun
  slot := nofun
  idle := by
    intro _
    rw [Course.note, Moment.streak_concat]
    rfl

/-- While nothing is asked and nothing is replied to, what is awaited stays, or the
connection ends.
-/
theorem passes (kept : Kept options course) {occurrence : Occurrence} {moment : Moment}
    (now : moment = { session := course.session, occurrence })
    (unstarted : moment.isStart = false) (unasked : moment.asked = [])
    (silent : moment.replies = []) (ends : moment.ends = !moment.after.isRunning)
    (settings : moment.after.options = course.session.options)
    (numbers : moment.after.isRunning = true → moment.after.nextId = course.session.nextId)
    (stays : Stays course.session moment.after)
    : Kept options (course.note occurrence) := by
  have noted
      : course.note occurrence
        = { session := moment.after, past := course.past ++ [moment] } := by
    rw [now]
    rfl
  have sinceStart := Moment.sinceStart_concat course.past moment
  rw [unstarted, unasked, List.append_nil, if_neg Bool.false_ne_true] at sinceStart
  have streak := Moment.streak_concat course.past moment
  rw [ends] at streak
  rw [noted]
  refine ⟨settings.trans kept.settings, fun runs => ?_, fun pending slot => ?_, fun idle => ?_⟩
  · rw [sinceStart, numbers runs]
    exact kept.numbered (stays.pending runs).2
  · obtain ⟨before, same⟩ := stays.awaited slot
    obtain ⟨running, latest, retain, streaking, alone⟩ := kept.slot pending before
    have runs : moment.after.isRunning = true := same.trans running
    refine ⟨runs, ?_, retain, fun retained => ?_, fun unretained => ?_⟩
    · rw [numbers runs]
      exact latest
    · have going := streaking retained
      rw [streak, runs, if_neg (by decide), if_neg fun both => going.ne_nil both.1]
      exact going.passes unasked silent
    · rw [sinceStart]
      exact alone unretained
  · rw [streak]
    cases runs : moment.after.isRunning with
    | false => rfl
    | true =>
        rw [kept.idle fun pending slot =>
          idle pending ((stays.pending runs).1.trans slot)]
        simp [unasked]

/-- Completions are no longer wanted: what is awaited afterwards is awaited alone. -/
theorem release (kept : Kept options course)
    : Kept options (course.note (.call (.act .releasePending))) := by
  have sinceStart
      : Moment.sinceStart (course.note (.call (.act .releasePending))).past
        = Moment.sinceStart course.past := by
    rw [Course.note, Moment.sinceStart_concat]
    exact List.append_nil _
  have streak : Moment.streak (course.note (.call (.act .releasePending))).past = [] := by
    rw [Course.note, Moment.streak_concat]
    rfl
  have released
      : (course.note (.call (.act .releasePending))).session
        = course.session.releasePending :=
    rfl
  unfold releasePending at released
  split at released
  · refine ⟨?_, ?_, ?_, fun _ => streak⟩ <;> rw [released]
    · exact kept.settings
    · intro runs
      rw [sinceStart]
      exact kept.numbered runs
    · intro pending slot
      cases slot
  · rename_i unretained
    refine ⟨?_, ?_, ?_, fun _ => streak⟩ <;> rw [released]
    · exact kept.settings
    · intro runs
      rw [sinceStart]
      exact kept.numbered runs
    · intro pending slot
      have alone : pending.retain = false := by simpa [slot] using unretained
      obtain ⟨running, latest, retain, _, asked⟩ := kept.slot pending slot
      refine ⟨released ▸ running, released ▸ latest, retain, fun retained => ?_, fun _ => ?_⟩
      · exact absurd (retained.symm.trans alone) (by decide)
      · rw [sinceStart]
        exact asked alone

/-- A request goes out. A completion request goes on with the streak before it, or a streak
begins with it.
-/
theorem issue (kept : Kept options course) (retaining : options.retainCompletion = true)
    {call : SessionCall} {moment : Moment} {method : Method} {params : Value}
    {transport : Transport}
    (now : moment = { session := course.session, occurrence := .call call })
    (running : course.session.isRunning = true)
    (one : moment.asked = [{ id := course.session.nextId, method }])
    (sent
      : moment.after
        = (course.session.asking method).delivered transport
            (requestMessage course.session.nextId method params))
    (ends : moment.ends = decide (method ≠ .completion))
    : Kept options (course.note (.call call)) := by
  have noted
      : course.note (.call call)
        = { session := moment.after, past := course.past ++ [moment] } := by
    rw [now]
    rfl
  have silent : moment.replies = [] := by rw [now]; rfl
  have unstarted : moment.isStart = false := by rw [now]; rfl
  have sinceStart := Moment.sinceStart_concat course.past moment
  rw [unstarted, one, if_neg Bool.false_ne_true] at sinceStart
  have streak := Moment.streak_concat course.past moment
  rw [ends, one] at streak
  rw [noted, sent]
  have settings := kept.settings
  refine ⟨settings, fun _ => ?_, fun pending slot => ?_, fun idle => ?_⟩
  · rw [sinceStart, List.map_append, kept.numbered running]
    exact List.range_succ.symm
  · obtain rfl : course.session.nextPending method = pending := Option.some.inj slot
    obtain ⟨id, asks, retain⟩ := course.session.nextPending_spec method
    rw [kept.settings] at retain
    refine ⟨rfl, congrArg (· + 1) id, by rw [asks]; exact retain, fun retained => ?_, fun _ => ?_⟩
    · have completes : method = .completion := by
        rw [retain, SessionOptions.retains, Method.retains, Bool.and_eq_true, decide_eq_true_eq]
          at retained
        exact retained.1
      subst completes
      rw [if_neg (by decide), if_neg fun both => absurd both.2 (by simp)] at streak
      rw [streak]
      by_cases goes : ∃ previous, course.session.pending = some previous ∧ previous.retain = true
      · obtain ⟨previous, slot, before⟩ := goes
        obtain ⟨_, latest, _, streaking, _⟩ := kept.slot previous slot
        rw [nextPending_goesOn (by rw [settings]; exact retaining) slot (streaking before).method
          before, ← latest]
        exact (streaking before).asks (by rw [one, ← latest]; rfl) silent
      · have alone (previous : PendingRequest) (slot : course.session.pending = some previous)
            : previous.retain = false := by
          simpa using fun retained => goes ⟨previous, slot, retained⟩
        obtain ⟨first, fresh⟩ := nextPending_alone alone .completion
        rw [kept.idle alone]
        exact .begins asks (first.trans id.symm) fresh (by rw [one, id]; rfl) silent
    · rw [sinceStart, id, asks]
      exact List.mem_append_right _ (List.mem_singleton_self _)
  · obtain ⟨_, _, retain⟩ := course.session.nextPending_spec method
    have unretained := retain.symm.trans (idle _ rfl)
    have other : method ≠ .completion := by
      rintro rfl
      rw [settings, SessionOptions.retains, retaining] at unretained
      cases unretained
    rw [streak, if_pos (decide_eq_true other)]

/-- An answer to what is awaited: either that goes on, or nothing is awaited any more. -/
theorem answer (kept : Kept options course) (room : 0 < options.eventCapacity)
    {message : Value} {pending : PendingRequest} {response : Response}
    (answers : course.session.Answers message pending response)
    : Kept options (course.note (.message message)) := by
  obtain ⟨settings, numbers⟩ := course.session.handleMessage_unasked message
  obtain ⟨running, latest, retain, streaking, _⟩ := kept.slot pending answers.1
  have sinceStart
      : Moment.sinceStart (course.note (.message message)).past
        = Moment.sinceStart course.past := by
    rw [Course.note, Moment.sinceStart_concat]
    exact List.append_nil _
  have numbered (runs : (course.session.handleMessage message).2.isRunning = true)
      : (Moment.sinceStart (course.note (.message message)).past).map RequestHandle.id
        = List.range (course.session.handleMessage message).2.nextId := by
    rw [sinceStart, (numbers runs).1]
    exact kept.numbered (numbers runs).2
  have streak := Moment.streak_concat course.past
    { session := course.session, occurrence := .message message }
  cases retained : pending.retain with
  | false =>
      have none := answers.alone retained
      have idle := kept.idle fun other slot => by
        rwa [← Option.some.inj (answers.1.symm.trans slot)]
      refine ⟨settings.trans kept.settings, numbered, ?_, fun _ => ?_⟩
      · intro other slot
        rw [Course.note, Occurrence.apply, none] at slot
        cases slot
      · rw [Course.note, streak, idle]
        split
        · rfl
        · exact if_pos ⟨rfl, rfl⟩
  | true =>
      have going := streaking retained
      obtain ⟨connection, replied⟩ :=
        answers.completion going.method (by rw [kept.settings]; exact room)
      obtain ⟨same, slot⟩ := Prod.mk.inj connection
      have runs : (course.session.handleMessage message).2.isRunning = true :=
        same.trans running
      have unended
          : Moment.ends { session := course.session, occurrence := .message message } = false :=
        (Bool.or_false _).trans (by rw [Bool.not_eq_false']; exact runs)
      rw [unended, if_neg Bool.false_ne_true, if_neg fun both => going.ne_nil both.1] at streak
      rw [PendingRequest.afterResponse, if_pos retained] at slot
      refine ⟨settings.trans kept.settings, numbered, fun other next => ?_, fun idle => ?_⟩
      · obtain rfl := Option.some.inj (slot.symm.trans next)
        refine ⟨runs, ?_, retain, fun _ => ?_, fun unretained => ?_⟩
        · exact latest.trans (numbers runs).1.symm
        · rw [Course.note, streak]
          exact going.answers rfl answers.2.1 answers.2.2 rfl replied
        · exact absurd (retained.symm.trans unretained) (by decide)
      · have unretained : pending.retain = false :=
          idle { pending with lastDelivered := some response.id } slot
        exact absurd (retained.symm.trans unretained) (by decide)

/-- A message may answer what is awaited, or it passes. -/
theorem message (kept : Kept options course) (room : 0 < options.eventCapacity)
    (message : Value)
    : Kept options (course.note (.message message)) := by
  by_cases unanswered : ∀ pending response, ¬course.session.Answers message pending response
  · obtain ⟨settings, numbers⟩ := course.session.handleMessage_unasked message
    obtain ⟨stays, silent⟩ := handleMessage_unanswered unanswered
    exact kept.passes rfl rfl rfl silent (Bool.or_false _) settings (fun runs => (numbers runs).1)
      stays
  · obtain ⟨pending, answered⟩ := not_forall.mp unanswered
    obtain ⟨response, answers⟩ := not_forall_not.mp answered
    exact kept.answer room answers

/-- A call asks for nothing, or it issues a request. -/
theorem call (kept : Kept options course) (retaining : options.retainCompletion = true)
    {call : SessionCall} (silent : ∀ chunk, call ≠ .act (.receive chunk))
    : Kept options (course.note (.call call)) := by
  by_cases releases : call = .act .releasePending
  · rw [releases]
    exact kept.release
  · have ends
        : Moment.ends { session := course.session, occurrence := .call call }
          = (!(call.run course.session).2.isRunning
            || (call.issued course.session).any (·.method ≠ .completion)) := by
      unfold Moment.ends
      split
      · contradiction
      · contradiction
      · rename_i same
        exact absurd (Occurrence.call.inj same) releases
      · rfl
    rcases call.run_cases course.session silent with
      ⟨unasked, quiet⟩ | ⟨running, method, params, transport, one, _, sent⟩
    · rw [unasked] at ends
      exact kept.passes rfl rfl unasked rfl (ends.trans (Bool.or_false _)) quiet.options
        quiet.nextId (SessionCall.run_stays silent releases unasked)
    · refine kept.issue retaining rfl running one sent (ends.trans ?_)
      rw [one, sent]
      simp [delivered, isRunning]

/-- Whatever happens, the session agrees with its course. -/
theorem note (kept : Kept options course) (retaining : options.retainCompletion = true)
    (room : 0 < options.eventCapacity) {occurrence : Occurrence}
    (atOnce : ∀ chunk, occurrence ≠ .call (.act (.receive chunk)))
    : Kept options (course.note occurrence) := by
  cases occurrence with
  | start transport => exact kept.start transport
  | stop => exact kept.stop
  | message message => exact kept.message room message
  | call call => exact kept.call retaining fun chunk same => atOnce chunk (congrArg _ same)

/-- Every course that is reached, by induction on it. -/
theorem reached (retaining : options.retainCompletion = true) (room : 0 < options.eventCapacity)
    (reached : Course.Reached options course)
    : Kept options course := by
  induction reached with
  | new => exact .new options
  | framed _ framer ih => exact ih.framed framer
  | noted _ occurrence atOnce ih => exact ih.note retaining room atOnce

/-- A reply is to a request that has been issued since the latest start, and a reply to a
completion request is to one of the latest streak.
-/
theorem issued_of_replied (kept : Kept options course) (retaining : options.retainCompletion = true)
    {message : Value} {handle : RequestHandle}
    (replied : handle ∈ course.session.repliesTo message)
    : course.session.isRunning = true
      ∧ handle ∈ Moment.sinceStart course.past
      ∧ (handle.method = .completion
        → handle ∈ (Moment.streak course.past).flatMap Moment.asked
          ∧ ∃ pending response,
              course.session.Answers message pending response
              ∧ pending.method = .completion) := by
  obtain ⟨pending, response, answers, awaited, method⟩ := repliesTo_awaited replied
  obtain ⟨running, latest, retain, streaking, alone⟩ := kept.slot pending answers.1
  refine ⟨running, ?_⟩
  cases retained : pending.retain with
  | true =>
      have going := streaking retained
      have known : handle ∈ (Moment.streak course.past).flatMap Moment.asked := by
        have ordered := going.ordered
        simp only [PendingRequest.awaits, Bool.or_eq_true, Bool.and_eq_true, decide_eq_true_eq]
          at awaited
        exact (going.mem_asked_iff handle).mpr ⟨method.trans going.method, by omega, by omega⟩
      obtain ⟨earlier, split⟩ := Moment.streak_sinceStart course.past
      refine ⟨?_, fun _ => ⟨known, pending, response, answers, going.method⟩⟩
      rw [split]
      exact List.mem_append_right _ known
  | false =>
      have only : handle.id = pending.id := by simpa [PendingRequest.awaits, retained] using awaited
      have same : handle = { id := pending.id, method := pending.method } := by
        rw [← only, ← method]
      refine ⟨same ▸ alone retained, fun completes => ?_⟩
      rw [retained, ← method, completes, SessionOptions.retains, retaining] at retain
      cases retain

/-- The replies to the latest streak, if there is one, come in its order. -/
theorem inOrder (kept : Kept options course)
    : (∃ first,
          (Moment.streak course.past).flatMap Moment.asked
          = (List.range' first
              ((Moment.streak course.past).flatMap Moment.asked).length).map completionHandle)
      ∧ (((Moment.streak course.past).flatMap Moment.replies).map RequestHandle.id).Pairwise
          (· ≤ ·)
      ∧ ∀ handle ∈ (Moment.streak course.past).flatMap Moment.replies,
          handle ∈ (Moment.streak course.past).flatMap Moment.asked := by
  by_cases going : ∃ pending, course.session.pending = some pending ∧ pending.retain = true
  · obtain ⟨pending, slot, retained⟩ := going
    have streaking := (kept.slot pending slot).streaking retained
    refine ⟨⟨pending.firstId, ?_⟩, List.pairwise_map.mpr streaking.sorted, streaking.known⟩
    rw [streaking.asked, List.length_map, List.length_range']
  · have idle := kept.idle fun pending slot => by
      simpa using fun retained => going ⟨pending, slot, retained⟩
    rw [idle]
    exact ⟨⟨0, rfl⟩, .nil, by simp⟩

/-- A response to a request of the latest streak is replied to exactly if it answers the
latest request, or a later one than all that have been replied to.
-/
theorem replied_iff (kept : Kept options course) (room : 0 < options.eventCapacity)
    {message : Value} {response : Response}
    (read : Incoming.ofValue message = .ok (.response response))
    (known
      : completionHandle response.id ∈ (Moment.streak course.past).flatMap Moment.asked)
    (decodes : ∀ other ∈ Moment.streak course.past, other.Decodes)
    (decoded : ∃ reply, replyOf .completion response = .ok reply)
    : completionHandle response.id ∈ course.session.repliesTo message
      ↔ (∃ pending, course.session.pending = some pending ∧ pending.id = response.id)
        ∨ ∀ handle ∈ (Moment.streak course.past).flatMap Moment.replies,
            handle.id < response.id := by
  have going : ∃ pending, course.session.pending = some pending ∧ pending.retain = true := by
    by_contra none
    rw [kept.idle fun pending slot => by
      simpa using fun retained => none ⟨pending, slot, retained⟩] at known
    cases known
  obtain ⟨pending, slot, retained⟩ := going
  have streaking := (kept.slot pending slot).streaking retained
  have awaits := streaking.awaits_iff retained decodes known
  have replied
      : completionHandle response.id ∈ course.session.repliesTo message
        ↔ pending.awaits response.id = true := by
    constructor
    · intro told
      obtain ⟨other, _, answers, awaited, _⟩ := repliesTo_awaited told
      obtain rfl := Option.some.inj (slot.symm.trans answers.1)
      exact awaited
    · intro awaited
      obtain ⟨reply, decoded⟩ := decoded
      have answers : course.session.Answers message pending response := ⟨slot, read, awaited⟩
      rw [(answers.completion streaking.method (by rw [kept.settings]; exact room)).2, decoded]
      exact List.mem_singleton_self _
  rw [replied, awaits]
  constructor
  · rintro (same | newest)
    · exact Or.inl ⟨pending, slot, same.symm⟩
    · exact Or.inr newest
  · rintro (⟨other, again, same⟩ | newest)
    · obtain rfl := Option.some.inj (slot.symm.trans again)
      exact Or.inl same.symm
    · exact Or.inr newest

end Kept

namespace Course.Reached

variable {options : SessionOptions} {course : Course}

/-- A reply that comes after the end of a streak is to a later request, which may have the id
of an earlier one only if the connection has been started anew in between.
-/
theorem later_reply (reached : Reached options course)
    (retaining : options.retainCompletion = true) (room : 0 < options.eventCapacity)
    {before middle later : List Moment} {next : Moment}
    (split : course.past = before ++ middle ++ next :: later)
    (ended : (middle ++ [next]).head?.any Moment.ends = true) {handle : RequestHandle}
    (replied : handle ∈ next.replies)
    (old : handle.id ∈ ((Moment.streak before).flatMap Moment.asked).map RequestHandle.id)
    : ∃ front restart back,
        middle = front ++ restart :: back
        ∧ restart.isStart = true
        ∧ handle ∈ back.flatMap Moment.asked := by
  have kept := Kept.reached retaining room (reached.split split).1
  obtain ⟨message, occurs, told⟩
      : ∃ message,
          next.occurrence = .message message ∧ handle ∈ next.session.repliesTo message := by
    unfold Moment.replies at replied
    split at replied
    · rename_i message occurs
      exact ⟨message, occurs, replied⟩
    · cases replied
  obtain ⟨running, known, completes⟩ := kept.issued_of_replied retaining told
  by_cases started : ∃ moment ∈ middle, moment.isStart = true
  · obtain ⟨front, restart, back, rfl, begins, unstarted⟩ := Moment.exists_latest_start started
    refine ⟨front, restart, back, rfl, begins, ?_⟩
    rwa [← List.append_assoc, Moment.sinceStart_restart _ begins unstarted] at known
  · have unstarted : ∀ moment ∈ middle, moment.isStart = false := by
      intro moment member
      simpa using fun begins => started ⟨moment, member, begins⟩
    have numbered := kept.numbered running
    dsimp only at numbered known completes
    have joined := Moment.sinceStart_append before unstarted
    obtain ⟨first, asked, same⟩ := List.mem_map.mp old
    obtain ⟨earlier, since⟩ := Moment.streak_sinceStart before
    have firstKnown : first ∈ Moment.sinceStart before := by
      rw [since]
      exact List.mem_append_right _ asked
    have distinct
        : (Moment.sinceStart (before ++ middle)).map RequestHandle.id |>.Nodup := by
      rw [numbered]
      exact List.nodup_range
    obtain rfl : first = handle := by
      refine List.inj_on_of_nodup_map distinct ?_ known same
      rw [joined]
      exact List.mem_append_left _ firstKnown
    have method : first.method = .completion := by
      obtain ⟨moment, member, asks⟩ := List.mem_flatMap.mp asked
      exact Moment.asked_completion ((Moment.streak_suffix before).2 moment member) asks
    obtain ⟨latest, pending, response, answers, completion⟩ := completes method
    cases middle with
    | nil =>
        have connection := (answers.completion completion (by rw [kept.settings]; exact room)).1
        have runs : next.after.isRunning = true := by
          unfold Moment.after
          rw [occurs]
          exact (Prod.mk.inj connection).1.trans running
        have going : next.ends = false := by
          rw [Moment.ends_message occurs, runs]
          rfl
        exact absurd (ended.symm.trans going) (by decide)
    | cons moment between =>
        have going := Moment.streak_after_end before ended between
        obtain ⟨asking, member, asks⟩ := List.mem_flatMap.mp latest
        have after : first ∈ (moment :: between).flatMap Moment.asked :=
          List.mem_flatMap.mpr ⟨asking, List.mem_cons_of_mem _ (going.subset member), asks⟩
        rw [joined, List.map_append, List.nodup_append] at distinct
        exact absurd rfl (distinct.2.2 _ (List.mem_map_of_mem firstKnown) _
          (List.mem_map_of_mem after))

end Course.Reached

/-- Along every run of a session that retains its completions, the completion requests in a row
have ids in a row, and their replies come in this order. A response to one of them is replied
to exactly if it answers the latest request, or a later one than all that have been replied to,
as long as every response can be read. After the end of the streak nothing replies to any of
its ids, unless the session has been started anew and has issued a request with that id again.
-/
theorem Course.completions_inOrder (options : SessionOptions)
    (retaining : options.retainCompletion = true) (room : 0 < options.eventCapacity)
    (occurrences : List Occurrence)
    : let course := Course.after { options } occurrences
      course.session = occurrences.foldl Occurrence.apply { options }
      ∧ ∀ before later,
          course.past = before ++ later
          → let streak := Moment.streak before
            let asked := streak.flatMap Moment.asked
            let replied := streak.flatMap Moment.replies
            (∃ first, asked = (List.range' first asked.length).map completionHandle)
            ∧ (replied.map RequestHandle.id).Pairwise (· ≤ ·)
            ∧ (∀ handle ∈ replied, handle ∈ asked)
            ∧ ∀ moment rest,
                later = moment :: rest
                → (∀ message response,
                    moment.occurrence = .message message
                    → Incoming.ofValue message = .ok (.response response)
                    → completionHandle response.id ∈ asked
                    → (∀ other ∈ streak ++ [moment], other.Decodes)
                    → (completionHandle response.id ∈ moment.replies
                      ↔ (∃ pending,
                          moment.session.pending = some pending ∧ pending.id = response.id)
                        ∨ ∀ handle ∈ replied, handle.id < response.id))
                  ∧ (moment.ends = true
                    → ∀ middle next final,
                        later = middle ++ next :: final
                        → ∀ handle ∈ next.replies,
                            handle.id ∈ asked.map RequestHandle.id
                            → ∃ front restart back,
                                middle = front ++ restart :: back
                                ∧ restart.isStart = true
                                ∧ handle ∈ back.flatMap Moment.asked) := by
  intro course
  have reached : Reached options course := .after options occurrences
  refine ⟨after_session _ occurrences, fun before later split => ?_⟩
  intro streak asked replied
  obtain ⟨session, reachedBefore⟩ : ∃ session, Reached options { session, past := before } := by
    cases later with
    | nil =>
        rw [List.append_nil] at split
        exact ⟨course.session, split ▸ reached⟩
    | cons moment rest => exact ⟨moment.session, (reached.split split).1⟩
  obtain ⟨numbered, sorted, known⟩ := (Kept.reached retaining room reachedBefore).inOrder
  refine ⟨numbered, sorted, known, ?_⟩
  rintro moment rest rfl
  refine ⟨fun message response occurs read member decodes => ?_,
    fun ended middle next final parts handle told old => ?_⟩
  · have kept := Kept.reached retaining room (reached.split split).1
    have decoded := decodes moment (by simp) message response occurs read
    have replies : moment.replies = moment.session.repliesTo message := by
      rw [Moment.replies, occurs]
    rw [replies]
    exact kept.replied_iff room read member
      (fun other within => decodes other (List.mem_append_left _ within)) decoded
  · have parted : course.past = before ++ middle ++ next :: final := by
      rw [split, parts, List.append_assoc]
    have first : (middle ++ [next]).head?.any Moment.ends = true := by
      cases middle with
      | nil =>
          obtain ⟨rfl, _⟩ := List.cons.inj parts
          simp [ended]
      | cons first between =>
          obtain ⟨rfl, _⟩ := List.cons.inj parts
          simp [ended]
    exact reached.later_reply retaining room parted first told old

/-- Two completion requests are replied to in their order, and not once more. -/
theorem Course.completions_inOrder_of_two
    : let asked := .call (.request .completion .null)
      let answered := fun id => .message (resultMessage (.ofNat id) (.array []))
      let course
        := Course.after {} [.start {}, asked, asked, answered 0, answered 1, answered 0]
      let replied := (Moment.streak course.past).flatMap Moment.replies
      replied = [completionHandle 0, completionHandle 1]
      ∧ (replied.map RequestHandle.id).Pairwise (· ≤ ·) := by
  intro asked answered course replied
  refine ⟨by decide +kernel, ?_⟩
  have along := completions_inOrder {} rfl (by decide)
    [.start {}, asked, asked, answered 0, answered 1, answered 0]
  exact (along.2 course.past [] (List.append_nil _).symm).2.1

/-- A new connection counts from zero again, so that a response with an id of an earlier streak
is replied to.
-/
theorem Course.restart_repeats_ids
    : let asked := .call (.request .completion .null)
      let answered := .message (resultMessage (.ofNat 0) (.array []))
      let past
        := (Course.after {} [.start {}, asked, answered, .stop, .start {}, asked, answered]).past
      (Moment.streak (past.take 3)).flatMap Moment.asked = [completionHandle 0]
      ∧ past[3]?.map Moment.ends = some true
      ∧ past[6]?.map Moment.replies = some [completionHandle 0] := by
  decide +kernel

end LanguageClient
