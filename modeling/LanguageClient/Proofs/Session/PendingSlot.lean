import LanguageClient.Proofs.Session.Streaks

/-! What a session awaits, through all its connections and with any options: the latest request,
and with it the completion requests right before it if they go on waiting. What is kept by
anything that happens is stated once of a session and its course, and carried along by what a
call and a message can do.
-/

namespace LanguageClient

open Json (Value)
open Session

/-- What a request that awaits its reply says is true of the course of the session. -/
structure OnRecord (options : SessionOptions) (course : Course) (pending : PendingRequest)
    : Prop where
  attached : course.session.isRunning = true
  latest : pending.id + 1 = course.session.nextId
  ordered : pending.firstId ≤ pending.id
  delivered
    : ∀ id, pending.lastDelivered = some id → pending.firstId ≤ id ∧ id ≤ pending.id
  retained
    : pending.retain = true
      → pending.method = .completion
        ∧ options.retainCompletion = true
        ∧ ∃ earlier,
            Moment.sinceStart course.past
            = earlier
              ++ (List.range' pending.firstId (pending.id + 1 - pending.firstId)).map
                completionHandle
  alone
    : pending.retain = false
      → pending.firstId = pending.id ∧ pending.lastDelivered = none

/-- What a session awaits is on record, and the requests since the start are numbered. -/
structure SlotKept (options : SessionOptions) (course : Course) : Prop where
  settings : course.session.options = options
  numbered
    : course.session.isRunning = true
      → (Moment.sinceStart course.past).map RequestHandle.id
        = List.range course.session.nextId
  slot : ∀ pending, course.session.pending = some pending → OnRecord options course pending

-----------------------------------------------------------------------------------------
-- The next request
-----------------------------------------------------------------------------------------

/-- A request goes on with the completions before it, if it is one that goes on waiting as they
do, or it is awaited alone.
-/
theorem Session.nextPending_cases {session : Session}
    (completes
      : ∀ previous,
          session.pending = some previous
          → previous.retain = true
          → previous.method = .completion)
    (method : Method)
    : (∃ previous,
        session.pending = some previous
        ∧ previous.retain = true
        ∧ method = .completion
        ∧ session.nextPending method = { previous with id := session.nextId })
      ∨ (session.nextPending method).firstId = session.nextId
        ∧ (session.nextPending method).lastDelivered = none := by
  cases slot : session.pending with
  | none => exact Or.inr (nextPending_alone (by simp [slot]) method)
  | some previous =>
      by_cases goes : session.options.retains method = true ∧ previous.retain = true
      · obtain ⟨retains, retain⟩ := goes
        rw [SessionOptions.retains, Method.retains, Bool.and_eq_true, decide_eq_true_eq]
          at retains
        obtain ⟨rfl, retaining⟩ := retains
        exact Or.inl ⟨previous, rfl, retain, rfl,
          nextPending_goesOn retaining slot (completes previous slot retain) retain⟩
      · right
        have apart
            : ¬(method.retains && session.options.retainCompletion && previous.retain
                && decide (previous.method = method)) = true := by
          intro together
          rw [Bool.and_eq_true, Bool.and_eq_true] at together
          exact goes together.1
        unfold nextPending
        rw [slot]
        dsimp only
        rw [if_neg apart]
        exact ⟨rfl, rfl⟩

-----------------------------------------------------------------------------------------
-- What is kept
-----------------------------------------------------------------------------------------

namespace OnRecord

variable {options : SessionOptions} {course : Course} {pending : PendingRequest}

/-- Only the connection, the next id and what has been asked count. -/
theorem congr (onRecord : OnRecord options course pending) {other : Course}
    (attached : other.session.isRunning = true)
    (nextId : other.session.nextId = course.session.nextId)
    (asked : Moment.sinceStart other.past = Moment.sinceStart course.past)
    : OnRecord options other pending where
  attached := attached
  latest := onRecord.latest.trans nextId.symm
  ordered := onRecord.ordered
  delivered := onRecord.delivered
  retained := by
    intro retain
    rw [asked]
    exact onRecord.retained retain
  alone := onRecord.alone

/-- What is awaited is the latest request or an earlier one of its streak. -/
theorem within (onRecord : OnRecord options course pending) {id : Nat}
    (awaited : pending.awaits id = true)
    : pending.firstId ≤ id ∧ id ≤ pending.id := by
  have ordered := onRecord.ordered
  simp only [PendingRequest.awaits, Bool.or_eq_true, Bool.and_eq_true, decide_eq_true_eq]
    at awaited
  omega

/-- After an answer what goes on waiting has this answer for its last one. -/
theorem answered (onRecord : OnRecord options course pending) {id : Nat}
    {next : PendingRequest} (awaited : pending.awaits id = true)
    (given : pending.afterResponse id = some next)
    : OnRecord options course next := by
  unfold PendingRequest.afterResponse at given
  split at given
  · rename_i retain
    obtain rfl := Option.some.inj given
    refine { onRecord with delivered := ?_, alone := ?_ }
    · intro latest same
      obtain rfl := Option.some.inj same
      exact onRecord.within awaited
    · intro unretained
      exact absurd (retain.symm.trans unretained) (by decide)
  · cases given

end OnRecord

namespace SlotKept

variable {options : SessionOptions} {course : Course}

theorem new (options : SessionOptions) : SlotKept options { session := { options } } where
  settings := rfl
  numbered := nofun
  slot := nofun

theorem framed (kept : SlotKept options course) (framer : Framer)
    : SlotKept options { course with session := { course.session with framer } } where
  settings := kept.settings
  numbered := kept.numbered
  slot := fun pending slot =>
    have onRecord := kept.slot pending slot
    onRecord.congr onRecord.attached rfl rfl

/-- A connection starts, and nothing has been asked on it. -/
theorem start (kept : SlotKept options course) (transport : Transport)
    : SlotKept options (course.note (.start transport)) where
  settings := kept.settings
  numbered := by
    intro _
    rw [Course.note, Moment.sinceStart_concat]
    rfl
  slot := nofun

/-- A connection ends. -/
theorem stop (kept : SlotKept options course) : SlotKept options (course.note .stop) where
  settings := kept.settings
  numbered := nofun
  slot := nofun

/-- Something that asks for nothing leaves what is awaited as it is, or as it is after an answer,
or gives it up.
-/
theorem passes (kept : SlotKept options course) {occurrence : Occurrence} {moment : Moment}
    (now : moment = { session := course.session, occurrence })
    (unstarted : moment.isStart = false) (unasked : moment.asked = [])
    {left after : Session} {waiting : List SessionEvent} (quiet : Quiet left after)
    (awaited : ∀ pending, left.pending = some pending → OnRecord options course pending)
    (same
      : left.options = course.session.options
        ∧ left.nextId = course.session.nextId
        ∧ left.isRunning = course.session.isRunning)
    (comes : moment.after = after.withEvents waiting)
    : SlotKept options (course.note occurrence) := by
  obtain ⟨settings, nextId, runs⟩ := same
  have noted
      : course.note occurrence
        = { session := after.withEvents waiting, past := course.past ++ [moment] } := by
    rw [← comes, now]
    rfl
  have asked := Moment.sinceStart_concat course.past moment
  rw [unstarted, unasked, List.append_nil, if_neg Bool.false_ne_true] at asked
  have still (running : after.isRunning = true) : after.nextId = course.session.nextId :=
    (quiet.nextId running).trans nextId
  rw [noted]
  refine ⟨quiet.options.trans (settings.trans kept.settings), fun running => ?_,
    fun pending slot => ?_⟩
  · rw [asked, kept.numbered (runs.symm.trans (quiet.running running))]
    exact congrArg List.range (still running).symm
  · rcases quiet.slot with none | ⟨before, connected⟩
    · exact absurd (slot.symm.trans none) nofun
    · have onRecord := awaited pending (before.symm.trans slot)
      have running : after.isRunning = true :=
        connected.trans (runs.trans onRecord.attached)
      exact onRecord.congr running (still running) asked

/-- A request goes out, and it is awaited in place of any other. -/
theorem issue (kept : SlotKept options course) {call : SessionCall} {moment : Moment}
    {method : Method} {params : Value} {transport : Transport}
    (now : moment = { session := course.session, occurrence := .call call })
    (running : course.session.isRunning = true)
    (one : moment.asked = [{ id := course.session.nextId, method }])
    (sent
      : moment.after
        = (course.session.asking method).delivered transport
            (requestMessage course.session.nextId method params))
    : SlotKept options (course.note (.call call)) := by
  have noted
      : course.note (.call call)
        = { session := moment.after, past := course.past ++ [moment] } := by
    rw [now]
    rfl
  have unstarted : moment.isStart = false := by rw [now]; rfl
  have asked := Moment.sinceStart_concat course.past moment
  rw [unstarted, one, if_neg Bool.false_ne_true] at asked
  rw [noted, sent]
  refine ⟨kept.settings, fun _ => ?_, fun pending slot => ?_⟩
  · rw [asked, List.map_append, kept.numbered running]
    exact List.range_succ.symm
  · obtain rfl : course.session.nextPending method = pending := Option.some.inj slot
    obtain ⟨id, asks, retain⟩ := course.session.nextPending_spec method
    have latest
        : (course.session.nextPending method).id + 1 = course.session.nextId + 1 :=
      congrArg (· + 1) id
    have completes {pending : PendingRequest}
        (slot : course.session.pending = some pending) (retain : pending.retain = true)
        : pending.method = .completion :=
      ((kept.slot pending slot).retained retain).1
    have settled (retained : (course.session.nextPending method).retain = true)
        : method = .completion ∧ options.retainCompletion = true := by
      rw [retain, SessionOptions.retains, Method.retains, Bool.and_eq_true, decide_eq_true_eq,
        kept.settings] at retained
      exact retained
    rcases nextPending_cases (fun _ => completes) method with
      ⟨previous, before, goes, rfl, next⟩ | ⟨first, fresh⟩
    · -- The streak before it is as long as its ids say, and it ends with the latest request.
      obtain ⟨_, following, ordered, delivered, retained, _⟩ := kept.slot previous before
      obtain ⟨completed, retaining, earlier, streak⟩ := retained goes
      rw [next] at retain ⊢
      refine ⟨rfl, rfl, ?_, ?_, ?_, ?_⟩
      · dsimp only
        omega
      · intro id same
        have between := delivered id same
        dsimp only
        omega
      · refine fun _ => ⟨completed, retaining, earlier, ?_⟩
        have count
            : course.session.nextId + 1 - previous.firstId
              = (previous.id + 1 - previous.firstId) + 1 := by
          omega
        have last
            : previous.firstId + (previous.id + 1 - previous.firstId)
              = course.session.nextId := by
          omega
        dsimp only
        rw [asked, streak, count, List.range'_1_concat, List.map_append, last,
          List.append_assoc]
        rfl
      · intro unretained
        exact absurd (goes.symm.trans unretained) (by decide)
    · refine ⟨rfl, latest, ?_, ?_, fun retained => ?_, fun _ => ⟨first.trans id.symm, fresh⟩⟩
      · rw [first, id]
      · intro id same
        rw [fresh] at same
        cases same
      · obtain ⟨rfl, retaining⟩ := settled retained
        refine ⟨asks, retaining, Moment.sinceStart course.past, ?_⟩
        rw [asked, first, id, Nat.add_sub_cancel_left]
        rfl

/-- A message asks for nothing. One that answers what is awaited leaves what goes on waiting. -/
theorem message (kept : SlotKept options course) (message : Value)
    : SlotKept options (course.note (.message message)) := by
  obtain ⟨after, queued, reacts, outcome⟩ := course.session.handleMessage_reacts message
  have comes := (handleMessage_of_reacts reacts).1
  rcases outcome with ⟨quiet, _⟩ | ⟨pending, id, slot, awaited, quiet, _⟩
  · exact kept.passes rfl rfl rfl quiet kept.slot ⟨rfl, rfl, rfl⟩ comes
  · have answered (next : PendingRequest) (given : pending.afterResponse id = some next)
        : OnRecord options course next :=
      (kept.slot pending slot).answered awaited given
    exact kept.passes rfl rfl rfl quiet answered ⟨rfl, rfl, rfl⟩ comes

/-- A call asks for nothing, or it issues a request. -/
theorem call (kept : SlotKept options course) {call : SessionCall}
    (silent : ∀ chunk, call ≠ .act (.receive chunk))
    : SlotKept options (course.note (.call call)) := by
  rcases call.run_cases course.session silent with
    ⟨unasked, quiet⟩ | ⟨running, method, params, transport, one, _, sent⟩
  · have comes
        : (call.run course.session).2
          = (call.run course.session).2.withEvents (call.run course.session).2.events :=
      rfl
    exact kept.passes rfl rfl unasked quiet kept.slot ⟨rfl, rfl, rfl⟩ comes
  · exact kept.issue rfl running one sent

/-- Whatever happens keeps what is awaited on record. -/
theorem note (kept : SlotKept options course) {occurrence : Occurrence}
    (atOnce : ∀ chunk, occurrence ≠ .call (.act (.receive chunk)))
    : SlotKept options (course.note occurrence) := by
  cases occurrence with
  | start transport => exact kept.start transport
  | stop => exact kept.stop
  | message message => exact kept.message message
  | call call => exact kept.call fun chunk same => atOnce chunk (congrArg _ same)

/-- Every course that is reached, by induction on it. -/
theorem reached (reached : Course.Reached options course) : SlotKept options course := by
  induction reached with
  | new => exact .new options
  | framed _ framer ih => exact ih.framed framer
  | noted _ occurrence atOnce ih => exact ih.note atOnce

end SlotKept

end LanguageClient
