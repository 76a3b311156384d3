import LanguageClient.Proofs.Session.Independence

/-! Messages and deeds in a row. Messages that are independent of the deeds lead to the
same session after them as before them, and to the same events but for candidates that have been
given up.
-/

namespace LanguageClient

open Json (Value)

-----------------------------------------------------------------------------------------
-- Events that are missing
-----------------------------------------------------------------------------------------

/-- Some events are others without candidates that have been given up, if any have been. -/
structure Sheds (released : Bool) (more fewer : List SessionEvent) : Prop where
  length : fewer.length ≤ more.length
  others
    : fewer.filter (fun event => !event.isCandidates)
      = more.filter fun event => !event.isCandidates
  same : released = false → fewer = more

namespace Sheds

variable {released released' : Bool} {first second third : List SessionEvent}

theorem refl (released : Bool) (events : List SessionEvent) : Sheds released events events where
  length := Nat.le_refl _
  others := rfl
  same := fun _ => rfl

theorem trans (earlier : Sheds released first second) (later : Sheds released' second third)
    : Sheds (released || released') first third where
  length := later.length.trans earlier.length
  others := later.others.trans earlier.others
  same := by
    intro neither
    obtain ⟨kept, kept'⟩ := Bool.or_eq_false_iff.mp neither
    exact (later.same kept').trans (earlier.same kept)

theorem append {more fewer : List SessionEvent} (front : Sheds released first second)
    (back : Sheds released more fewer)
    : Sheds released (first ++ more) (second ++ fewer) where
  length := by
    rw [List.length_append, List.length_append]
    exact Nat.add_le_add front.length back.length
  others := by rw [List.filter_append, List.filter_append, front.others, back.others]
  same := fun kept => by rw [front.same kept, back.same kept]

end Sheds

namespace Session

-----------------------------------------------------------------------------------------
-- One message
-----------------------------------------------------------------------------------------

/-- A session after a message whose event has been taken. -/
def digest (session : Session) (message : Value) : Session :=
  (session.handleMessage message).2.withEvents []

theorem Overlooks.withEvents {session : Session} {message : Value} {deed : Deed}
    (overlooks : session.Overlooks message deed) (events : List SessionEvent)
    : (session.withEvents events).Overlooks message deed where
  request := overlooks.request
  diagnostics := by
    rw [perform_withEvents]
    exact overlooks.diagnostics
  response := by
    rw [perform_withEvents]
    exact overlooks.response
  refusal := overlooks.refusal

/-- What a message comes to, from what it does to any events. -/
theorem digest_of_alike {session : Session} {message : Value} {deed : Deed}
    (alike
      : ∀ events,
          (((session.withEvents events).perform deed).handleMessage message).2
          = (((session.withEvents events).handleMessage message).2).perform deed)
    : (session.perform deed).digest message = (session.digest message).perform deed
      ∧ Sheds deed.isRelease (session.queuedBy message)
          ((session.perform deed).queuedBy message) := by
  constructor
  · have whole
        : ((session.perform deed).handleMessage message).2
          = ((session.handleMessage message).2).perform deed :=
      alike session.events
    rw [digest, digest, perform_withEvents, whole]
  · have kept := congrArg (·.events)
      (perform_eq_aside ((session.withEvents []).handleMessage message).2 deed)
    have queued : (session.perform deed).queuedBy message = session.queuedBy message := by
      rw [queuedBy, ← perform_withEvents, alike []]
      exact kept
    rw [queued]
    exact .refl _ _

/-- A deed without an effect may be left out. -/
theorem digest_of_idles {session : Session} {deed : Deed}
    (idles : session.Idles deed) (message : Value)
    : (session.perform deed).digest message = (session.digest message).perform deed
      ∧ Sheds deed.isRelease (session.queuedBy message)
          ((session.perform deed).queuedBy message) := by
  refine digest_of_alike fun events => ?_
  have idles' : (session.withEvents events).Idles deed := by cases deed <;> exact idles
  rw [idles'.perform, (idles'.handleMessage message).perform]

/-- What a streak is answered with is not missed once the streak has been given up. -/
theorem Answers.digest_releasePending {session : Session} {message : Value}
    {pending : PendingRequest} {response : Response}
    (answers : session.Answers message pending response) (retain : pending.retain = true)
    (method : pending.method = .completion)
    (accepted : ∀ reason, response.outcome ≠ .error reason)
    : session.releasePending.digest message = (session.digest message).releasePending
      ∧ Sheds true (session.queuedBy message) (session.releasePending.queuedBy message) := by
  have slot := answers.1
  have given (events : List SessionEvent)
      : (session.withEvents events).releasePending
        = { session with pending := none, events } := by
    unfold releasePending withEvents
    rw [if_pos (by rw [slot]; exact retain)]
  have unanswered (events : List SessionEvent)
      : ((session.withEvents events).releasePending.handleMessage message).2
        = (session.withEvents events).releasePending := by
    rw [given, handleMessage, answers.2.1]
    rfl
  have retained : pending.afterResponse response.id
      = some { pending with lastDelivered := some response.id } := by
    rw [PendingRequest.afterResponse, if_pos retain]
  constructor
  · obtain ⟨events, handled, _⟩ := answers.candidates method accepted
    have whole := unanswered session.events
    rw [given] at whole
    have given' : session.releasePending = { session with pending := none } :=
      given session.events
    rw [digest, digest, handled, retained, given']
    refine (congrArg (·.withEvents []) whole).trans ?_
    unfold releasePending withEvents
    rw [if_pos (by exact retain)]
  · have apart : (session.withEvents []).Answers message pending response := answers
    obtain ⟨events, handled, waiting⟩ := apart.candidates method accepted
    have queued : session.queuedBy message = events := by rw [queuedBy, handled]
    have nothing : session.releasePending.queuedBy message = [] := by
      have same := congrArg (·.events) (unanswered [])
      have waiting := congrArg (·.events) (given [])
      dsimp only at same waiting
      rw [waiting] at same
      have stripped
          : session.releasePending.withEvents [] = (session.withEvents []).releasePending :=
        (session.perform_withEvents [] .releasePending).symm
      rw [queuedBy, stripped]
      exact same
    have unwanted : events.filter (fun event => !event.isCandidates) = [] := by
      rcases waiting with rfl | ⟨event, candidates, rfl⟩
      · rfl
      · change List.filter _ (waitingAfter session.options.eventCapacity [] (some event)) = []
        unfold waitingAfter
        dsimp only
        split
        · rfl
        · split <;> simp [candidates]
    rw [queued, nothing]
    exact ⟨Nat.zero_le _, unwanted.symm, fun kept => absurd kept (by decide)⟩

/-- A message that does not depend on a deed leads to the same session after it. -/
theorem digest_perform {session : Session} {message : Value} {deed : Deed}
    (retains : session.RetainsCompletions) (independent : session.Independent message deed)
    : (session.perform deed).digest message = (session.digest message).perform deed
      ∧ Sheds deed.isRelease (session.queuedBy message)
          ((session.perform deed).queuedBy message) := by
  by_cases idles : session.Idles deed
  · exact digest_of_idles idles message
  have overlooks := independent.resolve_left idles
  cases read : Incoming.ofValue message with
  | error error =>
      exact digest_of_alike fun events =>
        handleMessage_perform (overlooks.withEvents events) (by simp [read]) (by simp [read])
  | ok incoming =>
      cases incoming with
      | notification method params =>
          exact digest_of_alike fun events =>
            handleMessage_perform (overlooks.withEvents events) (by simp [read]) (by simp [read])
      | request request =>
          have released := overlooks.request request read
          cases deed with
          | requestCompletion _ | openDocument _ _ _ | changeDocument _ => cases released
          | releasePending =>
              refine digest_of_alike fun events => ?_
              unfold handleMessage
              rw [read]
              exact send_releasePending _ _
      | response response =>
          have passed
              (unawaited
                : ¬session.Awaits response.id ∧ ¬(session.perform deed).Awaits response.id)
              : (session.perform deed).digest message = (session.digest message).perform deed
                ∧ Sheds deed.isRelease (session.queuedBy message)
                    ((session.perform deed).queuedBy message) := by
            refine digest_of_alike fun events => ?_
            refine handleMessage_perform (overlooks.withEvents events) (by simp [read]) ?_
            intro other same
            obtain rfl := Incoming.response.inj (Except.ok.inj (read.symm.trans same))
            rw [perform_withEvents]
            exact unawaited
          cases deed with
          | requestCompletion _ | openDocument _ _ _ | changeDocument _ =>
              exact passed (overlooks.response response read rfl)
          | releasePending =>
              obtain ⟨pending, slot, retain⟩ : ∃ pending,
                  session.pending = some pending ∧ pending.retain = true := by
                cases slot : session.pending with
                | none => exact absurd (by simp [Idles, slot]) idles
                | some pending => exact ⟨pending, rfl, by simpa [Idles, slot] using idles⟩
              have given : session.releasePending.pending = none := by
                rw [releasePending, slot, Option.any_some, retain, if_pos rfl]
              by_cases awaited : pending.awaits response.id = true
              · refine Answers.digest_releasePending ⟨slot, read, awaited⟩ retain
                  (retains pending slot retain) fun reason => ?_
                exact overlooks.refusal response reason read rfl ⟨pending, slot, awaited⟩
              · refine passed ⟨?_, ?_⟩
                · rintro ⟨other, slot', awaited'⟩
                  obtain rfl := Option.some.inj (slot.symm.trans slot')
                  exact awaited awaited'
                · rintro ⟨other, slot', _⟩
                  cases given.symm.trans slot'

-----------------------------------------------------------------------------------------
-- Messages in a row
-----------------------------------------------------------------------------------------

/-- A session after messages whose events have been taken. -/
def digestAll (session : Session) (messages : List Value) : Session :=
  messages.foldl digest session

/-- Each of some messages is independent of a deed that may take place before any of them. -/
def IndependentAll (session : Session) (deed : Deed) : List Value → Prop
  | [] => True
  | message :: rest =>
    session.Independent message deed ∧ (session.digest message).IndependentAll deed rest

/-- Messages are independent of deeds in a row. -/
def Undisturbed (session : Session) (messages : List Value) : List Deed → Prop
  | [] => True
  | deed :: rest =>
    session.IndependentAll deed messages
    ∧ (session.perform deed).Undisturbed messages rest

theorem RetainsCompletions.digest {session : Session} (retains : session.RetainsCompletions)
    (message : Value)
    : (session.digest message).RetainsCompletions :=
  retains.handleMessage message

theorem RetainsCompletions.perform {session : Session} (retains : session.RetainsCompletions)
    (deed : Deed)
    : (session.perform deed).RetainsCompletions := by
  exact retains.run deed.silent

theorem withEvents_of_none {session : Session} (none : session.events = [])
    : session.withEvents [] = session := by
  rw [← none]
  rfl

theorem digestAll_events (session : Session) (messages : List Value)
    : ((session.withEvents []).digestAll messages).events = [] :=
  List.foldlRecOn messages digest (motive := fun session => session.events = []) rfl
    fun _ _ _ _ => rfl

theorem queuedBy_withEvents (session : Session) (events : List SessionEvent) (message : Value)
    : (session.withEvents events).queuedBy message = session.queuedBy message :=
  rfl

theorem digest_withEvents (session : Session) (events : List SessionEvent) (message : Value)
    : (session.withEvents events).digest message = session.digest message := by
  obtain ⟨after, queued, reacts, _⟩ := session.handleMessage_reacts message
  rw [digest, digest, (handleMessage_of_reacts reacts).1]
  exact congrArg (·.withEvents []) (reacts events)

/-- The events that messages let wait do not depend on what waits already. -/
theorem queuedByAll_withEvents (session : Session) (events : List SessionEvent)
    (messages : List Value)
    : (session.withEvents events).queuedByAll messages = session.queuedByAll messages := by
  induction messages generalizing session events with
  | nil => rfl
  | cons message rest ih =>
      have same
          : (((session.withEvents events).handleMessage message).2).withEvents []
            = ((session.handleMessage message).2).withEvents [] :=
        session.digest_withEvents events message
      rw [queuedByAll, queuedByAll, queuedBy_withEvents, ← ih _ [], same, ih]

theorem queuedByAll_cons (session : Session) (message : Value) (rest : List Value)
    : session.queuedByAll (message :: rest)
      = session.queuedBy message ++ (session.digest message).queuedByAll rest := by
  rw [queuedByAll, digest, queuedByAll_withEvents]

/-- One deed among messages, by induction on the messages after it. -/
theorem digestAll_perform {session : Session} {deed : Deed} {messages : List Value}
    (retains : session.RetainsCompletions)
    (independent : session.IndependentAll deed messages)
    : (session.perform deed).digestAll messages = (session.digestAll messages).perform deed
      ∧ Sheds deed.isRelease (session.queuedByAll messages)
          ((session.perform deed).queuedByAll messages) := by
  induction messages generalizing session with
  | nil => exact ⟨rfl, .refl _ _⟩
  | cons message rest ih =>
      obtain ⟨same, sheds⟩ := digest_perform retains independent.1
      obtain ⟨same', sheds'⟩ := ih (retains.digest message) independent.2
      constructor
      · change ((session.perform deed).digest message).digestAll rest = _
        rw [same]
        exact same'
      · rw [queuedByAll_cons, queuedByAll_cons, same]
        exact sheds.append sheds'

/-- Deeds among messages, by induction on them. -/
theorem digestAll_performAll {session : Session} {deeds : List Deed}
    {messages : List Value} (retains : session.RetainsCompletions)
    (undisturbed : session.Undisturbed messages deeds)
    : (session.performAll deeds).digestAll messages
        = (session.digestAll messages).performAll deeds
      ∧ Sheds (deeds.any Deed.isRelease) (session.queuedByAll messages)
          ((session.performAll deeds).queuedByAll messages) := by
  induction deeds generalizing session with
  | nil => exact ⟨rfl, .refl _ _⟩
  | cons deed rest ih =>
      obtain ⟨same, sheds⟩ := digestAll_perform retains undisturbed.1
      obtain ⟨same', sheds'⟩ := ih (retains.perform deed) undisturbed.2
      refine ⟨?_, sheds.trans sheds'⟩
      change ((session.perform deed).performAll rest).digestAll messages = _
      rw [same', same]
      rfl

/-- While there is room, an event waits behind the others. -/
theorem handleMessage_of_room {session : Session} {message : Value}
    (room : (session.events ++ session.queuedBy message).length ≤ session.options.eventCapacity)
    : (session.handleMessage message).2
      = (session.digest message).withEvents (session.events ++ session.queuedBy message) := by
  obtain ⟨after, queued, reacts, _⟩ := session.handleMessage_reacts message
  obtain ⟨whole, alone⟩ := handleMessage_of_reacts reacts
  have waiting
      : waitingAfter session.options.eventCapacity session.events queued
        = session.events ++ waitingAfter session.options.eventCapacity [] queued := by
    rw [alone] at room
    cases queued with
    | none => exact (List.append_nil _).symm
    | some event =>
        unfold waitingAfter at room ⊢
        dsimp only at room ⊢
        split
        · exact (List.append_nil _).symm
        · rename_i positive
          have empty : ([] : List SessionEvent).length ≠ session.options.eventCapacity :=
            fun same => positive same.symm
          rw [if_neg positive, if_neg empty, List.length_append] at room
          have short : session.events.length ≠ session.options.eventCapacity := by
            simp only [List.nil_append, List.length_cons] at room
            omega
          rw [if_neg empty, if_neg short]
          rfl
  rw [digest, whole, alone, waiting]
  rfl

theorem digest_options (session : Session) (message : Value)
    : (session.digest message).options = session.options :=
  (session.handleMessage_unasked message).1

theorem handleMessages_options (session : Session) (messages : List Value)
    : (session.handleMessages messages).options = session.options :=
  handleMessages_keeps (P := fun state => state.options = session.options) rfl
    (fun state message same => (state.handleMessage_unasked message).1.trans same) messages

/-- There is room for the events that wait and for all those that messages let wait. -/
def HasRoom (session : Session) (messages : List Value) : Prop :=
  (session.events ++ session.queuedByAll messages).length ≤ session.options.eventCapacity

instance (session : Session) (messages : List Value) : Decidable (session.HasRoom messages) :=
  inferInstanceAs (Decidable (_ ≤ _))

/-- Room for more events is room for fewer. -/
theorem HasRoom.front {session : Session} {messages more : List Value}
    (room : session.HasRoom (messages ++ more))
    : session.HasRoom messages := by
  unfold HasRoom at *
  rw [queuedByAll_append, ← List.append_assoc, List.length_append] at room
  omega

/-- While there is room for all events, each of them waits, by induction on the messages. -/
theorem handleMessages_of_room {session : Session} {messages : List Value}
    (room : session.HasRoom messages)
    : session.handleMessages messages
      = ((session.withEvents []).digestAll messages).withEvents
          (session.events ++ session.queuedByAll messages) := by
  induction messages generalizing session with
  | nil =>
      rw [queuedByAll, List.append_nil]
      rfl
  | cons message rest ih =>
      unfold HasRoom at room ih
      rw [queuedByAll_cons, ← List.append_assoc] at room ⊢
      have fits
          : (session.events ++ session.queuedBy message).length
            ≤ session.options.eventCapacity := by
        rw [List.length_append] at room
        omega
      generalize more : session.events ++ session.queuedBy message = waiting at room fits ⊢
      have first
          : (session.handleMessage message).2
            = (session.digest message).withEvents waiting := by
        rw [← more] at fits ⊢
        exact handleMessage_of_room fits
      have later
          : ((session.digest message).withEvents waiting).handleMessages rest
            = ((session.digest message).digestAll rest).withEvents
                (waiting ++ ((session.digest message).withEvents waiting).queuedByAll rest) := by
        refine ih ?_
        rw [queuedByAll_withEvents]
        change _ ≤ (session.digest message).options.eventCapacity
        rw [session.digest_options]
        exact room
      rw [queuedByAll_withEvents] at later
      change (session.handleMessage message).2.handleMessages rest
        = (((session.withEvents []).digest message).digestAll rest).withEvents _
      rw [first, digest_withEvents]
      exact later

-----------------------------------------------------------------------------------------
-- Notices
-----------------------------------------------------------------------------------------

/-- Whether a message is a notification that is not about diagnostics. -/
def isNotice (message : Value) : Bool :=
  match Incoming.ofValue message with
  | .ok (.notification method _) => method ≠ "textDocument/publishDiagnostics"
  | _ => false

/-- No notice depends on a deed. -/
theorem overlooks_of_notice {message : Value} (notice : isNotice message = true)
    (session : Session) (deed : Deed)
    : session.Overlooks message deed := by
  unfold isNotice at notice
  split at notice
  · rename_i name given read
    have other : name ≠ "textDocument/publishDiagnostics" := of_decide_eq_true notice
    refine ⟨by simp [read], ?_, by simp [read], by simp [read]⟩
    intro method params publication same understood
    obtain ⟨rfl, rfl⟩ := Incoming.notification.inj (Except.ok.inj (read.symm.trans same))
    unfold Notification.ofMethod at understood
    split at understood
    · exact absurd rfl other
    · cases shown : Notice.ofValue given with
      | error error => rw [shown] at understood; cases understood
      | ok notice => rw [shown] at understood; cases understood
    · cases logged : Notice.ofValue given with
      | error error => rw [logged] at understood; cases understood
      | ok notice => rw [logged] at understood; cases understood
    · cases understood
  · cases notice

/-- Notices may arrive at any time, by induction on them and on the deeds. -/
theorem undisturbed_of_notices (session : Session) {messages : List Value}
    (notices : messages.all isNotice = true) (deeds : List Deed)
    : session.Undisturbed messages deeds := by
  have independent (deed : Deed) (session : Session)
      : session.IndependentAll deed messages := by
    induction messages generalizing session with
    | nil => exact trivial
    | cons message rest ih =>
        rw [List.all_cons, Bool.and_eq_true] at notices
        exact ⟨Or.inr (overlooks_of_notice notices.1 session deed), ih notices.2 _⟩
  induction deeds generalizing session with
  | nil => exact trivial
  | cons deed rest ih => exact ⟨independent deed session, ih _⟩

-----------------------------------------------------------------------------------------
-- Courses
-----------------------------------------------------------------------------------------

theorem RetainsCompletions.handleMessages {session : Session}
    (retains : session.RetainsCompletions) (messages : List Value)
    : (session.handleMessages messages).RetainsCompletions :=
  handleMessages_keeps retains (fun _ message retains => retains.handleMessage message) messages

theorem RetainsCompletions.receive {session : Session} (retains : session.RetainsCompletions)
    (chunk : List UInt8)
    : (session.receive chunk).RetainsCompletions := by
  rw [receive_eq]
  exact retains.handleMessages _

/-- Whatever happens to a session, only completion requests go on waiting after a reply. -/
theorem RetainsCompletions.apply {session : Session} (retains : session.RetainsCompletions)
    (occurrence : Occurrence)
    : (occurrence.apply session).RetainsCompletions := by
  cases occurrence with
  | start transport => exact nofun
  | stop => exact nofun
  | message message => exact retains.handleMessage message
  | call call =>
      by_cases arrival : ∃ chunk, call = .act (.receive chunk)
      · obtain ⟨chunk, rfl⟩ := arrival
        exact retains.receive chunk
      · exact retains.run fun chunk same => arrival ⟨chunk, same⟩

/-- So it is along every course, by induction on what happens. -/
theorem retainsCompletions_of_course (options : SessionOptions) (occurrences : List Occurrence)
    : (Course.after { options } occurrences).session.RetainsCompletions := by
  rw [Course.after_session]
  have new : ({ options } : Session).RetainsCompletions := nofun
  exact List.foldlRecOn occurrences _ (motive := RetainsCompletions) new
    fun _ retains occurrence _ => retains.apply occurrence

end Session

end LanguageClient
