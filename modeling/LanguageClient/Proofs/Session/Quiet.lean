import LanguageClient.Proofs.Session.Messages

/-! Operations that neither ask for anything nor let an event wait. All operations on
documents are such, and so are notifications and answers to requests of the server.
-/

namespace LanguageClient.Session

open Json (Value)

/-- The id and the method of a request, as they are read from its message. Other messages
lack one of the two.
-/
def requestHead? (message : Value) : Option (Nat × String) :=
  match (message.get? "id").bind Value.asNat?, message.getText? "method" with
  | some id, some method => some (id, method)
  | _, _ => none

theorem requestHead?_notificationMessage (method : String) (params : Value)
    : requestHead? (notificationMessage method params) = none := by
  simp [requestHead?]

theorem requestHead?_answer (request : ServerRequest)
    : requestHead? request.answer = none := by
  simp [requestHead?]

/-- Nothing is asked and no event is queued. What has been awaited may be given up, and it
is when the connection ends; after that ids do not count.
-/
structure Quiet (before after : Session) : Prop where
  options : after.options = before.options
  nextId : after.isRunning = true → after.nextId = before.nextId
  events : after.events <:+ before.events
  written
    : ∃ sent, after.written = before.written ++ sent ∧ sent.filterMap requestHead? = []
  running : after.isRunning = true → before.isRunning = true
  slot
    : after.pending = none
      ∨ (after.pending = before.pending ∧ after.isRunning = before.isRunning)

namespace Quiet

/-- Changes of documents, of what is known about the server, or of the bytes read so far. -/
theorem of_eq {before after : Session} (options : after.options = before.options)
    (transport : after.transport = before.transport) (written : after.written = before.written)
    (nextId : after.nextId = before.nextId) (pending : after.pending = before.pending)
    (events : after.events = before.events)
    : Quiet before after := by
  have running : after.isRunning = before.isRunning := by rw [isRunning, transport, isRunning]
  exact ⟨options, fun _ => nextId, events ▸ List.suffix_rfl, ⟨[], by rw [written, List.append_nil], rfl⟩,
    fun runs => running ▸ runs, Or.inr ⟨pending, running⟩⟩

/-- The connection ends. -/
theorem of_lost {before after : Session} (options : after.options = before.options)
    (transport : after.transport = none) (written : after.written = before.written)
    (pending : after.pending = none) (events : after.events <:+ before.events)
    : Quiet before after := by
  have stopped : after.isRunning ≠ true := by
    rw [isRunning, transport]
    decide
  exact ⟨options, fun runs => absurd runs stopped, events,
    ⟨[], by rw [written, List.append_nil], rfl⟩, fun runs => absurd runs stopped, Or.inl pending⟩

theorem refl (session : Session) : Quiet session session :=
  of_eq rfl rfl rfl rfl rfl rfl

theorem trans {first second third : Session} (earlier : Quiet first second)
    (later : Quiet second third)
    : Quiet first third where
  options := later.options.trans earlier.options
  nextId := fun runs => (later.nextId runs).trans (earlier.nextId (later.running runs))
  events := later.events.trans earlier.events
  written := by
    obtain ⟨sent, frames, unasked⟩ := earlier.written
    obtain ⟨more, frames', unasked'⟩ := later.written
    refine ⟨sent ++ more, ?_, ?_⟩
    · rw [frames', frames, List.append_assoc]
    · rw [List.filterMap_append, unasked, unasked']
      rfl
  running := fun runs => earlier.running (later.running runs)
  slot := by
    rcases later.slot with givenUp | ⟨kept, running⟩
    · exact Or.inl givenUp
    · rcases earlier.slot with givenUp | ⟨kept', running'⟩
      · exact Or.inl (kept.trans givenUp)
      · exact Or.inr ⟨kept.trans kept', running.trans running'⟩

/-- A streak is given up at most. -/
theorem unretained {before after : Session} (quiet : Quiet before after)
    (unretained : before.pending.any (·.retain) = false)
    : after.pending.any (·.retain) = false := by
  rcases quiet.slot with none | ⟨same, _⟩
  · rw [none]
    rfl
  · rw [same]
    exact unretained

end Quiet

/-- Sending anything but a request is quiet. -/
theorem send_quiet (session : Session) {message : Value}
    (unasked : requestHead? message = none)
    : Quiet session (session.send message).2 := by
  rcases session.send_cases message with
    ⟨_, outcome⟩ | ⟨_, reason, outcome⟩ | ⟨running, transport, outcome⟩
  · rw [outcome]
    exact Quiet.refl session
  · rw [outcome]
    exact Quiet.of_lost rfl rfl rfl rfl List.suffix_rfl
  · rw [outcome]
    refine ⟨rfl, fun _ => rfl, List.suffix_rfl, ⟨[message], rfl, ?_⟩, fun _ => running,
      Or.inr ⟨rfl, ?_⟩⟩
    · rw [List.filterMap_cons_none unasked, List.filterMap_nil]
    · exact running.symm

theorem notify_quiet (session : Session) (method : String) (params : Value)
    : Quiet session (session.notify method params).2 :=
  session.send_quiet (requestHead?_notificationMessage method params)

/-- A request that cannot be sent ends the connection, and it does not count. -/
theorem request_quiet_or (session : Session) (method : Method) (params : Value)
    : (∃ error after,
        session.request method params = (.error error, after) ∧ Quiet session after)
      ∨ (session.isRunning = true
        ∧ ∃ transport,
            session.request method params
            = (
                .ok { id := session.nextId, method },
                (session.asking method).delivered transport
                  (requestMessage session.nextId method params)
              )) := by
  rcases session.request_cases method params with
    ⟨_, outcome⟩ | ⟨_, reason, outcome⟩ | issued
  · exact Or.inl ⟨_, session, outcome, Quiet.refl session⟩
  · exact Or.inl ⟨_, _, outcome, Quiet.of_lost rfl rfl rfl rfl List.suffix_rfl⟩
  · exact Or.inr issued

/-- Waiting events may be taken at any time. -/
theorem drainEvents_quiet (session : Session) : Quiet session session.drainEvents.2 :=
  ⟨rfl, fun _ => rfl, List.nil_suffix, ⟨[], (List.append_nil _).symm, rfl⟩, id,
    Or.inr ⟨rfl, rfl⟩⟩

/-- A completion that is no longer awaited is given up without a word. -/
theorem releasePending_quiet (session : Session) : Quiet session session.releasePending := by
  unfold releasePending
  split
  · exact ⟨rfl, fun _ => rfl, List.suffix_rfl, ⟨[], (List.append_nil _).symm, rfl⟩, id,
      Or.inl rfl⟩
  · exact Quiet.refl session

theorem releasePending_unretained (session : Session)
    : session.releasePending.pending.any (·.retain) = false := by
  unfold releasePending
  split
  · rfl
  · rename_i unretained
    exact Bool.eq_false_iff.mpr unretained

-----------------------------------------------------------------------------------------
-- Documents
-----------------------------------------------------------------------------------------

theorem setActive_quiet (session : Session) (uri : String)
    : Quiet session (session.setActive uri) := by
  unfold setActive
  split
  · exact Quiet.refl session
  · exact Quiet.of_eq rfl rfl rfl rfl rfl rfl

theorem setDocument_quiet (session : Session) (uri : String) (document : OpenDocument)
    : Quiet session (session.setDocument uri document) :=
  Quiet.of_eq rfl rfl rfl rfl rfl rfl

theorem changeDocument_quiet (session : Session) (text : String)
    : Quiet session (session.changeDocument text).2 := by
  unfold changeDocument
  split
  · exact Quiet.refl session
  · split
    · exact Quiet.refl session
    · split
      · exact session.setDocument_quiet _ _
      · exact (session.setDocument_quiet _ _).trans (notify_quiet _ _ _)

theorem openDocument_quiet (session : Session) (uri language text : String)
    : Quiet session (session.openDocument uri language text).2 := by
  unfold openDocument
  split
  · exact Quiet.refl session
  · have activated := session.setActive_quiet uri
    dsimp only
    split
    · exact activated.trans (changeDocument_quiet _ text)
    · split
      · exact (activated.trans (setDocument_quiet _ _ _)).trans (notify_quiet _ _ _)
      · exact activated.trans (setDocument_quiet _ _ _)

theorem saveDocument_quiet (session : Session) (text : Option String)
    : Quiet session (session.saveDocument text).2 := by
  unfold saveDocument
  split
  · exact Quiet.refl session
  · split
    · exact Quiet.refl session
    · exact session.notify_quiet _ _

theorem closeDocument_quiet (session : Session) : Quiet session session.closeDocument.2 := by
  unfold closeDocument
  split
  · exact Quiet.refl session
  · rename_i uri _
    have closed
        : Quiet session
            { session with
              active := none
              diagnostics := []
              documents := session.documents.erase uri } :=
      Quiet.of_eq rfl rfl rfl rfl rfl rfl
    dsimp only
    split
    · exact closed
    · split
      · exact closed
      · exact closed.trans (notify_quiet _ _ _)

/-- Opens are sent one after another, by induction on the documents. -/
theorem sendOpens_quiet (session : Session) (opened : List (String × OpenDocument × String))
    : Quiet session (session.sendOpens opened).2 := by
  induction opened generalizing session with
  | nil => exact Quiet.refl session
  | cons first rest ih =>
      obtain ⟨uri, document, text⟩ := first
      have told : Quiet session (session.sendOpen uri document text).2 :=
        session.notify_quiet _ _
      unfold sendOpens
      split
      · rename_i sent outcome
        rw [outcome] at told
        exact told.trans (ih sent)
      · rename_i outcome
        rw [outcome] at told
        exact told

theorem flushDocuments_quiet (session : Session)
    : Quiet session session.flushDocuments.2 := by
  have marked
      : Quiet session { session with documents := markOpened session.documents } :=
    Quiet.of_eq rfl rfl rfl rfl rfl rfl
  exact marked.trans (sendOpens_quiet _ _)

end LanguageClient.Session
