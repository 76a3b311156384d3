import LanguageClient.Proofs.Json.Reading
import LanguageClient.Proofs.Session.Course
import LanguageClient.Proofs.Session.DocumentChanges

/-! Diagnostics are about the active document. Those that a session shows are the latest ones
that have been published for it, and they are forgotten when another document becomes active or
none is.
-/

namespace LanguageClient

open Json (Value)
open Session

/-- The diagnostics among the parameters of a publication that can be read. -/
def Publication.entries (params : Value) : List Diagnostic :=
  (((params.get? "diagnostics").bind Value.asArray?).getD []).filterMap fun item =>
    (Diagnostic.ofValue item).toOption

/-- A publication that can be read has all diagnostics that can be read, in their order. -/
theorem Publication.diagnostics_of_readable {params : Value} {publication : Publication}
    (readable : Publication.ofValue params = .ok publication)
    : publication.diagnostics = entries params := by
  obtain ⟨value, _, named⟩ := Json.exists_of_bind_ok readable
  obtain ⟨uri, _, listed⟩ := Json.exists_of_bind_ok named
  unfold entries
  cases found : params.get? "diagnostics" with
  | none =>
      rw [found] at listed
      obtain rfl := Except.ok.inj listed
      rfl
  | some value =>
      rw [found] at listed
      obtain ⟨items, read, same⟩ := Json.exists_of_bind_ok listed
      obtain rfl := Except.ok.inj same
      unfold Value.expectArray Value.expect at read
      split at read
      · rename_i array
        obtain rfl := Except.ok.inj read
        rw [Option.bind_some, array]
        rfl
      · cases read

/-- A moment brings diagnostics of the document that is active. -/
def Moment.Publishes (moment : Moment) (params : Value) (publication : Publication) : Prop :=
  ∃ message,
    moment.occurrence = .message message
    ∧ moment.session.Publishes message params publication

/-- The latest diagnostics that have been published for a document while it was active, if it
has been active ever since.
-/
def Course.InForce (course : Course) (params : Value) (publication : Publication) : Prop :=
  ∃ earlier moment later,
    course.past = earlier ++ moment :: later
    ∧ moment.Publishes params publication
    ∧ (∀ other ∈ later, ∀ params publication, ¬other.Publishes params publication)
    ∧ (∀ other ∈ later, other.session.active = some publication.uri)
    ∧ course.session.active = some publication.uri

/-- What is shown is in force, and what waits for the editor has been published. -/
structure DiagnosticsShown (course : Course) : Prop where
  shown
    : ∀ params publication,
        course.InForce params publication
        → course.session.diagnostics = Publication.entries params
  hidden
    : (∀ params publication, ¬course.InForce params publication)
      → course.session.diagnostics = []
  told
    : ∀ publication,
        .diagnostics publication ∈ course.session.events
        → ∃ moment ∈ course.past, ∃ params, moment.Publishes params publication

-----------------------------------------------------------------------------------------
-- One moment more
-----------------------------------------------------------------------------------------

namespace Course

variable {course : Course} {occurrence : Occurrence}

/-- A part of the past ends before the newest moment, or with it. -/
theorem note_split {earlier later : List Moment} {moment : Moment}
    (split : (course.note occurrence).past = earlier ++ moment :: later)
    : (moment = { session := course.session, occurrence } ∧ later = [])
      ∨ ∃ between,
          later = between ++ [{ session := course.session, occurrence }]
          ∧ course.past = earlier ++ moment :: between := by
  rcases List.eq_nil_or_concat' later with rfl | ⟨between, newest, rfl⟩
  · obtain ⟨_, same⟩ := List.append_inj' split rfl
    exact Or.inl ⟨(List.cons.inj same).1.symm, rfl⟩
  · rw [← List.cons_append, ← List.append_assoc] at split
    obtain ⟨past, same⟩ := List.append_inj' split rfl
    exact Or.inr ⟨between, by rw [← same], past⟩

/-- A moment that publishes nothing keeps what is in force if the active document stays. -/
theorem inForce_note_iff
    (unpublished
      : ∀ params publication,
          ¬Moment.Publishes { session := course.session, occurrence } params publication)
    {params : Value} {publication : Publication}
    : (course.note occurrence).InForce params publication
      ↔ course.InForce params publication
        ∧ (course.note occurrence).session.active = course.session.active := by
  constructor
  · rintro ⟨earlier, moment, later, split, publishes, last, kept, active⟩
    rcases note_split split with ⟨rfl, _⟩ | ⟨between, rfl, past⟩
    · exact absurd publishes (unpublished params publication)
    · have newest : { session := course.session, occurrence } ∈ between ++ [_] :=
        List.mem_append_right between (List.mem_singleton_self _)
      have still : course.session.active = some publication.uri := kept _ newest
      refine ⟨⟨earlier, moment, between, past, publishes, ?_, ?_, still⟩,
        active.trans still.symm⟩
      · exact fun other member => last other (List.mem_append_left _ member)
      · exact fun other member => kept other (List.mem_append_left _ member)
  · rintro ⟨⟨earlier, moment, later, split, publishes, last, kept, active⟩, stays⟩
    refine ⟨earlier, moment, later ++ [{ session := course.session, occurrence }], ?_, publishes,
      ?_, ?_, stays.trans active⟩
    · rw [note, split, List.append_assoc, List.cons_append]
    · intro other member
      rcases List.mem_append.mp member with before | now
      · exact last other before
      · rw [List.mem_singleton.mp now]
        exact unpublished
    · intro other member
      rcases List.mem_append.mp member with before | now
      · exact kept other before
      · rw [List.mem_singleton.mp now]
        exact active

/-- What has just been published is in force, and nothing else is. -/
theorem inForce_note_published {message params : Value} {publication : Publication}
    (publishes : course.session.Publishes message params publication)
    (active : (course.note (.message message)).session.active = course.session.active)
    : (course.note (.message message)).InForce params publication
      ∧ ∀ other publication,
          (course.note (.message message)).InForce other publication → other = params := by
  have now
      : Moment.Publishes { session := course.session, occurrence := .message message } params
          publication :=
    ⟨message, rfl, publishes⟩
  constructor
  · exact ⟨course.past, _, [], rfl, now, by simp, by simp, active.trans publishes.active⟩
  · rintro other publication' ⟨earlier, moment, later, split, published, last, _⟩
    rcases note_split split with ⟨rfl, _⟩ | ⟨between, rfl, _⟩
    · obtain ⟨_, same, received, _⟩ := published
      obtain rfl := Occurrence.message.inj same
      have one := Except.ok.inj (publishes.received.symm.trans received)
      exact (Incoming.notification.inj one).2.symm
    · exact absurd now (last _ (List.mem_append_right between (List.mem_singleton_self _)) _ _)

end Course

namespace DiagnosticsShown

variable {course : Course} {occurrence : Occurrence}

/-- Without a publication the diagnostics stay with the active document, or they are forgotten
as it is left.
-/
theorem unpublished (shows : DiagnosticsShown course)
    (unpublished
      : ∀ params publication,
          ¬Moment.Publishes { session := course.session, occurrence } params publication)
    (view
      : (course.note occurrence).session.active = course.session.active
          ∧ (course.note occurrence).session.diagnostics = course.session.diagnostics
        ∨ (course.note occurrence).session.diagnostics = []
          ∧ ((course.note occurrence).session.active = course.session.active
            → course.session.active = none))
    (untold
      : ∀ publication,
          .diagnostics publication ∈ (course.note occurrence).session.events
          → .diagnostics publication ∈ course.session.events)
    : DiagnosticsShown (course.note occurrence) := by
  have told (publication : Publication)
      (waits : .diagnostics publication ∈ (course.note occurrence).session.events)
      : ∃ moment ∈ (course.note occurrence).past,
          ∃ params, moment.Publishes params publication := by
    obtain ⟨moment, member, published⟩ := shows.told publication (untold publication waits)
    exact ⟨moment, List.mem_append_left _ member, published⟩
  have iff {params : Value} {publication : Publication}
      : (course.note occurrence).InForce params publication
        ↔ course.InForce params publication
          ∧ (course.note occurrence).session.active = course.session.active :=
    Course.inForce_note_iff unpublished
  rcases view with ⟨active, same⟩ | ⟨forgotten, moved⟩
  · refine ⟨fun params publication inForce => ?_, fun none => ?_, told⟩
    · exact same.trans (shows.shown params publication (iff.mp inForce).1)
    · exact same.trans (shows.hidden fun params publication inForce =>
        none params publication (iff.mpr ⟨inForce, active⟩))
  · refine ⟨fun params publication inForce => ?_, fun _ => forgotten, told⟩
    obtain ⟨⟨_, _, _, _, _, _, _, still⟩, stays⟩ := iff.mp inForce
    exact absurd (still.symm.trans (moved stays)) nofun

theorem keeps (shows : DiagnosticsShown course)
    (unpublished
      : ∀ params publication,
          ¬Moment.Publishes { session := course.session, occurrence } params publication)
    (kept : KeepsDocuments course.session (course.note occurrence).session)
    : DiagnosticsShown (course.note occurrence) :=
  shows.unpublished unpublished (Or.inl ⟨kept.active, kept.diagnostics⟩) kept.untold

/-- A connection starts or ends, and everything about the one before is forgotten. -/
theorem forgets (shows : DiagnosticsShown course)
    (unpublished
      : ∀ params publication,
          ¬Moment.Publishes { session := course.session, occurrence } params publication)
    (active : (course.note occurrence).session.active = none)
    (diagnostics : (course.note occurrence).session.diagnostics = [])
    (untold
      : ∀ publication,
          .diagnostics publication ∈ (course.note occurrence).session.events
          → .diagnostics publication ∈ course.session.events)
    : DiagnosticsShown (course.note occurrence) :=
  shows.unpublished unpublished
    (Or.inr ⟨diagnostics, fun same => same.symm.trans active⟩) untold

/-- A call publishes nothing. The diagnostics stay unless another document becomes active, or
the active one is closed.
-/
theorem call (shows : DiagnosticsShown course) {call : SessionCall}
    (silent : ∀ chunk, call ≠ .act (.receive chunk))
    : DiagnosticsShown (course.note (.call call)) := by
  have unpublished (params : Value) (publication : Publication)
      : ¬Moment.Publishes { session := course.session, occurrence := .call call } params
          publication := by
    rintro ⟨_, same, _⟩
    cases same
  rcases call.run_changes course.session silent with
    kept | ⟨_, uri, document, _, kept⟩ | ⟨_, uri, _, kept⟩
  · exact shows.keeps unpublished kept
  · obtain ⟨_, active, _, _, diagnostics⟩ := course.session.setActive_fields uri
    have events : (course.session.setActive uri).events = course.session.events := by
      unfold setActive
      split <;> rfl
    refine shows.unpublished unpublished ?_ ?_
    · by_cases same : course.session.active = some uri
      · rw [if_pos same] at diagnostics
        exact Or.inl ⟨kept.active.trans (active.trans same.symm),
          kept.diagnostics.trans diagnostics⟩
      · rw [if_neg same] at diagnostics
        refine Or.inr ⟨kept.diagnostics.trans diagnostics, fun stays => ?_⟩
        exact absurd (stays.symm.trans (kept.active.trans active)) same
    · exact fun publication told => events ▸ kept.untold publication told
  · exact shows.forgets unpublished kept.active kept.diagnostics kept.untold

/-- What is published for the active document is shown from then on. -/
theorem published (shows : DiagnosticsShown course) {message params : Value}
    {publication : Publication}
    (publishes : course.session.Publishes message params publication)
    : DiagnosticsShown (course.note (.message message)) := by
  have after
      : (course.note (.message message)).session
        = { course.session with diagnostics := publication.diagnostics }.pushEvent
            (.diagnostics publication) :=
    publishes.handleMessage
  have active : (course.note (.message message)).session.active = course.session.active := by
    rw [after, pushEvent_eq]
    rfl
  have diagnostics
      : (course.note (.message message)).session.diagnostics = Publication.entries params := by
    rw [after, pushEvent_eq]
    exact Publication.diagnostics_of_readable publishes.readable
  obtain ⟨inForce, alone⟩ := Course.inForce_note_published publishes active
  refine ⟨fun other publication' forced => ?_, fun none => absurd inForce (none _ _),
    fun publication' waits => ?_⟩
  · rw [alone other publication' forced]
    exact diagnostics
  · rw [after] at waits
    rcases mem_pushEvent waits with old | new
    · obtain ⟨moment, member, told⟩ := shows.told publication' old
      exact ⟨moment, List.mem_append_left _ member, told⟩
    · obtain rfl := SessionEvent.diagnostics.inj new
      exact ⟨_, List.mem_append_right _ (List.mem_singleton_self _), params, message, rfl,
        publishes⟩

/-- A message publishes diagnostics for the active document, or it leaves what is shown. -/
theorem message (shows : DiagnosticsShown course) (message : Value)
    : DiagnosticsShown (course.note (.message message)) := by
  by_cases published : ∃ params publication, course.session.Publishes message params publication
  · obtain ⟨params, publication, publishes⟩ := published
    exact shows.published publishes
  · have other (params : Value) (publication : Publication)
        : ¬course.session.Publishes message params publication :=
      fun publishes => published ⟨params, publication, publishes⟩
    have unpublished (params : Value) (publication : Publication)
        : ¬Moment.Publishes { session := course.session, occurrence := .message message } params
            publication := by
      rintro ⟨_, same, publishes⟩
      obtain rfl := Occurrence.message.inj same
      exact other params publication publishes
    rcases handleMessage_documents other with kept | ⟨documents, _, kept⟩
    · exact shows.keeps unpublished kept
    · exact shows.unpublished unpublished (Or.inl ⟨kept.active, kept.diagnostics⟩) kept.untold

/-- Every course that is reached, by induction on it. -/
theorem reached {options : SessionOptions} {course : Course}
    (reached : Course.Reached options course)
    : DiagnosticsShown course := by
  induction reached with
  | new => exact ⟨fun _ _ ⟨_, _, _, split, _⟩ => absurd split (by simp), fun _ => rfl, nofun⟩
  | framed _ framer ih => exact ⟨ih.shown, ih.hidden, ih.told⟩
  | @noted course _ occurrence atOnce ih =>
      cases occurrence with
      | start transport => exact ih.forgets (by rintro _ _ ⟨_, same, _⟩; cases same) rfl rfl nofun
      | stop => exact ih.forgets (by rintro _ _ ⟨_, same, _⟩; cases same) rfl rfl nofun
      | message message => exact ih.message message
      | call call => exact ih.call fun chunk same => atOnce chunk (congrArg _ same)

end DiagnosticsShown

-----------------------------------------------------------------------------------------
-- What the editor sees
-----------------------------------------------------------------------------------------

namespace Session

/-- Diagnostics are queued for the editor only as they are published for the active document. -/
theorem publishes_of_queuedBy {session : Session} {message : Value} {publication : Publication}
    (queued : .diagnostics publication ∈ session.queuedBy message)
    : ∃ params, session.Publishes message params publication := by
  by_cases published
    : ∃ params publication, (session.withEvents []).Publishes message params publication
  · obtain ⟨params, other, publishes⟩ := published
    rw [queuedBy, publishes.handleMessage] at queued
    rcases mem_pushEvent queued with old | new
    · cases old
    · obtain rfl := SessionEvent.diagnostics.inj new
      exact ⟨params, publishes.received, publishes.readable, publishes.active⟩
  · have other (params : Value) (publication : Publication)
        : ¬(session.withEvents []).Publishes message params publication :=
      fun publishes => published ⟨params, publication, publishes⟩
    rcases handleMessage_documents other with kept | ⟨documents, _, kept⟩
    · exact absurd (kept.untold publication queued) List.not_mem_nil
    · exact absurd (kept.untold publication queued) List.not_mem_nil

/-- A publication for a document that is not active is passed over. -/
theorem handleMessage_of_inactive {session : Session} {message params : Value}
    {publication : Publication}
    (received
      : Incoming.ofValue message
        = .ok (.notification "textDocument/publishDiagnostics" params))
    (readable : Publication.ofValue params = .ok publication)
    (inactive : session.active ≠ some publication.uri)
    : (session.handleMessage message).2 = session := by
  have understood := Notification.ofMethod_eq_diagnostics.mpr ⟨rfl, readable⟩
  rw [handleMessage, received]
  dsimp only [handleIncoming]
  rw [understood]
  exact if_neg inactive

end Session

/-- Diagnostics are about the active document, along every course of a new session through
starts, stops, calls and bytes. Those that are shown are the readable ones of the latest
publication for a document that was active as it arrived, if it has been active ever since, and
otherwise none are. Whatever diagnostics are told to the editor have been published for the
document that was active, and a publication for any other document changes nothing.
-/
theorem Course.diagnostics_of_active (options : SessionOptions) (occurrences : List Occurrence)
    : let course := Course.after { options } occurrences
      (∀ params publication,
        course.InForce params publication
        → course.session.diagnostics = Publication.entries params)
      ∧ ((∀ params publication, ¬course.InForce params publication)
        → course.session.diagnostics = [])
      ∧ (∀ publication,
          .diagnostics publication ∈ course.session.events
          → ∃ moment ∈ course.past, ∃ params, moment.Publishes params publication)
      ∧ ∀ moment ∈ course.past,
          ∀ message,
            moment.occurrence = .message message
            → (∀ publication,
                .diagnostics publication ∈ moment.session.queuedBy message
                → ∃ params, moment.Publishes params publication)
              ∧ ∀ params publication,
                  Incoming.ofValue message
                    = .ok (.notification "textDocument/publishDiagnostics" params)
                  → Publication.ofValue params = .ok publication
                  → moment.session.active ≠ some publication.uri
                  → moment.after = moment.session := by
  intro course
  have shows := DiagnosticsShown.reached (Course.Reached.after options occurrences)
  refine ⟨shows.shown, shows.hidden, shows.told, fun moment _ message occurs => ⟨?_, ?_⟩⟩
  · intro publication queued
    obtain ⟨params, publishes⟩ := publishes_of_queuedBy queued
    exact ⟨params, message, occurs, publishes⟩
  · intro params publication received readable inactive
    rw [Moment.after, occurs]
    exact handleMessage_of_inactive received readable inactive

end LanguageClient
