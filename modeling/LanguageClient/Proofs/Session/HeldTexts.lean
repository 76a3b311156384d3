import LanguageClient.Proofs.Session.DocumentChanges
import LanguageClient.Proofs.Session.DocumentHandshake
import LanguageClient.Proofs.Session.PendingSlot

/-! Texts are held back until the handshake and not after it, in every document and whatever
breaks the connection on the way. With what is awaited this is all that a session relies on.
-/

namespace LanguageClient

open Json (Value)
open Session

/-- The active document is known. Before the handshake every document holds its text back, and
after it none does as long as the connection holds.
-/
structure Filed (session : Session) : Prop where
  activeKnown : ∀ uri, session.active = some uri → (session.documents.get? uri).isSome = true
  held
    : session.initialized = false
      → ∀ entry ∈ session.documents, entry.2.unopenedText.isSome = true
  told
    : session.isRunning = true
      → session.initialized = true
      → ∀ entry ∈ session.documents, entry.2.unopenedText = none

namespace Filed

variable {before after : Session}

/-- A session without documents, such as one that has just been started or stopped. -/
theorem of_none (active : after.active = none) (documents : after.documents = [])
    : Filed after where
  activeKnown := by
    intro uri same
    exact absurd (active.symm.trans same) nofun
  held := by
    intro _ entry member
    rw [documents] at member
    cases member
  told := by
    intro _ _ entry member
    rw [documents] at member
    cases member

/-- What keeps the documents keeps them filed, also when the connection ends with it. -/
theorem keeps (filed : Filed before) (kept : KeepsDocuments before after) : Filed after where
  activeKnown := by
    rw [kept.active, kept.documents]
    exact filed.activeKnown
  held := by
    rw [kept.initialized, kept.documents]
    exact filed.held
  told := by
    intro running
    rw [kept.initialized, kept.documents]
    exact filed.told (kept.running running)

/-- A text is held back if and only if the handshake has not ended, in a known document as in
a new one.
-/
theorem holds (filed : Filed before) (running : before.isRunning = true) {uri : String}
    {document : OpenDocument}
    (held
      : document.unopenedText.isSome
        = match before.documents.get? uri with
          | some known => known.unopenedText.isSome
          | none => !before.initialized)
    : document.unopenedText.isSome = !before.initialized := by
  cases found : before.documents.get? uri with
  | none => rwa [found] at held
  | some known =>
      have member := Keyed.mem_of_get? found
      have same : document.unopenedText.isSome = known.unopenedText.isSome := by
        rw [held, found]
      rw [same]
      cases initialized : before.initialized with
      | false => exact filed.held initialized _ member
      | true => rw [filed.told running initialized _ member]; rfl

/-- A text is given for a document, which is known from then on. -/
theorem gives (filed : Filed before) {uri : String} {document : OpenDocument}
    (held : document.unopenedText.isSome = !before.initialized)
    : Filed ((before.setActive uri).setDocument uri document) := by
  obtain ⟨documents, active, initialized, runs, _⟩ := before.setActive_fields uri
  have entries
      : ∀ entry ∈ ((before.setActive uri).setDocument uri document).documents,
          entry = (uri, document) ∨ entry ∈ before.documents := by
    intro entry member
    have inserted := Keyed.mem_insert member
    rwa [documents] at inserted
  refine ⟨fun other same => ?_, fun uninitialized entry member => ?_,
    fun running ready entry member => ?_⟩
  · obtain rfl := Option.some.inj (active.symm.trans same)
    exact Option.isSome_iff_exists.mpr ⟨document, Keyed.get?_insert_self _ _ _⟩
  · have before_uninitialized := initialized.symm.trans uninitialized
    rcases entries entry member with rfl | old
    · rw [held, before_uninitialized]
      rfl
    · exact filed.held before_uninitialized entry old
  · have before_initialized := initialized.symm.trans ready
    rcases entries entry member with rfl | old
    · rw [before_initialized] at held
      exact Option.isNone_iff_eq_none.mp (Option.isSome_eq_false_iff.mp held)
    · exact filed.told (runs.symm.trans running) before_initialized entry old

theorem forget (filed : Filed before) (uri : String) : Filed (before.forget uri) := by
  have old (entry : String × OpenDocument) (member : entry ∈ (before.forget uri).documents)
      : entry ∈ before.documents :=
    (Keyed.erase_sublist uri before.documents).subset member
  exact ⟨nofun, fun uninitialized entry member => filed.held uninitialized entry (old entry member),
    fun running initialized entry member =>
      filed.told running initialized entry (old entry member)⟩

/-- Every text has been taken when the handshake ends, unless the connection has ended. -/
theorem endsHandshake (filed : Filed before) (ends : EndsHandshake before after)
    : Filed after := by
  obtain ⟨documents, taken, kept⟩ := ends
  refine ⟨fun uri same => ?_, fun uninitialized => ?_, fun running _ entry member => ?_⟩
  · rw [kept.documents]
    have known := filed.activeKnown uri (kept.active.symm.trans same)
    rcases taken with rfl | ⟨rfl, _⟩
    · dsimp only
      rw [get?_markOpened, Option.isSome_map]
      exact known
    · exact known
  · have ended : true = false := kept.initialized.symm.trans uninitialized
    cases ended
  · rw [kept.documents] at member
    rcases taken with rfl | ⟨_, stopped⟩
    · obtain ⟨_, _, rfl⟩ := List.mem_map.mp member
      rfl
    · exact absurd (running.symm.trans stopped) (by decide)

/-- Diagnostics are not about the texts of documents. -/
theorem message (filed : Filed before) (message : Value)
    : Filed (before.handleMessage message).2 := by
  by_cases published : ∃ params publication, before.Publishes message params publication
  · obtain ⟨params, publication, publishes⟩ := published
    rw [publishes.handleMessage, pushEvent_eq]
    exact ⟨filed.activeKnown, filed.held, filed.told⟩
  · rcases handleMessage_documents fun params publication publishes =>
        published ⟨params, publication, publishes⟩ with
      kept | ends
    · exact filed.keeps kept
    · exact filed.endsHandshake ends

theorem call (filed : Filed before) {call : SessionCall}
    (silent : ∀ chunk, call ≠ .act (.receive chunk))
    : Filed (call.run before).2 := by
  rcases call.run_changes before silent with
    kept | ⟨running, uri, document, held, kept⟩ | ⟨_, uri, _, kept⟩
  · exact filed.keeps kept
  · exact (filed.gives (filed.holds running held)).keeps kept
  · exact (filed.forget uri).keeps kept

/-- Every course that is reached, by induction on it. -/
theorem reached {options : SessionOptions} {course : Course}
    (reached : Course.Reached options course)
    : Filed course.session := by
  induction reached with
  | new => exact .of_none rfl rfl
  | framed _ framer ih => exact ⟨ih.activeKnown, ih.held, ih.told⟩
  | @noted course _ occurrence atOnce ih =>
      cases occurrence with
      | start transport => exact .of_none rfl rfl
      | stop => exact .of_none rfl rfl
      | message message => exact ih.message message
      | call call => exact ih.call fun chunk same => atOnce chunk (congrArg _ same)

end Filed

/-- What holds of every session that has come about by starts, stops, calls and bytes. What it
awaits is its latest request over a transport that is attached, numbered from the first request
of its streak, and the latest answer is to one between the two. A streak is all completions in a
row, with nothing else asked between them, and whatever does not go on waiting stands alone and
has no answer yet. The active document is known; texts are held back until the handshake has
ended, and none is from then on while the connection holds.
-/
theorem Course.awaited_and_held (options : SessionOptions) (occurrences : List Occurrence)
    : let course := Course.after { options } occurrences
      (∀ pending,
        course.session.pending = some pending
        → course.session.isRunning = true
          ∧ pending.id + 1 = course.session.nextId
          ∧ pending.firstId ≤ pending.id
          ∧ (∀ id,
              pending.lastDelivered = some id → pending.firstId ≤ id ∧ id ≤ pending.id)
          ∧ (pending.retain = true
            → pending.method = .completion
              ∧ options.retainCompletion = true
              ∧ ∃ earlier,
                  Moment.sinceStart course.past
                  = earlier
                    ++ (List.range' pending.firstId (pending.id + 1 - pending.firstId)).map
                      completionHandle)
          ∧ (pending.retain = false
            → pending.firstId = pending.id ∧ pending.lastDelivered = none))
      ∧ (∀ uri,
          course.session.active = some uri
          → (course.session.documents.get? uri).isSome = true)
      ∧ (course.session.initialized = false
        → ∀ entry ∈ course.session.documents, entry.2.unopenedText.isSome = true)
      ∧ (course.session.initialized = true
        → course.session.isRunning = true
        → ∀ entry ∈ course.session.documents, entry.2.unopenedText = none) := by
  intro course
  have reached : Course.Reached options course := .after options occurrences
  have filed := Filed.reached reached
  refine ⟨fun pending slot => ?_, filed.activeKnown, filed.held,
    fun initialized running => filed.told running initialized⟩
  obtain ⟨attached, latest, ordered, delivered, retained, alone⟩ :=
    (SlotKept.reached reached).slot pending slot
  exact ⟨attached, latest, ordered, delivered, retained, alone⟩

end LanguageClient
