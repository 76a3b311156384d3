import LanguageClient.Proofs.Session.DocumentOperations

/-! The end of the handshake tells a server about all documents that were held back, one
after another. A server that is greeted again has been told about all of them before.
-/

namespace LanguageClient

open Json (Value)

/-- Open documents one after another. -/
def Mirror.openAll (mirror : Mirror) (opened : List (String × OpenDocument × String))
    : Mirror :=
  opened.foldl
    (fun known named =>
      known.setDocument named.1 (some { version := named.2.1.version, text := named.2.2 }))
    mirror

/-- Opening documents leaves everything but the documents as it is. -/
theorem Mirror.openAll_greeted (mirror : Mirror)
    (opened : List (String × OpenDocument × String))
    : (mirror.openAll opened).greeted = mirror.greeted := by
  induction opened generalizing mirror with
  | nil => rfl
  | cons first rest ih => exact ih _

/-- A document is known after it has been opened, or as it was known before. With different
names no document is opened twice.
-/
theorem Mirror.openAll_documents (mirror : Mirror)
    {opened : List (String × OpenDocument × String)}
    (distinct : (opened.map Prod.fst).Nodup) (uri : String)
    : (mirror.openAll opened).documents uri
      = ((Keyed.get? uri opened).map fun named =>
          ({ version := named.1.version, text := named.2 } : MirroredDocument)).or
        (mirror.documents uri) := by
  induction opened generalizing mirror with
  | nil => rfl
  | cons first rest ih =>
      obtain ⟨name, document, text⟩ := first
      obtain ⟨fresh, distinctRest⟩ := List.nodup_cons.mp distinct
      refine (ih (mirror.setDocument name _) distinctRest).trans ?_
      rw [Keyed.get?]
      by_cases same : name = uri
      · subst same
        have passed : Keyed.get? name rest = none := by
          cases later : Keyed.get? name rest with
          | none => rfl
          | some other =>
              exact absurd (List.mem_map_of_mem (Keyed.mem_of_get? later)) fresh
        simp [passed, setDocument]
      · simp [setDocument, same, Ne.symm same]

/-- The documents held back are picked from all documents by their texts. -/
theorem Session.unopened_eq_pick (documents : Keyed OpenDocument)
    : Session.unopened documents
      = Keyed.pick (fun document => document.unopenedText.map fun text => (document, text))
          documents := by
  simp only [Session.unopened, Keyed.pick, Option.map_map]
  rfl

/-- A held-back document is found with its text, and no other one is. -/
theorem Session.get?_unopened {documents : Keyed OpenDocument}
    (sorted : Keyed.Sorted documents) (uri : String)
    : Keyed.get? uri (Session.unopened documents)
      = (Keyed.get? uri documents).bind fun document =>
          document.unopenedText.map fun text => (document, text) := by
  rw [Session.unopened_eq_pick]
  exact sorted.get?_pick _ uri

theorem Session.unopened_names_nodup {documents : Keyed OpenDocument}
    (sorted : Keyed.Sorted documents)
    : ((Session.unopened documents).map Prod.fst).Nodup := by
  rw [Session.unopened_eq_pick]
  exact (sorted.pick _).names_nodup

/-- A document that is told about keeps everything but its text. -/
theorem Session.get?_markOpened (documents : Keyed OpenDocument) (uri : String)
    : Keyed.get? uri (Session.markOpened documents)
      = (Keyed.get? uri documents).map fun document =>
          { document with unopenedText := none } :=
  Keyed.get?_map (α := OpenDocument) (β := OpenDocument)
    (fun document => { document with unopenedText := none }) documents uri

theorem Session.markOpened_sorted {documents : Keyed OpenDocument}
    (sorted : Keyed.Sorted documents)
    : Keyed.Sorted (Session.markOpened documents) :=
  sorted.map (β := OpenDocument) fun document => { document with unopenedText := none }

-----------------------------------------------------------------------------------------
-- Agreement after the handshake
-----------------------------------------------------------------------------------------

/-- The state after the handshake has ended and all texts have been taken. -/
def DocumentState.ready (state : DocumentState) : DocumentState :=
  { state with initialized := true, documents := Session.markOpened state.documents }

namespace Synced

variable {mirror : Mirror} {given : GivenTexts} {state : DocumentState}

/-- When the greeting does not go out the server is lost, and any view will do. -/
theorem unanswered (synced : Synced mirror given state) (other : Mirror)
    (stopped : state.running = false)
    : Synced other given { state with initialized := true } where
  sorted := synced.sorted
  sameActive := synced.sameActive
  activeKnown := synced.activeKnown
  held := by intro uninitialized; cases uninitialized
  greeted := by intro running; simp [stopped] at running
  told := by intro running; simp [stopped] at running

/-- Documents are held back only while the server has not been told about any. -/
theorem closed_of_unopened (synced : Synced mirror given state)
    (running : state.running = true) {entry : String × OpenDocument × String}
    (member : entry ∈ Session.unopened state.documents)
    : mirror.documents entry.1 = none ∧ entry.2.1.version = 1 := by
  obtain ⟨uri, document, text⟩ := entry
  rw [Session.unopened_eq_pick, Keyed.mem_pick] at member
  obtain ⟨document', known, chosen⟩ := member
  obtain ⟨text', unopened, same⟩ := Option.map_eq_some_iff.mp chosen
  obtain ⟨rfl, rfl⟩ := Prod.mk.inj same
  have found := synced.sorted.get?_of_mem known
  have uninitialized := synced.uninitialized_of_unopened running found unopened
  refine ⟨?_, synced.version_one uninitialized found⟩
  rw [(synced.held uninitialized).1]

/-- The server is told about each document at most once: either the texts of all documents
are held back and the server knows none, or none is held back.
-/
theorem flush (synced : Synced mirror given state) (running : state.running = true)
    : Synced
        (({ mirror with greeted := true } : Mirror).openAll
          (Session.unopened state.documents))
        given state.ready where
  sorted := Session.markOpened_sorted synced.sorted
  sameActive := synced.sameActive
  activeKnown := by
    intro uri active
    simp only [DocumentState.ready, Session.get?_markOpened, Option.isSome_map]
    exact synced.activeKnown uri active
  held := by intro uninitialized; cases uninitialized
  greeted := fun _ => Mirror.openAll_greeted _ _
  told := by
    intro _ _ uri
    simp only [DocumentState.ready, Session.get?_markOpened,
      Mirror.openAll_documents _ (Session.unopened_names_nodup synced.sorted),
      Session.get?_unopened synced.sorted]
    cases initialized : state.initialized with
    | false =>
        obtain ⟨nothing, held⟩ := synced.held initialized
        have same := held uri
        rw [nothing]
        cases found : Keyed.get? uri state.documents with
        | none =>
            have forgotten : given.texts uri = none := by
              rw [found] at same
              cases text : given.texts uri with
              | none => rfl
              | some text' => simp [text] at same
            simp [forgotten]
        | some document =>
            rw [found] at same
            cases text : given.texts uri with
            | none => simp [text] at same
            | some text' =>
                simp only [text, Option.map_some, Option.some.injEq, Prod.mk.injEq] at same
                simp [same.2]
    | true =>
        have same := (synced.told running initialized uri).1
        have texts := (synced.told running initialized uri).2
        cases found : Keyed.get? uri state.documents with
        | none =>
            have unknown := synced.unknown running initialized found
            simp [unknown, texts]
        | some document =>
            obtain ⟨known, mirrored, version⟩ := synced.mirrored running initialized found
            rw [found, mirrored] at same
            simp only [Option.map_some, Option.some.injEq, Prod.mk.injEq] at same
            simp [same.2, mirrored, version, texts]

end Synced

-----------------------------------------------------------------------------------------
-- Telling the server
-----------------------------------------------------------------------------------------

namespace Tracked

variable {earlier : List Value} {given : GivenTexts} {session : Session}

/-- Documents that are told one after another restore the agreement with the view that
knows all of them, by induction on the documents. One that does not go out loses the
server, and then any view will do.
-/
theorem sendOpens {sent : List Value} {mirror : Mirror}
    {opened : List (String × OpenDocument × String)}
    (frames : session.written = earlier ++ sent)
    (replayed : Mirror.replay {} sent = some mirror)
    (initialized : session.initialized = true) (greeted : mirror.greeted = true)
    (distinct : (opened.map Prod.fst).Nodup)
    (fresh : ∀ entry ∈ opened, mirror.documents entry.1 = none ∧ entry.2.1.version = 1)
    (synced : Synced (mirror.openAll opened) given session.documentState)
    : Tracked earlier given (session.sendOpens opened).2 := by
  induction opened generalizing session sent mirror with
  | nil => exact ⟨sent, mirror, frames, replayed, synced⟩
  | cons first rest ih =>
      obtain ⟨uri, document, text⟩ := first
      obtain ⟨closed, versionOne⟩ := fresh _ List.mem_cons_self
      obtain ⟨unused, distinctRest⟩ := List.nodup_cons.mp distinct
      unfold Session.sendOpens Session.sendOpen Session.notify
      rcases session.send_cases
          (Session.notificationMessage "textDocument/didOpen"
            (Session.openParams uri document text)) with
        ⟨stopped, outcome⟩ | ⟨_, reason, outcome⟩ | ⟨running, transport, outcome⟩
      · rw [outcome]
        exact ⟨sent, mirror, frames, replayed, synced.of_lost initialized stopped⟩
      · rw [outcome]
        exact ⟨sent, mirror, frames, replayed, synced.lost.of_lost initialized rfl⟩
      · rw [outcome]
        have accepted := Mirror.receive_didOpen text greeted versionOne closed
        have state := Session.delivered_documentState running transport
          (Session.notificationMessage "textDocument/didOpen"
            (Session.openParams uri document text))
        refine ih
          (by simp only [Session.delivered, frames, List.append_assoc])
          (Mirror.replay_concat replayed accepted) initialized greeted distinctRest ?_
          (state ▸ synced)
        intro entry member
        have differs : entry.1 ≠ uri :=
          fun same => unused (List.mem_map.mpr ⟨entry, member, same⟩)
        obtain ⟨closedToo, versionOneToo⟩ := fresh entry (List.mem_cons_of_mem _ member)
        exact ⟨by simp [Mirror.setDocument, differs, closedToo], versionOneToo⟩

/-- Texts that were held back are told together, and nothing waits any more. -/
theorem flushDocuments {sent : List Value} {mirror : Mirror} {state : DocumentState}
    (synced : Synced mirror given state) (running : state.running = true)
    (ready : session.documentState = { state with initialized := true })
    (frames : session.written = earlier ++ sent)
    (replayed : Mirror.replay {} sent = some { mirror with greeted := true })
    : Tracked earlier given session.flushDocuments.2 := by
  have documents : session.documents = state.documents :=
    congrArg DocumentState.documents ready
  have flushed := synced.flush running
  unfold Session.flushDocuments
  rw [documents]
  refine sendOpens frames replayed (congrArg DocumentState.initialized ready) rfl
    (Session.unopened_names_nodup synced.sorted)
    (fun entry member => synced.closed_of_unopened running member) ?_
  have after
      : Session.documentState { session with documents := Session.markOpened state.documents }
        = state.ready := by
    exact congrArg
      (fun next : DocumentState =>
        { next with documents := Session.markOpened state.documents })
      ready
  exact after ▸ flushed

/-- The handshake ends with the greeting and all documents, or with the loss of the server. -/
theorem finishHandshake (tracked : Tracked earlier given session) (info : ServerInfo)
    : Tracked earlier given (session.finishHandshake info).2 := by
  obtain ⟨sent, mirror, frames, replayed, synced⟩ := tracked
  unfold Session.finishHandshake Session.notify
  rcases Session.send_cases { session with initialized := true, serverInfo := some info }
      (Session.notificationMessage "initialized" (.ofFields [])) with
    ⟨stopped, outcome⟩ | ⟨_, reason, outcome⟩ | ⟨running, transport, outcome⟩
  · simp only [outcome]
    exact ⟨sent, mirror, frames, replayed, synced.unanswered mirror stopped⟩
  · simp only [outcome]
    exact ⟨sent, mirror, frames, replayed, synced.lost.unanswered mirror rfl⟩
  · simp only [outcome]
    have state := Session.delivered_documentState running transport
      (Session.notificationMessage "initialized" (.ofFields []))
    have frames'
        : (Session.delivered { session with initialized := true, serverInfo := some info }
              transport (Session.notificationMessage "initialized" (.ofFields []))).written
          = earlier ++ (sent ++ [Session.notificationMessage "initialized" (.ofFields [])]) := by
      simp only [Session.delivered, frames, List.append_assoc]
    have flushed := flushDocuments synced running state frames'
      (Mirror.replay_concat replayed (Mirror.receive_initialized mirror))
    split
    · rename_i outcome'
      rwa [outcome'] at flushed
    · rename_i outcome'
      rw [outcome'] at flushed
      exact flushed.pushEvent _

end Tracked

end LanguageClient
