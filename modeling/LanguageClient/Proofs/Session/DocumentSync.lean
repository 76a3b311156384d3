import LanguageClient.Proofs.Session.DocumentMirror

/-! The documents of a session and a strict server's view of them stay the same along
every run. The relation between the two is kept by every message that goes out, which
leaves the operations that open, change and close documents and the end of the handshake.
-/

namespace LanguageClient

open Json (Value)

/-- The document that an editor works on, and the last text given for each open document. -/
structure GivenTexts where
  active : Option String := none
  texts : String → Option String := fun _ => none

namespace GivenTexts

/-- A text is given for a document, which becomes the active one. -/
def give (given : GivenTexts) (uri text : String) : GivenTexts where
  active := some uri
  texts := fun other => if other = uri then some text else given.texts other

/-- A document is closed, and its text is forgotten. -/
def forget (given : GivenTexts) (uri : String) : GivenTexts where
  active := none
  texts := fun other => if other = uri then none else given.texts other

/-- Another document becomes the active one. -/
def activate (given : GivenTexts) (uri : String) : GivenTexts where
  active := some uri
  texts := given.texts

/-- What an action gives, as its caller sees it. Changes and closes are about the document
that has been opened last.
-/
def note (given : GivenTexts) : SessionAction → GivenTexts
  | .openDocument uri _ text => given.give uri text
  | .changeDocument text =>
    match given.active with
    | none => given
    | some uri => given.give uri text
  | .closeDocument =>
    match given.active with
    | none => given
    | some uri => given.forget uri
  | _ => given

end GivenTexts

/-- A session after some actions, and the texts that it has been given while it ran. -/
structure DocumentRun where
  session : Session
  given : GivenTexts := {}

namespace DocumentRun

/-- One action more. A session without a server refuses every text. -/
def step (run : DocumentRun) (action : SessionAction) : DocumentRun where
  session := (action.run run.session).2
  given := if run.session.isRunning then run.given.note action else run.given

/-- A session after actions in their order. -/
def after (session : Session) (actions : List SessionAction) : DocumentRun :=
  actions.foldl step { session }

end DocumentRun

-----------------------------------------------------------------------------------------
-- Agreement
-----------------------------------------------------------------------------------------

/-- What agreement with a server depends on. -/
structure DocumentState where
  running : Bool
  initialized : Bool
  documents : Keyed OpenDocument
  active : Option String

namespace DocumentState

/-- Nothing goes out any more. -/
def stop (state : DocumentState) : DocumentState :=
  { state with running := false }

/-- Another document becomes the active one. -/
def activate (state : DocumentState) (uri : String) : DocumentState :=
  { state with active := some uri }

/-- A document gets a new state and becomes the active one. -/
def put (state : DocumentState) (uri : String) (document : OpenDocument) : DocumentState :=
  { state with
    documents := Keyed.insert uri document state.documents
    active := some uri }

/-- The active document is closed. -/
def remove (state : DocumentState) (uri : String) : DocumentState :=
  { state with documents := Keyed.erase uri state.documents, active := none }

end DocumentState

def Session.documentState (session : Session) : DocumentState where
  running := session.isRunning
  initialized := session.initialized
  documents := session.documents
  active := session.active

/-- A server's view, the given texts and the documents of a session agree. Before the
handshake every document holds its text back; after it the server knows every document,
as long as messages go out.
-/
structure Synced (mirror : Mirror) (given : GivenTexts) (state : DocumentState) : Prop where
  sorted : Keyed.Sorted state.documents
  sameActive : given.active = state.active
  activeKnown
    : ∀ uri, state.active = some uri → (Keyed.get? uri state.documents).isSome = true
  held
    : state.initialized = false
      → mirror.documents = (fun _ => none)
        ∧ ∀ uri,
            (Keyed.get? uri state.documents).map
                (fun document => (document.version, document.unopenedText))
              = (given.texts uri).map fun text => (1, some text)
  greeted : state.running = true → mirror.greeted = state.initialized
  told
    : state.running = true
      → state.initialized = true
      → ∀ uri,
          (Keyed.get? uri state.documents).map
              (fun document => (document.version, document.unopenedText))
            = (mirror.documents uri).map (fun known => (known.version, none))
          ∧ given.texts uri = (mirror.documents uri).map MirroredDocument.text

namespace Synced

/-- A session that has just been started agrees with a server that knows nothing. -/
theorem start (session : Session) (transport : Transport)
    : Synced {} {} (session.start transport).documentState where
  sorted := Keyed.Sorted.nil
  sameActive := rfl
  activeKnown := by intro uri active; cases active
  held := fun _ => ⟨rfl, fun _ => rfl⟩
  greeted := fun _ => rfl
  told := by intro _ initialized; cases initialized

/-- Losing the server loses no agreement, because nothing is asked of a lost server. -/
theorem lost {mirror : Mirror} {given : GivenTexts} {state : DocumentState}
    (synced : Synced mirror given state)
    : Synced mirror given state.stop where
  sorted := synced.sorted
  sameActive := synced.sameActive
  activeKnown := synced.activeKnown
  held := synced.held
  greeted := by intro running; cases running
  told := by intro running; cases running

/-- After the handshake a lost server may have any view. -/
theorem of_lost {mirror other : Mirror} {given : GivenTexts} {state : DocumentState}
    (synced : Synced mirror given state) (initialized : state.initialized = true)
    (stopped : state.running = false)
    : Synced other given state where
  sorted := synced.sorted
  sameActive := synced.sameActive
  activeKnown := synced.activeKnown
  held := by intro uninitialized; simp [initialized] at uninitialized
  greeted := by intro running; simp [stopped] at running
  told := by intro running; simp [stopped] at running

/-- A document without a text held back is one that the server has been told about. -/
theorem initialized_of_opened {mirror : Mirror} {given : GivenTexts} {state : DocumentState}
    (synced : Synced mirror given state) {uri : String} {document : OpenDocument}
    (found : Keyed.get? uri state.documents = some document)
    (opened : document.unopenedText = none)
    : state.initialized = true := by
  cases initialized : state.initialized with
  | true => rfl
  | false =>
      have same := (synced.held initialized).2 uri
      rw [found] at same
      cases text : given.texts uri with
      | none => simp [text] at same
      | some text' => simp [text, opened] at same

/-- After the handshake no text is held back. -/
theorem uninitialized_of_unopened {mirror : Mirror} {given : GivenTexts}
    {state : DocumentState} (synced : Synced mirror given state)
    (running : state.running = true) {uri text : String} {document : OpenDocument}
    (found : Keyed.get? uri state.documents = some document)
    (unopened : document.unopenedText = some text)
    : state.initialized = false := by
  cases initialized : state.initialized with
  | false => rfl
  | true =>
      have same := (synced.told running initialized uri).1
      rw [found] at same
      cases known : mirror.documents uri with
      | none => simp [known] at same
      | some other => simp [known, unopened] at same

/-- Before the handshake every document is at its first version. -/
theorem version_one {mirror : Mirror} {given : GivenTexts} {state : DocumentState}
    (synced : Synced mirror given state) (uninitialized : state.initialized = false)
    {uri : String} {document : OpenDocument}
    (found : Keyed.get? uri state.documents = some document)
    : document.version = 1 := by
  have same := (synced.held uninitialized).2 uri
  rw [found] at same
  cases text : given.texts uri with
  | none => simp [text] at same
  | some text' =>
      simp only [text, Option.map_some, Option.some.injEq, Prod.mk.injEq] at same
      exact same.1

/-- A document that the server has been told about is known to it by the same version. -/
theorem mirrored {mirror : Mirror} {given : GivenTexts} {state : DocumentState}
    (synced : Synced mirror given state) (running : state.running = true)
    (initialized : state.initialized = true) {uri : String} {document : OpenDocument}
    (found : Keyed.get? uri state.documents = some document)
    : ∃ known, mirror.documents uri = some known ∧ known.version = document.version := by
  have same := (synced.told running initialized uri).1
  rw [found] at same
  cases known : mirror.documents uri with
  | none => simp [known] at same
  | some other =>
      simp only [known, Option.map_some, Option.some.injEq, Prod.mk.injEq] at same
      exact ⟨other, rfl, same.1.symm⟩

/-- A document that a session does not know is unknown to the server, too. -/
theorem unknown {mirror : Mirror} {given : GivenTexts} {state : DocumentState}
    (synced : Synced mirror given state) (running : state.running = true)
    (initialized : state.initialized = true) {uri : String}
    (absent : Keyed.get? uri state.documents = none)
    : mirror.documents uri = none := by
  have same := (synced.told running initialized uri).1
  rw [absent] at same
  cases known : mirror.documents uri with
  | none => rfl
  | some other => simp [known] at same

-----------------------------------------------------------------------------------------
-- Changes on both sides
-----------------------------------------------------------------------------------------

/-- Another known document becomes the active one, on both sides. -/
theorem activate {mirror : Mirror} {given : GivenTexts} {state : DocumentState}
    (synced : Synced mirror given state) {uri : String}
    (known : (Keyed.get? uri state.documents).isSome = true)
    : Synced mirror (given.activate uri) (state.activate uri) where
  sorted := synced.sorted
  sameActive := rfl
  activeKnown := by
    intro other active
    obtain rfl := Option.some.inj active
    exact known
  held := synced.held
  greeted := synced.greeted
  told := synced.told

/-- A text is held back, in a new document or in one that holds an older text back. -/
theorem hold {mirror : Mirror} {given : GivenTexts} {state : DocumentState}
    (synced : Synced mirror given state) (uninitialized : state.initialized = false)
    (uri text : String) (document : OpenDocument) (first : document.version = 1)
    (unopened : document.unopenedText = some text)
    : Synced mirror (given.give uri text) (state.put uri document) where
  sorted := synced.sorted.insert uri document
  sameActive := rfl
  activeKnown := by
    intro other active
    obtain rfl := Option.some.inj active
    simp [DocumentState.put]
  held := by
    intro _
    refine ⟨(synced.held uninitialized).1, ?_⟩
    intro other
    simp only [DocumentState.put, Keyed.get?_insert, GivenTexts.give, eq_comm (a := other)]
    split
    · simp [first, unopened]
    · exact (synced.held uninitialized).2 other
  greeted := synced.greeted
  told := by
    intro _ initialized
    exact absurd (uninitialized.symm.trans initialized) (by decide)

/-- A text is told, in a new document or as the next version of a known one. -/
theorem tell {mirror : Mirror} {given : GivenTexts} {state : DocumentState}
    (synced : Synced mirror given state) (initialized : state.initialized = true)
    (uri text : String) (document : OpenDocument) (opened : document.unopenedText = none)
    : Synced (mirror.setDocument uri (some { version := document.version, text }))
        (given.give uri text) (state.put uri document) where
  sorted := synced.sorted.insert uri document
  sameActive := rfl
  activeKnown := by
    intro other active
    obtain rfl := Option.some.inj active
    simp [DocumentState.put]
  held := by
    intro uninitialized
    exact absurd (initialized.symm.trans uninitialized) (by decide)
  greeted := synced.greeted
  told := by
    intro running _ other
    simp only [DocumentState.put, Keyed.get?_insert, GivenTexts.give, Mirror.setDocument,
      eq_comm (a := other)]
    split
    · simp [opened]
    · exact synced.told running initialized other

/-- A document is closed on both sides. -/
theorem close {mirror : Mirror} {given : GivenTexts} {state : DocumentState}
    (synced : Synced mirror given state) (initialized : state.initialized = true)
    (uri : String)
    : Synced (mirror.setDocument uri none) (given.forget uri) (state.remove uri) where
  sorted := synced.sorted.erase uri
  sameActive := rfl
  activeKnown := by intro other active; cases active
  held := by
    intro uninitialized
    exact absurd (initialized.symm.trans uninitialized) (by decide)
  greeted := synced.greeted
  told := by
    intro running _ other
    simp only [DocumentState.remove, synced.sorted.get?_erase, GivenTexts.forget,
      Mirror.setDocument, eq_comm (a := other)]
    split
    · exact ⟨rfl, rfl⟩
    · exact synced.told running initialized other

/-- A document that the server has not been told about is forgotten without a word. -/
theorem drop {mirror : Mirror} {given : GivenTexts} {state : DocumentState}
    (synced : Synced mirror given state) (uninitialized : state.initialized = false)
    (uri : String)
    : Synced mirror (given.forget uri) (state.remove uri) where
  sorted := synced.sorted.erase uri
  sameActive := rfl
  activeKnown := by intro other active; cases active
  held := by
    intro _
    refine ⟨(synced.held uninitialized).1, ?_⟩
    intro other
    simp only [DocumentState.remove, synced.sorted.get?_erase, GivenTexts.forget,
      eq_comm (a := other)]
    split
    · rfl
    · exact (synced.held uninitialized).2 other
  greeted := synced.greeted
  told := by
    intro _ initialized
    exact absurd (uninitialized.symm.trans initialized) (by decide)

end Synced

end LanguageClient
