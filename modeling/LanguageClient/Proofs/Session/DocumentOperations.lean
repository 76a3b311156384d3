import LanguageClient.Proofs.Session.DocumentSync

/-! Every run of a session keeps a strict server's view of its documents. Each operation
either sends nothing about documents or changes both sides alike; the end of the handshake
tells the server about all documents that were held back, one after another.
-/

namespace LanguageClient

open Json (Value)

-----------------------------------------------------------------------------------------
-- Agreement after what has been sent or asked for
-----------------------------------------------------------------------------------------

/-- The messages that have gone out after `earlier` ones are taken by a strict server, and
its view agrees with the session and the given texts.
-/
def Tracked (earlier : List Value) (given : GivenTexts) (session : Session) : Prop :=
  ∃ sent mirror,
    session.written = earlier ++ sent
    ∧ Mirror.replay {} sent = some mirror
    ∧ Synced mirror given session.documentState

/-- A message that goes out leaves the documents and the connection as they are. -/
theorem Session.delivered_documentState {session : Session}
    (running : session.isRunning = true) (transport : Transport) (message : Value)
    : (session.delivered transport message).documentState = session.documentState := by
  simp only [Session.documentState, running]
  rfl

/-- Another active document changes nothing else that counts. -/
theorem Session.setActive_documentState (session : Session) (uri : String)
    : (session.setActive uri).documentState = session.documentState.activate uri
      ∧ (session.setActive uri).written = session.written := by
  unfold Session.setActive
  split
  · rename_i same
    exact ⟨by rw [DocumentState.activate, ← same]; rfl, rfl⟩
  · exact ⟨rfl, rfl⟩

/-- A new state of the active document changes nothing else. -/
theorem Session.setDocument_documentState {session : Session} {uri : String}
    (active : session.active = some uri) (document : OpenDocument)
    : (session.setDocument uri document).documentState
      = session.documentState.put uri document := by
  rw [DocumentState.put, ← active]
  rfl

namespace Tracked

variable {earlier : List Value} {given : GivenTexts} {session : Session}

/-- Only documents, what has been sent and the state of the connection count. -/
theorem congr {other : Session} (tracked : Tracked earlier given session)
    (written : other.written = session.written)
    (state : other.documentState = session.documentState)
    : Tracked earlier given other := by
  obtain ⟨sent, mirror, frames, replayed, synced⟩ := tracked
  exact ⟨sent, mirror, written.trans frames, replayed, state ▸ synced⟩

/-- A message that says nothing about documents keeps the agreement, whether it goes out
or not.
-/
theorem send (tracked : Tracked earlier given session) {message : Value}
    (neutral : ∀ mirror : Mirror, mirror.receive message = some mirror)
    : Tracked earlier given (session.send message).2 := by
  obtain ⟨sent, mirror, frames, replayed, synced⟩ := tracked
  rcases session.send_cases message with
    ⟨_, outcome⟩ | ⟨_, reason, outcome⟩ | ⟨running, transport, outcome⟩
  · rw [outcome]
    exact ⟨sent, mirror, frames, replayed, synced⟩
  · rw [outcome]
    exact ⟨sent, mirror, frames, replayed, synced.lost⟩
  · rw [outcome]
    refine ⟨sent ++ [message], mirror, ?_, Mirror.replay_concat replayed (neutral mirror), ?_⟩
    · simp only [Session.delivered, frames, List.append_assoc]
    · exact Session.delivered_documentState running transport message ▸ synced

/-- A message about documents restores the agreement with the view that it leads to. When
it does not go out the server is lost, and any view will do.
-/
theorem tell {sent : List Value} {mirror next : Mirror} {message : Value}
    (frames : session.written = earlier ++ sent)
    (replayed : Mirror.replay {} sent = some mirror)
    (initialized : session.initialized = true)
    (accepted : session.isRunning = true → mirror.receive message = some next)
    (synced : Synced next given session.documentState)
    : Tracked earlier given (session.send message).2 := by
  rcases session.send_cases message with
    ⟨stopped, outcome⟩ | ⟨_, reason, outcome⟩ | ⟨running, transport, outcome⟩
  · rw [outcome]
    exact ⟨sent, mirror, frames, replayed, synced.of_lost initialized stopped⟩
  · rw [outcome]
    exact ⟨sent, mirror, frames, replayed, synced.lost.of_lost initialized rfl⟩
  · rw [outcome]
    refine ⟨sent ++ [message], next, ?_,
      Mirror.replay_concat replayed (accepted running), ?_⟩
    · simp only [Session.delivered, frames, List.append_assoc]
    · exact Session.delivered_documentState running transport message ▸ synced

/-- Requests of the typed methods are not about the texts of documents. -/
theorem request (tracked : Tracked earlier given session) {method : Method} (params : Value)
    (typed : ∀ name, method ≠ .other name)
    : Tracked earlier given (session.request method params).2 := by
  unfold Session.request
  split
  · have waiting
        : Tracked earlier given
            { session with
              nextId := session.nextId + 1
              pending := some (session.nextPending method) } :=
      tracked.congr rfl rfl
    have sent := waiting.send
      fun mirror => mirror.receive_requestMessage session.nextId params typed
    dsimp only
    split
    · rename_i outcome
      rwa [outcome] at sent
    · rename_i outcome
      rwa [outcome] at sent
  · exact tracked

theorem requestAboutDocument (tracked : Tracked earlier given session) {method : Method}
    (extra : List (String × Value)) (typed : ∀ name, method ≠ .other name)
    : Tracked earlier given (session.requestAboutDocument method extra).2 := by
  rcases session.requestAboutDocument_cases method extra with
    ⟨error, outcome⟩ | ⟨params, outcome⟩
  · rw [outcome]
    exact tracked
  · rw [outcome]
    exact tracked.request params typed

theorem requestHandshake (tracked : Tracked earlier given session) (workspace : Workspace)
    : Tracked earlier given (session.requestHandshake workspace).2 := by
  rcases session.requestHandshake_cases workspace with ⟨error, outcome⟩ | ⟨params, outcome⟩
  · rw [outcome]
    exact tracked
  · rw [outcome]
    exact tracked.request params nofun

theorem pushEvent (tracked : Tracked earlier given session) (event : SessionEvent)
    : Tracked earlier given (session.pushEvent event) := by
  unfold Session.pushEvent
  split
  · exact tracked
  · split <;> exact tracked.congr rfl rfl

theorem releasePending (tracked : Tracked earlier given session)
    : Tracked earlier given session.releasePending := by
  unfold Session.releasePending
  split
  · exact tracked.congr rfl rfl
  · exact tracked

-----------------------------------------------------------------------------------------
-- Opening, changing, saving and closing
-----------------------------------------------------------------------------------------

/-- A change of the active document is held back or told as the next version. -/
theorem changeDocument (tracked : Tracked earlier given session)
    (running : session.isRunning = true) (text : String)
    : Tracked earlier (given.note (.changeDocument text))
        (session.changeDocument text).2 := by
  obtain ⟨sent, mirror, frames, replayed, synced⟩ := tracked
  have sameActive : given.active = session.active := synced.sameActive
  unfold Session.changeDocument Session.activeUri GivenTexts.note
  rw [if_pos running]
  cases active : session.active with
  | none =>
      rw [active] at sameActive
      simp only [sameActive]
      exact ⟨sent, mirror, frames, replayed, synced⟩
  | some uri =>
      rw [active] at sameActive
      simp only [sameActive]
      obtain ⟨document, found⟩ := Option.isSome_iff_exists.mp (synced.activeKnown uri active)
      have foundHere : Keyed.get? uri session.documents = some document := found
      simp only [foundHere]
      cases unopened : document.unopenedText with
      | some old =>
          have uninitialized := synced.uninitialized_of_unopened running found unopened
          have first : document.version = 1 := synced.version_one uninitialized found
          have held := synced.hold uninitialized uri text
            { document with unopenedText := some text } first rfl
          rw [← Session.setDocument_documentState active] at held
          exact ⟨sent, mirror, frames, replayed, held⟩
      | none =>
          have initialized := synced.initialized_of_opened found unopened
          have next := synced.tell initialized uri text
            { document with version := document.version + 1, unopenedText := none } rfl
          rw [← Session.setDocument_documentState active] at next
          refine tell frames replayed initialized ?_ next
          intro _
          obtain ⟨known, mirrored, version⟩ := synced.mirrored running initialized found
          have greeted := (synced.greeted running).trans initialized
          exact version ▸ Mirror.receive_didChange text greeted mirrored

/-- A document that is opened is told at once, or held back before the handshake. One that
is known already gets a new text.
-/
theorem openDocument (tracked : Tracked earlier given session)
    (running : session.isRunning = true) (uri language text : String)
    : Tracked earlier (given.note (.openDocument uri language text))
        (session.openDocument uri language text).2 := by
  obtain ⟨sent, mirror, frames, replayed, synced⟩ := tracked
  obtain ⟨sameState, sameWritten⟩ := session.setActive_documentState uri
  have active : (session.setActive uri).active = some uri :=
    congrArg DocumentState.active sameState
  have stillRunning : (session.setActive uri).isRunning = true :=
    (congrArg DocumentState.running sameState).trans running
  have state
      : ∀ document,
          ((session.setActive uri).setDocument uri document).documentState
          = session.documentState.put uri document := by
    intro document
    rw [Session.setDocument_documentState active, sameState]
    rfl
  unfold Session.openDocument
  simp only [running, Bool.not_true, Bool.false_eq_true, if_false]
  cases found : Keyed.get? uri session.documents with
  | some document =>
      have known : (Keyed.get? uri session.documents).isSome = true := by rw [found]; rfl
      have moved : Tracked earlier (given.activate uri) (session.setActive uri) :=
        ⟨sent, mirror, sameWritten.trans frames, replayed, sameState ▸ synced.activate known⟩
      exact moved.changeDocument stillRunning text
  | none =>
      cases initialized : session.initialized with
      | true =>
          have told := synced.tell initialized uri text
            { language, version := 1, unopenedText := none } rfl
          rw [← state] at told
          have closed := synced.unknown running initialized found
          have greeted := (synced.greeted running).trans initialized
          refine tell (sameWritten.trans frames) replayed ?_
            (fun _ => Mirror.receive_didOpen text greeted rfl closed) told
          exact (congrArg DocumentState.initialized sameState).trans initialized
      | false =>
          have held := synced.hold initialized uri text
            { language, version := 1, unopenedText := some text } rfl rfl
          rw [← state] at held
          exact ⟨sent, mirror, sameWritten.trans frames, replayed, held⟩

/-- A save is told of a document that the server knows. -/
theorem saveDocument (tracked : Tracked earlier given session) (text : Option String)
    : Tracked earlier given (session.saveDocument text).2 := by
  unfold Session.saveDocument Session.activeUri
  cases running : session.isRunning with
  | false => exact tracked
  | true =>
      cases active : session.active with
      | none => exact tracked
      | some uri =>
          obtain ⟨sent, mirror, frames, replayed, synced⟩ := tracked
          obtain ⟨document, found⟩ := Option.isSome_iff_exists.mp (synced.activeKnown uri active)
          have foundHere : Keyed.get? uri session.documents = some document := found
          simp only [if_true, Session.isUnopened, foundHere, Option.any_some]
          cases unopened : document.unopenedText with
          | some old => exact ⟨sent, mirror, frames, replayed, synced⟩
          | none =>
              have initialized := synced.initialized_of_opened found unopened
              obtain ⟨known, mirrored, _⟩ := synced.mirrored running initialized found
              have greeted := (synced.greeted running).trans initialized
              refine tell frames replayed initialized (fun _ => ?_) synced
              exact Mirror.receive_didSave text greeted (by rw [mirrored]; rfl)

/-- A close is told of a document that the server knows, and any document is forgotten. -/
theorem closeDocument (tracked : Tracked earlier given session)
    (running : session.isRunning = true)
    : Tracked earlier (given.note .closeDocument) session.closeDocument.2 := by
  obtain ⟨sent, mirror, frames, replayed, synced⟩ := tracked
  have sameActive : given.active = session.active := synced.sameActive
  unfold Session.closeDocument Session.activeUri GivenTexts.note
  rw [if_pos running]
  cases active : session.active with
  | none =>
      rw [active] at sameActive
      simp only [sameActive]
      exact ⟨sent, mirror, frames, replayed, synced⟩
  | some uri =>
      rw [active] at sameActive
      simp only [sameActive]
      obtain ⟨document, found⟩ := Option.isSome_iff_exists.mp (synced.activeKnown uri active)
      have foundHere : Keyed.get? uri session.documents = some document := found
      simp only [foundHere]
      cases unopened : document.unopenedText with
      | some old =>
          have uninitialized := synced.uninitialized_of_unopened running found unopened
          exact ⟨sent, mirror, frames, replayed, synced.drop uninitialized uri⟩
      | none =>
          have initialized := synced.initialized_of_opened found unopened
          obtain ⟨known, mirrored, _⟩ := synced.mirrored running initialized found
          have greeted := (synced.greeted running).trans initialized
          refine tell frames replayed initialized (fun _ => ?_) (synced.close initialized uri)
          exact Mirror.receive_didClose greeted (by rw [mirrored]; rfl)

end Tracked

end LanguageClient
