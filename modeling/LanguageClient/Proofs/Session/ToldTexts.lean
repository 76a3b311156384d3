import LanguageClient.Proofs.Session.DocumentRuns

/-! The texts that a server has been told, read off the messages that have gone out. The last
one of a document is the text in a strict server's view, and the text that was given last.
-/

namespace LanguageClient

open Json (Value)

/-- The text of a document that a message tells, when it opens or changes the document. -/
def toldText? (uri : String) (message : Value) : Option String :=
  let params := Incoming.paramsOf message
  let entry := (params.get? "textDocument").getD .null
  if entry.getText? "uri" = some uri then
    match message.getText? "method" with
    | some "textDocument/didOpen" => entry.getText? "text"
    | some "textDocument/didChange" =>
      Mirror.wholeText? ((params.get? "contentChanges").getD .null)
    | _ => none
  else
    none

/-- The text of a document that messages have told last. -/
def lastTold? (uri : String) : List Value → Option String
  | [] => none
  | message :: rest => (lastTold? uri rest).or (toldText? uri message)

/-- Later messages come first, by induction on the earlier ones. -/
theorem lastTold?_append (uri : String) (earlier later : List Value)
    : lastTold? uri (earlier ++ later) = (lastTold? uri later).or (lastTold? uri earlier) := by
  induction earlier with
  | nil => rw [List.nil_append, lastTold?, Option.or_none]
  | cons message rest ih => rw [List.cons_append, lastTold?, ih, lastTold?, Option.or_assoc]

/-- A message that tells no text leaves the last one as it is. -/
theorem lastTold?_concat_of_none {uri : String} {message : Value}
    (silent : toldText? uri message = none) (earlier : List Value)
    : lastTold? uri (earlier ++ [message]) = lastTold? uri earlier := by
  rw [lastTold?_append, lastTold?, lastTold?, silent]
  rfl

/-- The answer to a request of the server tells no text. -/
theorem toldText?_answer (uri : String) (request : ServerRequest)
    : toldText? uri request.answer = none := by
  simp [toldText?]

namespace Mirror

variable {mirror next : Mirror} {entry : Value} {uri : String} {known : MirroredDocument}

/-- A new state of a document replaces its text and no other one. -/
theorem text_of_setDocument {named : String} {document : Option MirroredDocument}
    (found : (mirror.setDocument named document).documents uri = some known)
    : (if named = uri then document.map MirroredDocument.text else none).or
          ((mirror.documents uri).map MirroredDocument.text)
        = some known.text := by
  dsimp only [setDocument] at found
  by_cases same : uri = named
  · rw [if_pos same] at found
    rw [if_pos same.symm, found]
    rfl
  · rw [if_neg same] at found
    rw [if_neg (Ne.symm same), found]
    rfl

theorem text_of_receiveOpen (received : mirror.receiveOpen entry = some next)
    (found : next.documents uri = some known)
    : (if entry.getText? "uri" = some uri then entry.getText? "text" else none).or
          ((mirror.documents uri).map MirroredDocument.text)
        = some known.text := by
  unfold receiveOpen at received
  split at received
  · rename_i isUri isText
    split at received
    · obtain rfl := Option.some.inj received
      simpa [isUri, isText] using text_of_setDocument found
    · cases received
  · cases received

theorem text_of_receiveChange {changes : Value}
    (received : mirror.receiveChange entry changes = some next)
    (found : next.documents uri = some known)
    : (if entry.getText? "uri" = some uri then wholeText? changes else none).or
          ((mirror.documents uri).map MirroredDocument.text)
        = some known.text := by
  unfold receiveChange at received
  split at received
  · rename_i isUri isText
    split at received
    · split at received
      · obtain rfl := Option.some.inj received
        simpa [isUri, isText] using text_of_setDocument found
      · cases received
    · cases received
  · cases received

theorem text_of_receiveSave (received : mirror.receiveSave entry = some next)
    (found : next.documents uri = some known)
    : (mirror.documents uri).map MirroredDocument.text = some known.text := by
  unfold receiveSave at received
  split at received
  · split at received
    · obtain rfl := Option.some.inj received
      rw [found]
      rfl
    · cases received
  · cases received

theorem text_of_receiveClose (received : mirror.receiveClose entry = some next)
    (found : next.documents uri = some known)
    : (mirror.documents uri).map MirroredDocument.text = some known.text := by
  unfold receiveClose at received
  split at received
  · split at received
    · obtain rfl := Option.some.inj received
      simpa using text_of_setDocument found
    · cases received
  · cases received

/-- A server knows the text that a message has told, or the one that it knew before. -/
theorem text_of_receive {message : Value} (received : mirror.receive message = some next)
    (found : next.documents uri = some known)
    : (toldText? uri message).or ((mirror.documents uri).map MirroredDocument.text)
      = some known.text := by
  unfold receive at received
  unfold toldText?
  dsimp only at received ⊢
  split at received
  · rename_i method
    obtain rfl := Option.some.inj received
    have same : mirror.documents uri = some known := found
    simp [method, same]
  · rename_i method
    split at received
    · rw [method]
      exact text_of_receiveOpen received found
    · cases received
  · rename_i method
    split at received
    · rw [method]
      exact text_of_receiveChange received found
    · cases received
  · rename_i method
    split at received
    · simpa [method] using text_of_receiveSave received found
    · cases received
  · rename_i method
    split at received
    · simpa [method] using text_of_receiveClose received found
    · cases received
  · rename_i opens changes _ _
    obtain rfl := Option.some.inj received
    split
    · split
      · rename_i method
        exact absurd method opens
      · rename_i method
        exact absurd method changes
      · simp [found]
    · simp [found]

/-- The text that a server knows is the last one told, by induction on the messages. -/
theorem text_of_replay {messages : List Value} (replayed : mirror.replay messages = some next)
    (found : next.documents uri = some known)
    : (lastTold? uri messages).or ((mirror.documents uri).map MirroredDocument.text)
      = some known.text := by
  induction messages generalizing mirror with
  | nil =>
      obtain rfl := Option.some.inj replayed
      rw [lastTold?, found]
      rfl
  | cons message rest ih =>
      rw [replay] at replayed
      obtain ⟨next, received, replayed⟩ := Option.bind_eq_some_iff.mp replayed
      have later := ih replayed
      rw [lastTold?, Option.or_assoc]
      cases told : lastTold? uri rest with
      | some text => rwa [told] at later
      | none =>
          rw [told, Option.none_or] at later
          obtain ⟨between, foundNext, same⟩ := Option.map_eq_some_iff.mp later
          rw [Option.none_or, ← same]
          exact text_of_receive received foundNext

end Mirror

/-- While messages go out after the handshake, the text that was given last for a document is
the last one told.
-/
theorem Tracked.lastTold?_eq {earlier : List Value} {given : GivenTexts} {session : Session}
    (tracked : Tracked earlier given session) (running : session.isRunning = true)
    (initialized : session.initialized = true) {uri text : String}
    (given' : given.texts uri = some text)
    : lastTold? uri session.written = some text := by
  obtain ⟨sent, mirror, frames, replayed, synced⟩ := tracked
  have texts := (synced.told running initialized uri).2
  rw [given'] at texts
  obtain ⟨known, found, same⟩ := Option.map_eq_some_iff.mp texts.symm
  have told := Mirror.text_of_replay replayed found
  rw [Option.map_none, Option.or_none] at told
  rw [frames, lastTold?_append, told, ← same]
  rfl

-----------------------------------------------------------------------------------------
-- The text of the active document
-----------------------------------------------------------------------------------------

namespace Session

/-- A text is the last one given for the active document, unless there is no server to tell. -/
def Told (session : Session) (text : String) : Prop :=
  ∃ earlier given,
    Tracked earlier given session
    ∧ (session.isRunning = true
      → ∀ uri, given.active = some uri → given.texts uri = some text)

/-- After the handshake the text of the active document is the last one told. -/
theorem Told.lastTold?_eq {session : Session} {text uri : String} (told : session.Told text)
    (running : session.isRunning = true) (initialized : session.initialized = true)
    (active : session.active = some uri)
    : lastTold? uri session.written = some text := by
  obtain ⟨earlier, given, tracked, current⟩ := told
  have sameActive : given.active = session.active := by
    obtain ⟨_, _, _, _, synced⟩ := tracked
    exact synced.sameActive
  exact tracked.lastTold?_eq running initialized (current running uri (sameActive.trans active))

/-- A session without an active document has been given no text that counts. -/
theorem Told.of_inactive {session : Session} {text : String} (told : session.Told text)
    (inactive : session.active = none) (other : String)
    : session.Told other := by
  obtain ⟨earlier, given, tracked, _⟩ := told
  refine ⟨earlier, given, tracked, fun _ uri active => ?_⟩
  obtain ⟨_, _, _, _, synced⟩ := tracked
  exact absurd ((active.symm.trans synced.sameActive).trans inactive) nofun

theorem told_of_start (earlier : Session) (transport : Transport) (text : String)
    : (earlier.start transport).Told text :=
  ⟨earlier.written, {},
    ⟨[], {}, (List.append_nil _).symm, rfl, Synced.start earlier transport⟩, fun _ _ => nofun⟩

theorem told_of_reset (earlier : Session) (text : String) : earlier.reset.Told text :=
  ⟨earlier.written, {},
    ⟨[], {}, (List.append_nil _).symm, rfl, (Synced.start earlier {}).lost⟩, fun _ _ => nofun⟩

/-- A change gives the active document its text. -/
theorem Told.changeDocument {session : Session} {text : String} (told : session.Told text)
    (changed : String)
    : (session.changeDocument changed).2.Told changed := by
  obtain ⟨earlier, given, tracked, _⟩ := told
  cases running : session.isRunning with
  | false =>
      have same : (session.changeDocument changed).2 = session := by
        simp [Session.changeDocument, activeUri, running]
      rw [same]
      refine ⟨earlier, given, tracked, fun runs => ?_⟩
      exact absurd (runs.symm.trans running) (by decide)
  | true =>
      refine ⟨earlier, _, tracked.changeDocument running changed, fun _ uri active => ?_⟩
      rw [GivenTexts.note] at active ⊢
      split at active
      · rename_i inactive
        rw [inactive] at active
        cases active
      · obtain rfl := Option.some.inj active
        exact if_pos rfl

/-- A document that is opened has its text, and is the active one. -/
theorem Told.openDocument {session : Session} {text : String} (told : session.Told text)
    (uri language opened : String)
    : (session.openDocument uri language opened).2.Told opened := by
  obtain ⟨earlier, given, tracked, _⟩ := told
  cases running : session.isRunning with
  | false =>
      have same : (session.openDocument uri language opened).2 = session := by
        simp [Session.openDocument, running]
      rw [same]
      refine ⟨earlier, given, tracked, fun runs => ?_⟩
      exact absurd (runs.symm.trans running) (by decide)
  | true =>
      refine ⟨earlier, _, tracked.openDocument running uri language opened, ?_⟩
      intro _ other active
      obtain rfl := Option.some.inj active
      exact if_pos rfl

end Session

end LanguageClient
