import LanguageClient.Proofs.Json.Number
import LanguageClient.Proofs.Session.Actions
import LanguageClient.Proofs.Session.Messages

/-! A strict server's view of documents, as the messages that have gone out tell it. It
takes nothing about documents before it has been greeted, opens a document once, and
expects the versions of a document to follow one another.
-/

namespace LanguageClient

open Json (Value Number)

/-- What a server knows of a document. -/
structure MirroredDocument where
  version : Nat
  text : String
deriving DecidableEq, Repr

/-- What a server knows of all documents. -/
structure Mirror where
  greeted : Bool := false
  documents : String → Option MirroredDocument := fun _ => none

namespace Mirror

/-- Open or change a document, or close it. -/
def setDocument (mirror : Mirror) (uri : String) (document : Option MirroredDocument)
    : Mirror :=
  { mirror with
    documents := fun other => if other = uri then document else mirror.documents other }

/--
Whether a document's entry in a message carries a version. Numbers in messages are binary64,
so the number has to be the one that stands for the version; up to 2^53 no other version has it.
-/
def carriesVersion (entry : Value) (version : Nat) : Bool :=
  (entry.get? "version").bind Value.asNumber? = some (Number.ofNat version)

/-- The only change of a message that gives the whole new text. -/
def wholeText? (changes : Value) : Option String :=
  match changes with
  | .array [change] => change.getText? "text"
  | _ => none

/-- Take a newly opened document, whose first version is 1. -/
def receiveOpen (mirror : Mirror) (entry : Value) : Option Mirror :=
  match entry.getText? "uri", entry.getText? "text" with
  | some uri, some text =>
    if (mirror.documents uri).isNone && carriesVersion entry 1 then
      some (mirror.setDocument uri (some { version := 1, text }))
    else
      none
  | _, _ => none

/-- Take the whole new text of an open document, whose version is the next one. -/
def receiveChange (mirror : Mirror) (entry changes : Value) : Option Mirror :=
  match entry.getText? "uri", wholeText? changes with
  | some uri, some text =>
    match mirror.documents uri with
    | some known =>
      if carriesVersion entry (known.version + 1) then
        some (mirror.setDocument uri (some { version := known.version + 1, text }))
      else
        none
    | none => none
  | _, _ => none

/-- Take note that an open document has been saved. -/
def receiveSave (mirror : Mirror) (entry : Value) : Option Mirror :=
  match entry.getText? "uri" with
  | some uri => if (mirror.documents uri).isSome then some mirror else none
  | none => none

/-- Close an open document. -/
def receiveClose (mirror : Mirror) (entry : Value) : Option Mirror :=
  match entry.getText? "uri" with
  | some uri =>
    if (mirror.documents uri).isSome then some (mirror.setDocument uri none) else none
  | none => none

/-- Take a message, or refuse it. Only messages about documents are ever refused. -/
def receive (mirror : Mirror) (message : Value) : Option Mirror :=
  let params := Incoming.paramsOf message
  let entry := (params.get? "textDocument").getD .null
  match message.getText? "method" with
  | some "initialized" => some { mirror with greeted := true }
  | some "textDocument/didOpen" =>
    if mirror.greeted then mirror.receiveOpen entry else none
  | some "textDocument/didChange" =>
    if mirror.greeted then
      mirror.receiveChange entry ((params.get? "contentChanges").getD .null)
    else
      none
  | some "textDocument/didSave" =>
    if mirror.greeted then mirror.receiveSave entry else none
  | some "textDocument/didClose" =>
    if mirror.greeted then mirror.receiveClose entry else none
  | _ => some mirror

/-- Take messages in their order, or refuse one of them. -/
def replay (mirror : Mirror) : List Value → Option Mirror
  | [] => some mirror
  | message :: rest => (mirror.receive message).bind (replay · rest)

/-- Replaying composes, by induction on the earlier messages. -/
theorem replay_append (mirror : Mirror) (earlier later : List Value)
    : mirror.replay (earlier ++ later) = (mirror.replay earlier).bind (replay · later) := by
  induction earlier generalizing mirror with
  | nil => rfl
  | cons message rest ih =>
      rw [List.cons_append, replay, replay]
      cases mirror.receive message with
      | none => rfl
      | some next => exact ih next

/-- A message that is taken extends a replay that has succeeded. -/
theorem replay_concat {start mirror next : Mirror} {messages : List Value} {message : Value}
    (replayed : start.replay messages = some mirror)
    (accepted : mirror.receive message = some next)
    : start.replay (messages ++ [message]) = some next := by
  rw [replay_append, replayed, Option.bind_some, replay, accepted]
  rfl

-----------------------------------------------------------------------------------------
-- What the messages of a session do
-----------------------------------------------------------------------------------------

theorem carriesVersion_of_get? {entry : Value} {version : Nat}
    (written : entry.get? "version" = some (.ofNat version))
    : carriesVersion entry version = true := by
  rw [carriesVersion, written]
  exact decide_eq_true rfl

/-- The answer to a request of the server says nothing about documents. -/
theorem receive_answer (mirror : Mirror) (request : ServerRequest)
    : mirror.receive request.answer = some mirror := by
  simp [receive]

/-- No request with a name of its own is mistaken for a message about documents. -/
theorem receive_requestMessage (mirror : Mirror) (id : Nat) {method : Method}
    (params : Value) (typed : ∀ name, method ≠ .other name)
    : mirror.receive (Session.requestMessage id method params) = some mirror := by
  cases method with
  | other name => exact absurd rfl (typed name)
  | handshake | completion | formatting | definition | references | shutdown =>
      simp [receive, Method.name]

theorem receive_exit (mirror : Mirror)
    : mirror.receive (Session.notificationMessage "exit" .null) = some mirror := by
  simp [receive]

theorem receive_initialized (mirror : Mirror)
    : mirror.receive (Session.notificationMessage "initialized" (.ofFields []))
      = some { mirror with greeted := true } := by
  simp [receive]

/-- The first message about a document is taken while the document is not open. -/
theorem receive_didOpen {mirror : Mirror} {uri : String} {document : OpenDocument}
    (text : String) (greeted : mirror.greeted = true) (first : document.version = 1)
    (closed : mirror.documents uri = none)
    : mirror.receive
          (Session.notificationMessage "textDocument/didOpen"
            (Session.openParams uri document text))
      = some (mirror.setDocument uri (some { version := document.version, text })) := by
  have version
      : ∀ entry : Value,
          entry.get? "version" = some (.ofNat document.version)
          → carriesVersion entry 1 = true :=
    fun entry written => first ▸ carriesVersion_of_get? written
  simp only [receive, Session.notificationMessage_method, Session.notificationMessage_params,
    greeted, if_true, Session.openParams, Value.get?_ofFields]
  simp [receiveOpen, Value.getText?_ofFields, Value.get?_ofFields, Keyed.get?, Value.asText?,
    closed, version, first]

/-- The next version of an open document is taken. -/
theorem receive_didChange {mirror : Mirror} {uri : String} {known : MirroredDocument}
    (text : String) (greeted : mirror.greeted = true)
    (opened : mirror.documents uri = some known)
    : mirror.receive
          (Session.notificationMessage "textDocument/didChange"
            (Session.changeParams uri (known.version + 1) text))
      = some (mirror.setDocument uri (some { version := known.version + 1, text })) := by
  have version
      : ∀ entry : Value,
          entry.get? "version" = some (.ofNat (known.version + 1))
          → carriesVersion entry (known.version + 1) = true :=
    fun entry written => carriesVersion_of_get? written
  simp only [receive, Session.notificationMessage_method, Session.notificationMessage_params,
    greeted, if_true, Session.changeParams, Value.get?_ofFields]
  simp [receiveChange, wholeText?, Value.getText?_ofFields, Value.get?_ofFields, Keyed.get?,
    Value.asText?, opened, version]

/-- A save of an open document is taken, with its text or without. -/
theorem receive_didSave {mirror : Mirror} {uri : String} (text : Option String)
    (greeted : mirror.greeted = true) (opened : (mirror.documents uri).isSome = true)
    : mirror.receive
          (Session.notificationMessage "textDocument/didSave" (Session.saveParams uri text))
      = some mirror := by
  have entry
      : (Session.saveParams uri text).get? "textDocument"
        = some (Session.documentReference uri) := by
    cases text <;> simp [Session.saveParams, Value.get?_ofFields, Keyed.get?]
  simp only [receive, Session.notificationMessage_method, Session.notificationMessage_params,
    greeted, if_true, entry, Option.getD_some]
  simp [receiveSave, Session.documentReference, Value.getText?_ofFields, Keyed.get?,
    Value.asText?, opened]

/-- The close of an open document is taken. -/
theorem receive_didClose {mirror : Mirror} {uri : String} (greeted : mirror.greeted = true)
    (opened : (mirror.documents uri).isSome = true)
    : mirror.receive
          (Session.notificationMessage "textDocument/didClose" (Session.closeParams uri))
      = some (mirror.setDocument uri none) := by
  simp only [receive, Session.notificationMessage_method, Session.notificationMessage_params,
    greeted, if_true, Session.closeParams, Value.get?_ofFields]
  simp [receiveClose, Session.documentReference, Value.getText?_ofFields, Keyed.get?,
    Value.asText?, opened]

end Mirror

end LanguageClient
