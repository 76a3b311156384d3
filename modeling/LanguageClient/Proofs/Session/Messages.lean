import LanguageClient.Proofs.Json.Fields
import LanguageClient.Proofs.Json.Number
import LanguageClient.Session.Receive
import LanguageClient.Session.Requests

/-! What the messages of a session say to whoever reads them. Requests have an id and a
method, notifications a method only, and answers to requests of the server an id only.
-/

namespace LanguageClient.Session

open Json (Value)

@[simp]
theorem requestMessage_method (id : Nat) (method : Method) (params : Value)
    : (requestMessage id method params).getText? "method" = some method.name := by
  simp [requestMessage, Value.getText?_ofFields, Keyed.get?, Value.asText?]

@[simp]
theorem requestMessage_id (id : Nat) (method : Method) (params : Value)
    : (requestMessage id method params).get? "id" = some (.ofNat id) := by
  simp [requestMessage, Value.get?_ofFields, Keyed.get?]

@[simp]
theorem notificationMessage_method (method : String) (params : Value)
    : (notificationMessage method params).getText? "method" = some method := by
  simp [notificationMessage, Value.getText?_ofFields, Keyed.get?, Value.asText?]

@[simp]
theorem notificationMessage_params (method : String) (params : Value)
    : Incoming.paramsOf (notificationMessage method params) = params := by
  simp [notificationMessage, Incoming.paramsOf, Value.get?_ofFields, Keyed.get?]

@[simp]
theorem notificationMessage_id (method : String) (params : Value)
    : (notificationMessage method params).get? "id" = none := by
  simp [notificationMessage, Value.get?_ofFields, Keyed.get?]

@[simp]
theorem answer_method (request : ServerRequest)
    : request.answer.getText? "method" = none := by
  simp [ServerRequest.answer, Value.getText?_ofFields, Keyed.get?]

/-- The session after a message that did not go out. -/
def disconnected (session : Session) : Session :=
  { session with transport := none, pending := none }

/-- The session after a message that went out. -/
def delivered (session : Session) (transport : Transport) (message : Value) : Session :=
  { session with
    transport := some transport
    written := session.written ++ [message] }

/-- Everything that sending can do: nothing without a server, the end of the connection,
or one more message that has gone out.
-/
theorem send_cases (session : Session) (message : Value)
    : (session.isRunning = false ∧ session.send message = (.error .notRunning, session))
      ∨ (session.isRunning = true
        ∧ ∃ reason,
            session.send message = (.error (.sendFailed reason), session.disconnected))
      ∨ (session.isRunning = true
        ∧ ∃ transport, session.send message = (.ok (), session.delivered transport message)) := by
  unfold send isRunning
  cases attached : session.transport with
  | none => exact Or.inl ⟨rfl, rfl⟩
  | some transport =>
      obtain ⟨remaining, failure⟩ := transport
      right
      cases remaining with
      | none => exact Or.inr ⟨rfl, { failure }, by simp only [delivered]⟩
      | some count =>
          cases count with
          | zero => exact Or.inl ⟨rfl, failure, rfl⟩
          | succ count => exact Or.inr ⟨rfl, _, rfl⟩

/-- The session that awaits the reply to its next request. -/
def asking (session : Session) (method : Method) : Session :=
  { session with
    nextId := session.nextId + 1
    pending := some (session.nextPending method) }

/-- Everything that a request can do: nothing without a server, the end of the connection,
or one more message with an id that is given back.
-/
theorem request_cases (session : Session) (method : Method) (params : Value)
    : (session.isRunning = false
        ∧ session.request method params = (.error .notRunning, session))
      ∨ (session.isRunning = true
        ∧ ∃ reason,
            session.request method params
            = (.error (.sendFailed reason), (session.asking method).disconnected))
      ∨ (session.isRunning = true
        ∧ ∃ transport,
            session.request method params
            = (
                .ok { id := session.nextId, method },
                (session.asking method).delivered transport
                  (requestMessage session.nextId method params)
              )) := by
  unfold request
  cases running : session.isRunning with
  | false => exact Or.inl ⟨rfl, rfl⟩
  | true =>
      right
      rw [if_pos rfl]
      rcases (session.asking method).send_cases
          (requestMessage session.nextId method params) with
        ⟨stopped, _⟩ | ⟨_, reason, outcome⟩ | ⟨_, transport, outcome⟩
      · exact absurd (running.symm.trans stopped) (by decide)
      · refine Or.inl ⟨rfl, reason, ?_⟩
        unfold asking at outcome
        simp only [outcome, asking]
      · refine Or.inr ⟨rfl, transport, ?_⟩
        unfold asking at outcome
        simp only [outcome, asking]

/-- A request about a document that is not refused is a request. -/
theorem requestAboutDocument_cases (session : Session) (method : Method)
    (extra : List (String × Value))
    : (∃ error, session.requestAboutDocument method extra = (.error error, session))
      ∨ ∃ params,
          session.requestAboutDocument method extra = session.request method params := by
  unfold requestAboutDocument
  split
  · exact Or.inl ⟨_, rfl⟩
  · split
    · exact Or.inr ⟨_, rfl⟩
    · exact Or.inl ⟨_, rfl⟩

/-- A handshake that is not refused is a request. -/
theorem requestHandshake_cases (session : Session) (workspace : Workspace)
    : (∃ error, session.requestHandshake workspace = (.error error, session))
      ∨ ∃ params,
          session.requestHandshake workspace = session.request .handshake params := by
  unfold requestHandshake
  split
  · exact Or.inr ⟨_, rfl⟩
  · exact Or.inl ⟨_, rfl⟩

-----------------------------------------------------------------------------------------
-- Results
-----------------------------------------------------------------------------------------

/-- A result for a request. -/
def resultMessage (number result : Value) : Value :=
  .ofFields [("jsonrpc", .text "2.0"), ("id", number), ("result", result)]

/-- A result is read as a response. -/
theorem ofValue_resultMessage {number : Value} {id : Nat}
    (numbered : number.expectNat = .ok id) (result : Value)
    : Incoming.ofValue (resultMessage number result)
      = .ok (.response { id, outcome := .ok result }) := by
  have version : (resultMessage number result).field "jsonrpc" = .ok (.text "2.0") :=
    Value.field_ofFields (by simp [Keyed.get?])
  have text : (Value.text "2.0").expectText = .ok "2.0" := rfl
  have identified : (resultMessage number result).field "id" = .ok number :=
    Value.field_ofFields (by simp [Keyed.get?])
  have succeeded : Incoming.outcomeOf (resultMessage number result) = .ok (.ok result) := by
    simp [Incoming.outcomeOf, resultMessage, Value.get?_ofFields, Keyed.get?]
  have uncalled : (resultMessage number result).get? "method" = none := by
    simp [resultMessage, Value.get?_ofFields, Keyed.get?]
  obtain ⟨fields, object⟩ : ∃ fields, (resultMessage number result).expectObject = .ok fields :=
    ⟨_, rfl⟩
  simp only [Incoming.ofValue, Incoming.ofAnswer, object, uncalled, version, text, identified,
    numbered, succeeded, bind, Except.bind, pure, Except.pure]

/-- The result for a request that has been numbered is handled as a response. -/
theorem handleMessage_resultMessage (session : Session) {id : Nat} (small : id ≤ 2 ^ 53)
    (result : Value)
    : session.handleMessage (resultMessage (.ofNat id) result)
      = session.handleResponse { id, outcome := .ok result } := by
  rw [handleMessage, ofValue_resultMessage (Value.expectNat_ofNat small)]
  rfl

end LanguageClient.Session
