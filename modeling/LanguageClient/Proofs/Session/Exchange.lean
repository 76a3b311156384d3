import LanguageClient.Proofs.Session.Actions
import LanguageClient.Proofs.Session.Reactions

/-! What has been asked along a run of a session, and what has been received. The record is
kept beside the session, which knows its latest request only.
-/

namespace LanguageClient

open Json (Value)

/-- Anything that a running session is called for: a typed operation, the arrival of bytes,
or a request or notification of any method.
-/
inductive SessionCall where
  | act (action : SessionAction)
  | request (method : Method) (params : Value)
  | notify (method : String) (params : Value)

namespace SessionCall

/-- The request that a call gives back, when it sends one, and the session after it. -/
def run (session : Session) : SessionCall → Option RequestHandle × Session
  | act action => action.run session
  | request method params => SessionAction.run.asked (session.request method params)
  | notify method params => (none, (session.notify method params).2)

/-- The method that a call asks for. -/
def method? : SessionCall → Option Method
  | act (.requestHandshake _) => some .handshake
  | act .requestShutdown => some .shutdown
  | act (.requestCompletion _) => some .completion
  | act (.requestFormatting _ _) => some .formatting
  | act (.requestDefinition _) => some .definition
  | act (.requestReferences _ _) => some .references
  | request method _ => some method
  | _ => none

/-- The request that a call issues: the id that is given back, and the method asked for. -/
def issued (session : Session) (call : SessionCall) : List RequestHandle :=
  match call.method?, (call.run session).1 with
  | some method, some handle => [{ id := handle.id, method }]
  | _, _ => []

/-- A call for a method is refused before anything is sent, or it is a request of that method. -/
theorem run_of_method (session : Session) {call : SessionCall} {method : Method}
    (named : call.method? = some method)
    : call.run session = (none, session)
      ∨ ∃ params, call.run session = SessionAction.run.asked (session.request method params) := by
  have asked {outcome : Session.Outcome RequestHandle}
      (request
        : (∃ error, outcome = (.error error, session))
          ∨ ∃ params, outcome = session.request method params)
      : SessionAction.run.asked outcome = (none, session)
        ∨ ∃ params,
            SessionAction.run.asked outcome
            = SessionAction.run.asked (session.request method params) := by
    rcases request with ⟨error, rfl⟩ | ⟨params, rfl⟩
    · exact Or.inl rfl
    · exact Or.inr ⟨params, rfl⟩
  cases call with
  | request method params =>
      cases named
      exact asked (Or.inr ⟨params, rfl⟩)
  | notify method params => cases named
  | act action =>
      cases action with
      | requestHandshake workspace =>
          cases named
          exact asked (session.requestHandshake_cases workspace)
      | requestShutdown =>
          cases named
          exact asked (Or.inr ⟨.null, rfl⟩)
      | requestCompletion position =>
          cases named
          exact asked (session.requestAboutDocument_cases _ _)
      | requestFormatting tabSize insertSpaces =>
          cases named
          exact asked (session.requestAboutDocument_cases _ _)
      | requestDefinition position =>
          cases named
          exact asked (session.requestAboutDocument_cases _ _)
      | requestReferences position includeDeclaration =>
          cases named
          exact asked (session.requestAboutDocument_cases _ _)
      | openDocument _ _ _ | changeDocument _ | saveDocument _ | closeDocument | releasePending
      | drainEvents | receive _ => cases named

/-- A call gives back no request and issues none, or it issues the request that it gives
back, by its own method.
-/
theorem run_cases (session : Session) (call : SessionCall)
    (silent : ∀ chunk, call ≠ .act (.receive chunk))
    : (call.issued session = [] ∧ Session.Quiet session (call.run session).2)
      ∨ (session.isRunning = true
        ∧ ∃ method params transport,
            call.issued session = [{ id := session.nextId, method }]
            ∧ (call.run session).1 = some { id := session.nextId, method }
            ∧ (call.run session).2
              = (session.asking method).delivered transport
                (Session.requestMessage session.nextId method params)) := by
  cases named : call.method? with
  | some method =>
      unfold issued
      rcases run_of_method session named with refused | ⟨params, ran⟩
      · rw [named, refused]
        exact Or.inl ⟨rfl, Session.Quiet.refl session⟩
      · rw [named, ran]
        rcases session.request_quiet_or method params with
          ⟨error, after, failed, quiet⟩ | ⟨running, transport, sent⟩
        · rw [failed]
          exact Or.inl ⟨rfl, quiet⟩
        · rw [sent]
          exact Or.inr ⟨running, method, params, transport, rfl, rfl, rfl⟩
  | none =>
      refine Or.inl ⟨by rw [issued, named], ?_⟩
      cases call with
      | request method params => cases named
      | notify method params => exact session.notify_quiet method params
      | act action =>
          cases action with
          | openDocument uri language text => exact session.openDocument_quiet uri language text
          | changeDocument text => exact session.changeDocument_quiet text
          | saveDocument text => exact session.saveDocument_quiet text
          | closeDocument => exact session.closeDocument_quiet
          | releasePending => exact session.releasePending_quiet
          | drainEvents => exact session.drainEvents_quiet
          | receive chunk => exact absurd rfl (silent chunk)
          | requestHandshake _ | requestShutdown | requestCompletion _ | requestFormatting _ _
          | requestDefinition _ | requestReferences _ _ => cases named

end SessionCall

-----------------------------------------------------------------------------------------
-- Records
-----------------------------------------------------------------------------------------

/-- The request that an event replies to. -/
def SessionEvent.replyHandle? : SessionEvent → Option RequestHandle
  | .reply handle _ => some handle
  | _ => none

/-- A message as it arrives. -/
structure Receipt where
  /-- How many requests have been issued before. -/
  issued : Nat
  session : Session
  message : Value

namespace Receipt

/-- The session after the message. -/
def after (receipt : Receipt) : Session :=
  (receipt.session.handleMessage receipt.message).2

/-- The events that are queued for the message. -/
def queued (receipt : Receipt) : List SessionEvent :=
  receipt.session.queuedBy receipt.message

/-- The requests that are replied to by the message. -/
def replies (receipt : Receipt) : List RequestHandle :=
  receipt.queued.filterMap SessionEvent.replyHandle?

end Receipt

/-- A session after some calls, the requests issued by them, and the messages received. -/
structure Exchange where
  session : Session
  issued : List RequestHandle := []
  received : List Receipt := []

namespace Exchange

/-- A message arrives. -/
def take (run : Exchange) (message : Value) : Exchange where
  session := (run.session.handleMessage message).2
  issued := run.issued
  received := run.received ++ [{ issued := run.issued.length, session := run.session, message }]

/-- One call more. Bytes are received as the messages that they complete. -/
def step (run : Exchange) : SessionCall → Exchange
  | .act (.receive chunk) =>
    let (messages, framer) := run.session.framer.feed chunk
    messages.foldl take { run with session := { run.session with framer } }
  | call =>
    { run with
      session := (call.run run.session).2
      issued := run.issued ++ call.issued run.session }

/-- A session after calls in their order. -/
def after (session : Session) (calls : List SessionCall) : Exchange :=
  calls.foldl step { session }

/-- Messages are handled as they are received. -/
theorem foldl_take_session (run : Exchange) (messages : List Value)
    : (messages.foldl take run).session = run.session.handleMessages messages :=
  (List.foldl_hom Exchange.session fun _ _ => rfl).symm

/-- The record changes nothing. -/
theorem step_session (run : Exchange) (call : SessionCall)
    : (run.step call).session = (call.run run.session).2 := by
  unfold step
  split
  · exact foldl_take_session _ _
  · rfl

theorem after_session (session : Session) (calls : List SessionCall)
    : (after session calls).session
      = calls.foldl (fun state call => (call.run state).2) session :=
  (List.foldl_hom Exchange.session fun run call => (run.step_session call).symm).symm

end Exchange

end LanguageClient
