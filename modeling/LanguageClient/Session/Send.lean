import LanguageClient.Session.Basic

/-!
Sending messages. A message that does not go out ends the connection: the server is detached and
nothing is awaited any more.
-/

namespace LanguageClient.Session

open Json (Value)

/-- The message of a request. -/
def requestMessage (id : Nat) (method : Method) (params : Value) : Value :=
  .ofFields
    [
      ("jsonrpc", .text "2.0"),
      ("id", .ofNat id),
      ("method", .text method.name),
      ("params", params)
    ]

/-- The message of a notification. -/
def notificationMessage (method : String) (params : Value) : Value :=
  .ofFields [("jsonrpc", .text "2.0"), ("method", .text method), ("params", params)]

/-- Send a message. -/
def send (session : Session) (message : Value) : Outcome Unit :=
  match session.transport with
  | none => (.error .notRunning, session)
  | some transport =>
    match transport.remaining with
    | some 0 =>
      (.error (.sendFailed transport.failure), { session with transport := none, pending := none })
    | some (remaining + 1) =>
      (
        .ok (),
        { session with
          transport := some { transport with remaining := some remaining }
          written := session.written ++ [message] }
      )
    | none => (.ok (), { session with written := session.written ++ [message] })

/-- Send a notification. -/
def notify (session : Session) (method : String) (params : Value) : Outcome Unit :=
  session.send (notificationMessage method params)

/--
What is awaited after the next request: that request, with the streak before it when it goes on.
-/
def nextPending (session : Session) (method : Method) : PendingRequest :=
  let retain := method.retains && session.options.retainCompletion
  let alone : PendingRequest :=
    { id := session.nextId, method, retain, firstId := session.nextId, lastDelivered := none }
  match session.pending with
  | none => alone
  | some previous =>
    if retain && previous.retain && previous.method = method then
      { alone with firstId := previous.firstId, lastDelivered := previous.lastDelivered }
    else
      alone

/-- Send a request, whose reply is awaited in place of any other. -/
def request (session : Session) (method : Method) (params : Value) : Outcome RequestHandle :=
  if session.isRunning then
    let id := session.nextId
    let waiting :=
      { session with nextId := id + 1, pending := some (session.nextPending method) }
    match waiting.send (requestMessage id method params) with
    | (.ok (), sent) => (.ok { id, method }, sent)
    | (.error error, failed) => (.error error, failed)
  else
    (.error .notRunning, session)

end LanguageClient.Session
