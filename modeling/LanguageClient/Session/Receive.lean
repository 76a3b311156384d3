import LanguageClient.Session.Documents

/-!
What arrives from the server. Messages that mean nothing, or nothing any more, leave no event.
-/

namespace LanguageClient.Session

open Json (Value)

/--
Finish the handshake: say so, tell the server about the documents that were held back, and let
the editor know.
-/
def finishHandshake (session : Session) (info : ServerInfo) : Outcome Unit :=
  let ready := { session with initialized := true, serverInfo := some info }
  match ready.notify "initialized" (.ofFields []) with
  | (.error error, failed) => (.error error, failed)
  | (.ok (), greeted) =>
    match greeted.flushDocuments with
    | (.error error, failed) => (.error error, failed)
    | (.ok (), flushed) => (.ok (), flushed.pushEvent (.initialized info))

/-- React to a reply. A server that agrees to shut down is told to exit. -/
def handleReply (session : Session) (handle : RequestHandle) : Reply → Outcome Unit
  | .handshake info => session.finishHandshake info
  | .shutdown => (session.pushEvent (.reply handle .shutdown)).notify "exit" .null
  | reply => (.ok (), session.pushEvent (.reply handle reply))

/-- The reply that a response to a method gives. -/
def replyOf (method : Method) (response : Response) : Except ClientError Reply :=
  match response.outcome with
  | .ok result => (Reply.ofResult method result).mapError .shape
  | .error reason => .ok (.error reason)

/-- React to a response. One that is awaited counts even when it cannot be read. -/
def handleResponse (session : Session) (response : Response) : Outcome Unit :=
  match session.pending with
  | none => (.error (.unexpectedResponse response.id), session)
  | some pending =>
    if pending.awaits response.id then
      let answered := { session with pending := pending.afterResponse response.id }
      match replyOf pending.method response with
      | .error error => (.error error, answered)
      | .ok reply => answered.handleReply { id := response.id, method := pending.method } reply
    else
      (.error (.staleResponse response.id pending.id), session)

/-- React to a notification. Diagnostics count for the active document only. -/
def handleNotification (session : Session) : Notification → Session
  | .diagnostics publication =>
    if session.active = some publication.uri then
      { session with diagnostics := publication.diagnostics }.pushEvent
        (.diagnostics publication)
    else
      session
  | .shown notice => session.pushEvent (.shown notice)
  | .logged notice => session.pushEvent (.logged notice)

/-- React to a message of any kind. A request of the server is answered at once. -/
def handleIncoming (session : Session) : Incoming → Outcome Unit
  | .request request => session.send request.answer
  | .notification method params =>
    match Notification.ofMethod method params with
    | .error error => (.error (.shape error), session)
    | .ok none => (.ok (), session)
    | .ok (some notification) => (.ok (), session.handleNotification notification)
  | .response response => session.handleResponse response

/-- React to a message that may have any shape. -/
def handleMessage (session : Session) (message : Value) : Outcome Unit :=
  match Incoming.ofValue message with
  | .error error => (.error (.shape error), session)
  | .ok incoming => session.handleIncoming incoming

/-- React to messages, whatever comes of each of them. -/
def handleMessages (session : Session) (messages : List Value) : Session :=
  messages.foldl (fun state message => (state.handleMessage message).2) session

/-- React to the messages that a chunk of bytes completes. -/
def receive (session : Session) (chunk : List UInt8) : Session :=
  let (messages, framer) := session.framer.feed chunk
  { session with framer }.handleMessages messages

end LanguageClient.Session
