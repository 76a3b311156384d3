import LanguageClient.ClientError
import LanguageClient.Frame
import LanguageClient.Reply

/-!
The state of a session with one server: what has been asked, which documents are open, what has
arrived and what the editor should react to.
-/

namespace LanguageClient

open Json (Value)

/-- A request that has been sent. -/
structure RequestHandle where
  id : Nat
  method : Method
deriving DecidableEq, Repr

/--
The request whose reply is awaited. Completion requests in a row form a streak, which is awaited
as a whole: replies to its earlier requests count until a later one has been replied to.
-/
structure PendingRequest where
  id : Nat
  method : Method
  /-- The request goes on waiting after a reply. -/
  retain : Bool
  /-- The first request of the streak. -/
  firstId : Nat
  /-- The latest request of the streak that has been replied to. -/
  lastDelivered : Option Nat
deriving DecidableEq, Repr

namespace PendingRequest

/-- Whether a pending request, or an earlier one of its streak, awaits a response. -/
def awaits (pending : PendingRequest) (id : Nat) : Bool :=
  id = pending.id
    || (pending.retain && pending.firstId ≤ id && id < pending.id
      && pending.lastDelivered.all (· < id))

/-- What is awaited after a response to a pending request. -/
def afterResponse (pending : PendingRequest) (id : Nat)
    : Option PendingRequest :=
  if pending.retain then some { pending with lastDelivered := some id } else none

end PendingRequest

/-- What the editor should react to. -/
inductive SessionEvent where
  /-- The server is ready. -/
  | initialized (info : ServerInfo)
  | reply (handle : RequestHandle) (reply : Reply)
  /-- The diagnostics of the active document have changed. -/
  | diagnostics (publication : Publication)
  | shown (notice : Notice)
  | logged (notice : Notice)

/-- A document that has been opened. -/
structure OpenDocument where
  language : String
  version : Nat
  /-- The text of a document that the server has not been told about yet. -/
  unopenedText : Option String
deriving DecidableEq, Repr

structure SessionOptions where
  /-- Completion requests go on waiting after a reply. -/
  retainCompletion : Bool := true
  /-- The most events that wait. The oldest ones give way to new ones. -/
  eventCapacity : Nat := 256
  /-- The process that servers are told to watch. -/
  processId : Nat := 0
deriving DecidableEq, Repr

/-- What messages go out through. It may break after a number of messages. -/
structure Transport where
  /-- How many messages still go out, when that is limited. -/
  remaining : Option Nat := none
  /-- Why the message after those does not go out. -/
  failure : String := ""
deriving DecidableEq, Repr

structure Session where
  options : SessionOptions := {}
  /-- The way to the server, while there is one. -/
  transport : Option Transport := none
  /-- The messages that have gone out and have not been collected, oldest first. -/
  written : List Value := []
  nextId : Nat := 0
  pending : Option PendingRequest := none
  framer : Framer := {}
  initialized : Bool := false
  serverInfo : Option ServerInfo := none
  documents : Keyed OpenDocument := []
  /-- The document that requests are about. -/
  active : Option String := none
  /-- The diagnostics of the active document. -/
  diagnostics : List Diagnostic := []
  events : List SessionEvent := []

namespace Session

/-- What an operation gives, and the session after it. -/
abbrev Outcome (α : Type) :=
  Except ClientError α × Session

/-- A session without a server. What has gone out stays until it is collected. -/
def reset (session : Session) : Session where
  options := session.options
  written := session.written

/-- Attach a server to a session that starts afresh. -/
def start (session : Session) (transport : Transport) : Session :=
  { session.reset with transport := some transport }

/-- Detach the server and forget everything about it. -/
def stop (session : Session) : Session :=
  session.reset

def isRunning (session : Session) : Bool :=
  session.transport.isSome

/-- The version of a document that the server has been told last. -/
def documentVersion? (session : Session) (uri : String) : Option Nat :=
  (session.documents.get? uri).map (·.version)

/-- The diagnostics of the active document that touch a line. -/
def diagnosticsOnLine (session : Session) (line : UInt32) : List Diagnostic :=
  session.diagnostics.filter fun diagnostic =>
    diagnostic.range.start.line ≤ line && line ≤ diagnostic.range.stop.line

/-- Take the waiting events, oldest first. -/
def drainEvents (session : Session) : List SessionEvent × Session :=
  (session.events, { session with events := [] })

/-- Take the messages that have gone out, oldest first. -/
def collectWritten (session : Session) : List Value × Session :=
  (session.written, { session with written := [] })

/-- Let an event wait. When there is no room, the oldest one is dropped. -/
def pushEvent (session : Session) (event : SessionEvent) : Session :=
  if session.options.eventCapacity = 0 then
    session
  else if session.events.length = session.options.eventCapacity then
    { session with events := session.events.drop 1 ++ [event] }
  else
    { session with events := session.events ++ [event] }

/-- Stop awaiting a completion, such as when its menu closes. -/
def releasePending (session : Session) : Session :=
  if session.pending.any (·.retain) then { session with pending := none } else session

end Session

end LanguageClient
