import LanguageClient.Session.Receive
import LanguageClient.Session.Requests

/-! The typed operations on a running session, as data, so that a run is a list of them, and what
the messages that arrive in between keep.
-/

namespace LanguageClient

/-- Something that an editor does with a session between its start and its end, or the
arrival of bytes.
-/
inductive SessionAction where
  | requestHandshake (workspace : Workspace)
  | requestShutdown
  | requestCompletion (position : Position)
  | requestFormatting (tabSize : UInt32) (insertSpaces : Bool)
  | requestDefinition (position : Position)
  | requestReferences (position : Position) (includeDeclaration : Bool)
  | openDocument (uri language text : String)
  | changeDocument (text : String)
  | saveDocument (text : Option String)
  | closeDocument
  | releasePending
  | drainEvents
  | receive (chunk : List UInt8)

namespace SessionAction

/-- The request that an action gives back, when it sends one, and the session after it. -/
def run (session : Session) : SessionAction → Option RequestHandle × Session
  | requestHandshake workspace => asked (session.requestHandshake workspace)
  | requestShutdown => asked session.requestShutdown
  | requestCompletion position => asked (session.requestCompletion position)
  | requestFormatting tabSize insertSpaces =>
    asked (session.requestFormatting tabSize insertSpaces)
  | requestDefinition position => asked (session.requestDefinition position)
  | requestReferences position includeDeclaration =>
    asked (session.requestReferences position includeDeclaration)
  | openDocument uri language text => (none, (session.openDocument uri language text).2)
  | changeDocument text => (none, (session.changeDocument text).2)
  | saveDocument text => (none, (session.saveDocument text).2)
  | closeDocument => (none, session.closeDocument.2)
  | releasePending => (none, session.releasePending)
  | drainEvents => (none, session.drainEvents.2)
  | receive chunk => (none, session.receive chunk)
where
  /-- A request that went out is given back. -/
  asked (outcome : Session.Outcome RequestHandle) : Option RequestHandle × Session :=
    (outcome.1.toOption, outcome.2)

/-- Whether an action neither greets nor dismisses the server, nor brings bytes from it. -/
def isInternal : SessionAction → Bool
  | requestHandshake _ | requestShutdown | receive _ => false
  | _ => true

end SessionAction

namespace Session

/-- What every message keeps is kept by messages in a row. -/
theorem handleMessages_keeps {P : Session → Prop} {session : Session} (holds : P session)
    (kept : ∀ state message, P state → P (state.handleMessage message).2)
    (messages : List Json.Value)
    : P (session.handleMessages messages) :=
  List.foldlRecOn messages _ holds fun state holds message _ => kept state message holds

/-- What every message keeps is kept by a chunk, once the bytes left over are put by. -/
theorem receive_keeps {P : Session → Prop} {session : Session} {chunk : List UInt8}
    (framed : P { session with framer := (session.framer.feed chunk).2 })
    (kept : ∀ state message, P state → P (state.handleMessage message).2)
    : P (session.receive chunk) :=
  handleMessages_keeps framed kept (session.framer.feed chunk).1

end Session

end LanguageClient
