import LanguageClient.Completion.Candidate
import LanguageClient.Edit
import LanguageClient.Location
import LanguageClient.Message

/-!
The requests of this client and what their results say.
-/

namespace LanguageClient

open Json (Value ShapeError)

/-- What a request asks for. -/
inductive Method where
  | handshake
  | completion
  | formatting
  | definition
  | references
  | shutdown
  /-- Any other method. Its result is handed on as it is. -/
  | other (name : String)
deriving DecidableEq, Repr

namespace Method

/-- The name of a method in messages. -/
def name : Method → String
  | .handshake => "initialize"
  | .completion => "textDocument/completion"
  | .formatting => "textDocument/formatting"
  | .definition => "textDocument/definition"
  | .references => "textDocument/references"
  | .shutdown => "shutdown"
  | .other name => name

/-- Whether a request of a method may go on waiting after a reply. -/
def retains (method : Method) : Bool :=
  method = .completion

end Method

/-- What a server says about itself. -/
structure ServerInfo where
  name : Option String := none
  version : Option String := none
  capabilities : Value := .null

namespace ServerInfo

def ofValue (result : Value) : Except ShapeError ServerInfo := do
  let _ ← result.expectObject
  let about := result.get? "serverInfo"
  return {
    name := about.bind (·.getText? "name")
    version := about.bind (·.getText? "version")
    capabilities := (result.get? "capabilities").getD .null
  }

/-- The name of a server, with its version when that is known. -/
def label? (info : ServerInfo) : Option String :=
  match info.name, info.version with
  | some name, some version => some (name ++ " " ++ version)
  | some name, none => some name
  | none, _ => none

/-- Whether a server has a capability: one that is neither null nor false. -/
def supports (info : ServerInfo) (capability : String) : Bool :=
  match info.capabilities.get? capability with
  | none | some .null | some (.boolean false) => false
  | some _ => true

end ServerInfo

/-- What a reply says. -/
inductive Reply where
  | handshake (info : ServerInfo)
  | completion (candidates : List Candidate)
  | formatting (edits : List TextEdit)
  | definition (locations : List Location)
  | references (locations : List Location)
  | shutdown
  | other (result : Value)
  /-- The server refuses the request. -/
  | error (reason : ResponseError)

namespace Reply

/-- Read the result of a request by its method. -/
def ofResult (method : Method) (result : Value) : Except ShapeError Reply :=
  match method with
  | .handshake => (ServerInfo.ofValue result).map .handshake
  | .completion => (Candidate.listOfValue result).map .completion
  | .formatting => (TextEdit.listOfValue result).map .formatting
  | .definition => .ok (.definition (Location.listOfValue result))
  | .references => .ok (.references (Location.listOfValue result))
  | .shutdown => .ok .shutdown
  | .other _ => .ok (.other result)

end Reply

end LanguageClient
