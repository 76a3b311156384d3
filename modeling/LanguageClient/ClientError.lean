import LanguageClient.Json.SyntaxError
import LanguageClient.Message

/-!
What can go wrong between an editor and a server.
-/

namespace LanguageClient

open Json (SyntaxError ShapeError)

inductive ClientError where
  /-- No server is attached. -/
  | notRunning
  /-- A message could not be sent. The server is detached. -/
  | sendFailed (reason : String)
  /-- The server has not answered the first request yet. -/
  | notInitialized
  | noActiveDocument
  /-- The server's answer is empty. -/
  | noResults
  /-- A response arrived while none was awaited. -/
  | unexpectedResponse (id : Nat)
  /-- A response arrived for a request that a later one has replaced. -/
  | staleResponse (id : Nat) (pending : Nat)
  | malformed (cause : SyntaxError)
  | shape (cause : ShapeError)
  /-- The server refuses a request. -/
  | refused (reason : ResponseError)
deriving DecidableEq, Repr

namespace ClientError

def message : ClientError → String
  | .notRunning => "language server is not running"
  | .sendFailed reason => "failed to write to language server: " ++ reason
  | .notInitialized => "language server is still starting"
  | .noActiveDocument => "no document is open"
  | .noResults => "no results"
  | .unexpectedResponse id =>
    "response id=" ++ toString id ++ " arrived with no request pending"
  | .staleResponse id pending =>
    "response id=" ++ toString id ++ " superseded by pending request id=" ++ toString pending
  | .malformed cause => "malformed message body: " ++ cause.message
  | .shape cause => "unexpected message shape: " ++ cause.message
  | .refused reason => "server error " ++ toString reason.code ++ ": " ++ reason.message

/-- Whether an error only says that a message means nothing. -/
def isIgnorable : ClientError → Bool
  | .unexpectedResponse _ | .staleResponse _ _ | .malformed _ | .shape _ => true
  | _ => false

end ClientError

end LanguageClient
