/-!
What a running server lets its client know.
-/

namespace LanguageClient

inductive ServerEvent where
  /-- Bytes that the server has written. -/
  | output (bytes : List UInt8)
  /-- A line for the log. -/
  | errorLine (text : String)
  /-- The server has ended, with its exit status when there is one. -/
  | exited (status : Option Int)
deriving DecidableEq, Repr

/-- Whether the server has ended. -/
def ServerEvent.isExit : ServerEvent → Bool
  | .exited _ => true
  | _ => false

end LanguageClient
