import LanguageClient.Position

/-!
Diagnostics that a server publishes for a document.
-/

namespace LanguageClient

open Json (Value ShapeError)

inductive Severity where
  | error
  | warning
  | information
deriving DecidableEq, Repr

namespace Severity

/-- The severity of a number. Without one, a diagnostic is information. -/
def ofNumber : Option Nat → Severity
  | some 1 => .error
  | some 2 => .warning
  | _ => .information

/-- The word for a severity in status lines and overlays. -/
def label : Severity → String
  | .error => "error"
  | .warning => "warning"
  | .information => "info"

end Severity

structure Diagnostic where
  range : Range
  severity : Severity
  message : String
  /-- Who found it. -/
  source : Option String
deriving DecidableEq, Repr

namespace Diagnostic

/-- Read a diagnostic, which needs a range only. -/
def ofValue (value : Value) : Except ShapeError Diagnostic := do
  let range ← Range.ofValue (← value.field "range")
  return {
    range
    severity := .ofNumber ((value.get? "severity").bind Value.asNat?)
    message := (value.getText? "message").getD ""
    source := value.getText? "source"
  }

end Diagnostic

/-- The diagnostics of a document. -/
structure Publication where
  uri : String
  /-- The version of the document that they are for. -/
  version : Option Int
  diagnostics : List Diagnostic
deriving DecidableEq, Repr

namespace Publication

/-- Read a publication. Unreadable diagnostics are skipped. -/
def ofValue (params : Value) : Except ShapeError Publication := do
  let uri ← (← params.field "uri").expectText
  let items ←
    match params.get? "diagnostics" with
    | some items => items.expectArray
    | none => .ok []
  return {
    uri
    version := (params.get? "version").bind Value.asInt?
    diagnostics := items.filterMap fun item => (Diagnostic.ofValue item).toOption
  }

end Publication

end LanguageClient
