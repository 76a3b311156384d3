import LanguageClient.Position
import LanguageClient.Uri

/-!
Places that a server points to. A server gives one or a list, each of them as a location or as a
link whose target is the location.
-/

namespace LanguageClient

open Json (Value)

/-- A range of a document. -/
structure Location where
  uri : String
  range : Range
deriving DecidableEq, Repr

namespace Location

/-- The path of the document, when it is a local file. -/
def path? (location : Location) : Option String :=
  Uri.toPath? location.uri

/-- The range in a field. -/
def range? (value : Value) (name : String) : Option Range :=
  (value.get? name).bind fun field => (Range.ofValue field).toOption

/-- Read a location given by its own fields. -/
def ofFields? (value : Value) : Option Location := do
  let uri ← value.getText? "uri"
  let range ← range? value "range"
  return { uri, range }

/-- Read the target of a link. The range of what is selected goes before the whole range. -/
def ofLink? (value : Value) : Option Location := do
  let uri ← value.getText? "targetUri"
  let range ←
    match value.get? "targetSelectionRange" with
    | some _ => range? value "targetSelectionRange"
    | none => range? value "targetRange"
  return { uri, range }

def ofValue? (value : Value) : Option Location :=
  ofFields? value <|> ofLink? value

/-- The locations of an answer. Unreadable ones are skipped. -/
def listOfValue : Value → List Location
  | .null => []
  | .array items => items.filterMap ofValue?
  | single => (ofValue? single).toList

end Location

end LanguageClient
