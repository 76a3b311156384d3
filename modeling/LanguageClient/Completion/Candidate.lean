import LanguageClient.Completion.Snippet
import LanguageClient.Position

/-!
Completion candidates as a server suggests them.
-/

namespace LanguageClient

open Json (Value ShapeError)

/-- A suggestion of a server. -/
structure Candidate where
  /-- The text that stands for the candidate in a menu. -/
  label : String
  insertText : Option String := none
  /-- The range that the inserted text replaces. -/
  editRange : Option Range := none
  sortText : Option String := none
  filterText : Option String := none
  detail : Option String := none
  kind : Option UInt32 := none
deriving DecidableEq, Repr

namespace Candidate

/-- What candidates are ordered by. -/
def sortKey (candidate : Candidate) : String :=
  candidate.sortText.getD candidate.label

/-- What is compared with the typed text. -/
def filterKey (candidate : Candidate) : String :=
  candidate.filterText.getD candidate.label

/-- The text that accepting a candidate inserts: the label, unless another one is given. -/
def textToInsert (candidate : Candidate) : String :=
  match candidate.insertText with
  | some "" => candidate.label
  | some text => text
  | none => candidate.label

/-- The number that marks the inserted text as a snippet. -/
def snippetFormat : Nat :=
  2

/-- The range of an edit, or the one for inserting of an edit that has two. -/
def rangeOfEdit? (edit : Value) : Option Range :=
  ((edit.get? "range") <|> (edit.get? "insert")).bind fun range =>
    (Range.ofValue range).toOption

/-- The field with the inserted text: that of the edit goes before that of the candidate. -/
def insertedField? (item : Value) : Option Value :=
  ((item.get? "textEdit").bind (·.get? "newText")) <|> item.get? "insertText"

/-- Read a candidate, which needs a label only. -/
def ofValue (item : Value) : Except ShapeError Candidate := do
  let label ← (← item.field "label").expectText
  let isSnippet := (item.get? "insertTextFormat").bind Value.asNat? == some snippetFormat
  let inserted := (insertedField? item).bind Value.asText?
  return {
    label
    insertText := if isSnippet then inserted.map Snippet.plainText else inserted
    editRange := (item.get? "textEdit").bind rangeOfEdit?
    sortText := item.getText? "sortText"
    filterText := item.getText? "filterText"
    detail := item.getText? "detail"
    kind := ((item.get? "kind").bind Value.asNat?).map .ofNat
  }

/-- The items of an answer: a list, an object that holds one, or null for none. -/
def itemsOfValue : Value → Except ShapeError (List Value)
  | .null => .ok []
  | .array items => .ok items
  | .object fields => (Value.object fields).field "items" >>= Value.expectArray
  | other => .error (other.shapeError "array or object")

/-- The candidates of an answer. Those without a label are skipped. -/
def listOfValue (result : Value) : Except ShapeError (List Candidate) :=
  (itemsOfValue result).map (·.filterMap fun item => (ofValue item).toOption)

end Candidate

end LanguageClient
