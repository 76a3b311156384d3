import LanguageClient.Json.Value

/-!
Values of an expected shape: what a reader of values asks for, and how it says that something
else was there.
-/

namespace LanguageClient.Json

/-- What a reader of values asked for and what it found. -/
structure ShapeError where
  expected : String
  found : String
  key : Option String := none
deriving DecidableEq, Repr

namespace ShapeError

/-- A required field is absent. -/
def missingField (name : String) : ShapeError where
  expected := "field"
  found := "missing"
  key := some name

def message (error : ShapeError) : String :=
  let place :=
    match error.key with
    | none => ""
    | some name => " for key \x60" ++ name ++ "\x60"
  "expected " ++ error.expected ++ ", got " ++ error.found ++ place

end ShapeError

namespace Value

/-- The name of a value's shape. -/
def kind : Value → String
  | .null => "null"
  | .boolean _ => "boolean"
  | .number _ => "number"
  | .text _ => "string"
  | .array _ => "array"
  | .object _ => "object"

/-- Something else was expected where this value stands. -/
def shapeError (value : Value) (expected : String) : ShapeError where
  expected
  found := value.kind

/-- The view of a value, or what was expected instead. -/
def expect (value : Value) (expected : String) (view : Value → Option α)
    : Except ShapeError α :=
  match view value with
  | some result => .ok result
  | none => .error (value.shapeError expected)

def expectText (value : Value) : Except ShapeError String :=
  value.expect "string" asText?

def expectNumber (value : Value) : Except ShapeError Number :=
  value.expect "number" asNumber?

def expectNat (value : Value) : Except ShapeError Nat :=
  value.expect "non-negative integer" asNat?

def expectBoolean (value : Value) : Except ShapeError Bool :=
  value.expect "boolean" asBoolean?

def expectArray (value : Value) : Except ShapeError (List Value) :=
  value.expect "array" asArray?

def expectObject (value : Value) : Except ShapeError Fields :=
  value.expect "object" asObject?

/-- A field that must be there. -/
def field (value : Value) (name : String) : Except ShapeError Value :=
  match value.expectObject with
  | .error error => .error error
  | .ok fields =>
    match Keyed.get? name fields with
    | some found => .ok found
    | none => .error (.missingField name)

end Value

end LanguageClient.Json
