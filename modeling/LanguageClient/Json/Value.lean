import LanguageClient.Json.Number
import LanguageClient.Keyed

/-!
Document values. The fields of an object are kept in increasing order of their names, one field
a name.
-/

namespace LanguageClient.Json

inductive Value where
  | null
  | boolean (value : Bool)
  | number (value : Number)
  | text (value : String)
  | array (items : List Value)
  | object (fields : List (String × Value))
deriving Inhabited

/-- The fields of an object. -/
abbrev Fields :=
  Keyed Value

namespace Value

/-- The object with the given fields, in any order. -/
def ofFields (fields : List (String × Value)) : Value :=
  .object (Keyed.ofList fields)

def ofNat (value : Nat) : Value :=
  .number (.ofNat value)

def ofInt (value : Int) : Value :=
  .number (.ofInt value)

/-- An absent value is written as null. -/
def ofOption : Option Value → Value
  | none => .null
  | some value => value

instance : Coe String Value where
  coe := .text

instance : Coe Bool Value where
  coe := .boolean

mutual

/-- Equality of values, where numbers are equal by value: a NaN differs from itself. -/
def equals : Value → Value → Bool
  | .null, .null => true
  | .boolean left, .boolean right => left == right
  | .number left, .number right => left.equals right
  | .text left, .text right => left == right
  | .array left, .array right => equalsItems left right
  | .object left, .object right => equalsFields left right
  | _, _ => false

def equalsItems : List Value → List Value → Bool
  | [], [] => true
  | left :: lefts, right :: rights => equals left right && equalsItems lefts rights
  | _, _ => false

def equalsFields : List (String × Value) → List (String × Value) → Bool
  | [], [] => true
  | (leftName, left) :: lefts, (rightName, right) :: rights =>
    leftName == rightName && equals left right && equalsFields lefts rights
  | _, _ => false

end

def asBoolean? : Value → Option Bool
  | .boolean value => some value
  | _ => none

def asNumber? : Value → Option Number
  | .number value => some value
  | _ => none

def asText? : Value → Option String
  | .text value => some value
  | _ => none

def asArray? : Value → Option (List Value)
  | .array items => some items
  | _ => none

def asObject? : Value → Option Fields
  | .object fields => some fields
  | _ => none

/-- A number that is an exact integer from zero up. -/
def asNat? (value : Value) : Option Nat :=
  value.asNumber?.bind Number.toNat?

/-- A number that is an exact integer. -/
def asInt? (value : Value) : Option Int :=
  value.asNumber?.bind Number.toInt?

def isNull : Value → Bool
  | .null => true
  | _ => false

/-- Look up a field. Values other than objects have none. -/
def get? (value : Value) (name : String) : Option Value :=
  value.asObject?.bind (Keyed.get? name)

/-- Look up a field that holds a text. -/
def getText? (value : Value) (name : String) : Option String :=
  (value.get? name).bind asText?

/-- Set a field of an object. Other values have no field to set. -/
def insert? (value : Value) (name : String) (field : Value) : Option Value :=
  value.asObject?.map fun fields => .object (Keyed.insert name field fields)

/-- Replace a field that an object already has. -/
def replace? (value : Value) (name : String) (field : Value) : Option Value :=
  (value.get? name).bind fun _ => value.insert? name field

/-- Remove a field that an object has. -/
def erase? (value : Value) (name : String) : Option Value :=
  (value.get? name).bind fun _ =>
    value.asObject?.map fun fields => .object (Keyed.erase name fields)

end Value

end LanguageClient.Json
