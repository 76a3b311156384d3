import LanguageClient.Json.Shape
import LanguageClient.Proofs.Keyed

/-! Fields of objects that are written down in any order, and what is read in steps. -/

namespace LanguageClient.Json

/-- What succeeds in two steps succeeds in each of them. -/
theorem exists_of_bind_ok {ε α β : Type} {first : Except ε α} {next : α → Except ε β}
    {result : β} (succeeded : (first >>= next) = .ok result)
    : ∃ value, first = .ok value ∧ next value = .ok result := by
  cases first with
  | error error => cases succeeded
  | ok value => exact ⟨value, rfl, succeeded⟩

theorem exists_of_map_ok {ε α β : Type} {outcome : Except ε α} {change : α → β} {result : β}
    (succeeded : outcome.map change = .ok result)
    : ∃ value, outcome = .ok value ∧ change value = result := by
  cases outcome with
  | error error => cases succeeded
  | ok value => exact ⟨value, rfl, Except.ok.inj succeeded⟩

end LanguageClient.Json

namespace LanguageClient.Json.Value

/-- The last of the fields that are written down under a name is the one that is read. -/
theorem get?_ofFields (fields : List (String × Value)) (name : String)
    : (ofFields fields).get? name = Keyed.get? name fields.reverse := by
  rw [ofFields, get?, asObject?, Option.bind_some, Keyed.get?_ofList]

theorem getText?_ofFields (fields : List (String × Value)) (name : String)
    : (ofFields fields).getText? name = (Keyed.get? name fields.reverse).bind asText? := by
  rw [getText?, get?_ofFields]

/-- A required field of an object is the last one under its name. -/
theorem field_ofFields {fields : List (String × Value)} {name : String} {value : Value}
    (found : Keyed.get? name fields.reverse = some value)
    : (ofFields fields).field name = .ok value := by
  have kept : Keyed.get? name (Keyed.ofList fields) = some value :=
    (Keyed.get?_ofList fields name).trans found
  have listed : (ofFields fields).expectObject = .ok (Keyed.ofList fields) := rfl
  rw [field, listed]
  dsimp only
  rw [kept]

/-- A field that must be there is the one that is looked up. -/
theorem field_eq_ok_iff {value field : Value} {name : String}
    : value.field name = .ok field ↔ value.get? name = some field := by
  cases value with
  | object fields =>
      have listed : (Value.object fields).expectObject = .ok fields := rfl
      have looked : (Value.object fields).get? name = Keyed.get? name fields := rfl
      rw [Value.field, listed, looked]
      dsimp only
      cases Keyed.get? name fields <;> simp
  | _ => exact ⟨nofun, nofun⟩

/-- A value has a field of a name, and what stands there is as described. -/
def Holds (value : Value) (name : String) (described : Value → Prop) : Prop :=
  ∃ field, value.get? name = some field ∧ described field

/-- There is one field of a name, so that all descriptions of it are of the same value. -/
theorem Holds.both {value : Value} {name : String} {first second : Value → Prop}
    (hf : value.Holds name first) (hs : value.Holds name second)
    : value.Holds name fun field => first field ∧ second field := by
  obtain ⟨field, found, described⟩ := hf
  obtain ⟨_, again, also⟩ := hs
  cases found.symm.trans again
  exact ⟨field, found, described, also⟩

/-- The last of the fields that are written down under a name is the one that is described. -/
theorem holds_ofFields {fields : List (String × Value)} {name : String} {field : Value}
    {described : Value → Prop} (found : Keyed.get? name fields.reverse = some field)
    (holds : described field)
    : (ofFields fields).Holds name described :=
  ⟨field, (get?_ofFields fields name).trans found, holds⟩

end LanguageClient.Json.Value
