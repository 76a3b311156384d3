/-!
Values under names, in increasing order of the names and with one value a name.
-/

namespace LanguageClient

/-- Names with their values. -/
abbrev Keyed (α : Type) :=
  List (String × α)

namespace Keyed

/-- The value of a name. -/
def get? (name : String) : Keyed α → Option α
  | [] => none
  | (other, value) :: rest => if other = name then some value else get? name rest

/-- Set the value of a name, in its place in the order of names. -/
def insert (name : String) (value : α) : Keyed α → Keyed α
  | [] => [(name, value)]
  | (other, old) :: rest =>
    if name = other then
      (name, value) :: rest
    else if name < other then
      (name, value) :: (other, old) :: rest
    else
      (other, old) :: insert name value rest

/-- Remove the value of a name. -/
def erase (name : String) : Keyed α → Keyed α
  | [] => []
  | (other, old) :: rest => if other = name then rest else (other, old) :: erase name rest

/-- Set values one after another: the last one of a name is kept. -/
def ofList (values : List (String × α)) : Keyed α :=
  values.foldl (fun kept named => insert named.1 named.2 kept) []

end Keyed

end LanguageClient
