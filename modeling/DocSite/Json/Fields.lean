import DocSite.Json.Basic

/-!
# Fields of a JSON value

A structure is written as an object, or as an array that gives its fields in order and may leave
out the last ones.

* `fields?` looks a field up in either form; members with other names are ignored, surplus items
  are refused.
* `required`, `withDefault` and `optional` read a field that must be there, one that may be missing,
  and one that may also be null.
-/

namespace DocSite.Json

/-- The look-up of a structure's fields, given their names in order. -/
def fields? (names : List String) (v : Json) : Option (String → Option Json) :=
  match v with
  | object _ => some fun name => v.member? name
  | array items =>
    if items.length ≤ names.length then some fun name => (names.zip items).lookup name else none
  | _ => none

variable {α : Type}

/-- A field that has to be there. -/
def required (decode : Json → Option α) (field : Option Json) : Option α :=
  field.bind decode

/-- A field that has a default when it is missing. -/
def withDefault (default : α) (decode : Json → Option α) : Option Json → Option α
  | none => some default
  | some v => decode v

/-- A field that is unset when it is missing or null. -/
def optional (decode : Json → Option α) : Option Json → Option (Option α)
  | none => some none
  | some null => some none
  | some v => (decode v).map some

/-- An array whose items are all of one kind. -/
def list (decode : Json → Option α) (v : Json) : Option (List α) :=
  v.items?.bind (·.mapM decode)

end DocSite.Json
