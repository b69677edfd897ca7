/-!
# Named entries

* `Entries.set` gives a name a value, in place where the name has one already and at the end else.
-/

namespace DocSite.Entries

variable {κ α : Type} [DecidableEq κ]

/-- Entries with the first one of a name replaced, or with a new one at the end. -/
def set (name : κ) (a : α) : List (κ × α) → List (κ × α)
  | [] => [(name, a)]
  | e :: rest => if e.1 = name then (name, a) :: rest else e :: set name a rest

end DocSite.Entries
