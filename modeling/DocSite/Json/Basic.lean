/-!
# JSON values

* `Json` is a value; an object keeps its members in the order in which they are written.
* `Json.member?` looks a member up; of two members with one name the later one counts.
-/

namespace DocSite

/-- A JSON value. A number written with a point or an exponent is kept by its text. -/
inductive Json where
  | null
  | bool (b : Bool)
  | integer (n : Int)
  | decimal (text : String)
  | string (s : String)
  | array (items : List Json)
  | object (members : List (String × Json))
deriving Repr, Inhabited

namespace Json

/-- The value of the last member with a name, if the value is an object that has one. -/
def member? (name : String) : Json → Option Json
  | object members => (members.reverse.find? (·.1 == name)).map (·.2)
  | _ => none

/-- The text of a string value. -/
def string? : Json → Option String
  | string s => some s
  | _ => none

/-- The value of a truth value. -/
def bool? : Json → Option Bool
  | bool b => some b
  | _ => none

/-- The items of an array. -/
def items? : Json → Option (List Json)
  | array items => some items
  | _ => none

/-- The value of an integer below `bound` that is not negative. -/
def natBelow? (bound : Nat) : Json → Option Nat
  | integer n => if 0 ≤ n ∧ n < bound then some n.toNat else none
  | _ => none

/-- A string or `null`. -/
def ofString? : Option String → Json
  | some s => string s
  | none => null

end Json

end DocSite
