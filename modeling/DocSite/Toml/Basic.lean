import DocSite.Entries

/-!
# TOML values

* `Toml` is a value. A table remembers how it came to be, since that decides how it may grow.
* `Toml.updateAt` changes the table at a path and makes the tables that are missing on the way;
  `Toml.insertValue`, `Toml.openTable` and `Toml.appendTable` are what a line of a document does to
  its root table.
-/

namespace DocSite

/-- How a table came to be. -/
inductive TableKind where
  /-- Written in braces; it does not grow. -/
  | inline
  /-- Opened by a header. -/
  | header
  /-- Named on the way to a header. -/
  | implied
  /-- Named on the way to a dotted key. -/
  | dotted
deriving DecidableEq, Repr

/-- A TOML value. Floating-point numbers and times are kept by their texts. -/
inductive Toml where
  | string (s : String)
  | integer (n : Int)
  | float (text : String)
  | boolean (b : Bool)
  | time (text : String)
  | array (items : List Toml)
  | table (kind : TableKind) (entries : List (String × Toml))
  /-- Tables that were opened one by one under the same header. -/
  | tables (items : List Toml)
deriving Repr

namespace Toml

/-- The entries of a table. -/
abbrev Table := List (String × Toml)

/-- Changes the table at a path below a table. Only tables that no header opened may be passed on
the way of a dotted key. Of several tables under one header the last is meant. -/
def updateAt (dotted : Bool) (f : TableKind → Table → Option Table) :
    List String → TableKind → Table → Option Table
  | [], kind, t => f kind t
  | name :: rest, _, t =>
    match t.lookup name with
    | none =>
      let kind := if dotted then TableKind.dotted else .implied
      (updateAt dotted f rest kind []).map fun new => t ++ [(name, .table kind new)]
    | some (.table kind inner) =>
      if kind = .inline ∨ (dotted ∧ kind = .header) then none
      else (updateAt dotted f rest kind inner).map fun new => Entries.set name (.table kind new) t
    | some (.tables items) =>
      match items.reverse with
      | .table kind inner :: before =>
        (updateAt dotted f rest kind inner).map fun new =>
          Entries.set name (.tables (before.reverse ++ [.table kind new])) t
      | _ => none
    | some _ => none

/-- Adds a value under a dotted key, given by the names before the last and the last. No key is
given twice, and a dotted key adds to no table but those of dotted keys. -/
def insertValue (path : List String) (key : String) (v : Toml) (kind : TableKind) (t : Table) :
    Option Table :=
  updateAt true (fun kind t =>
    if (!path.isEmpty && kind ≠ .dotted) || (t.lookup key).isSome then none
    else some (t ++ [(key, v)])) path kind t

/-- Opens the table of a header. One that was named on the way to another header is opened as it is.
-/
def openTable (path : List String) (key : String) (root : Table) : Option Table :=
  updateAt false (fun _ t =>
    match t.lookup key with
    | none => some (t ++ [(key, .table .header [])])
    | some (.table .implied inner) => some (Entries.set key (.table .header inner) t)
    | some _ => none) path .header root

/-- Opens one more table under a header of several. -/
def appendTable (path : List String) (key : String) (root : Table) : Option Table :=
  updateAt false (fun _ t =>
    match t.lookup key with
    | none => some (t ++ [(key, .tables [.table .header []])])
    | some (.tables items) => some (Entries.set key (.tables (items ++ [.table .header []])) t)
    | some _ => none) path .header root

/-! ### Looking values up -/

/-- The text of a string value. -/
def string? : Toml → Option String
  | string s => some s
  | _ => none

/-- The value of an integer that is not negative. -/
def natural? : Toml → Option Nat
  | integer n => if 0 ≤ n then some n.toNat else none
  | _ => none

/-- The items of an array. -/
def items? : Toml → Option (List Toml)
  | array items => some items
  | tables items => some items
  | _ => none

/-- The look-up of a structure's fields, given their names in order. An array gives them in that
order, and a time has none of them. -/
def fields? (names : List String) : Toml → Option (String → Option Toml)
  | table _ entries => some fun name => entries.lookup name
  | time _ => some fun _ => none
  | v => v.items?.map fun items name => (names.zip items).lookup name

/-- A field that has a default when it is missing. -/
def withDefault {α : Type} (default : α) (decode : Toml → Option α) : Option Toml → Option α
  | none => some default
  | some v => decode v

/-- An array whose items are all of one kind. -/
def list {α : Type} (decode : Toml → Option α) (v : Toml) : Option (List α) :=
  v.items?.bind (·.mapM decode)

end Toml

end DocSite
