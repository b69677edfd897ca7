import DocSite.Date.Reader
import DocSite.FrontMatter.Basic
import DocSite.Yaml.Event
import DocSite.Yaml.Lexer

/-!
# The fields of front matter

The front matter is a YAML mapping. Its keys are read in the order in which they stand, and the
first fault decides, also when what follows is no YAML.

* `Field` lists the keys that are read; all others are passed over.
* `FrontMatter.ofDocument?` reads the events of a YAML document, `FrontMatter.ofText?` a text.
* `FrontMatter.read` reads a page.
-/

namespace DocSite

open Yaml (Event)

/-- A field of the front matter. -/
inductive Field where
  | title
  | description
  | slug
  | category
  | tags
  | draft
  | date
deriving DecidableEq, Repr

namespace Field

/-- The fields with their keys. -/
def keys : List (String × Field) :=
  [("title", title), ("description", description), ("slug", slug), ("category", category),
   ("tags", tags), ("draft", draft), ("date", date)]

/-- The field of a key. -/
def ofKey? (key : List Char) : Option Field :=
  keys.lookup (String.ofList key)

end Field

namespace FrontMatter

/-! ### Values -/

/-- What the node in front stands for, and what follows it there: for an alias, the node with the
anchor. -/
def node? (all : List Event) : List Event → Option (Event × List Event)
  | [] => none
  | .alias n :: _ =>
    match Yaml.Document.target? n all with
    | some (e :: rest) => some (e, rest)
    | _ => none
  | e :: rest => some (e, rest)

/-- The events after the ends of so many collections. -/
def skipOpen : Nat → List Event → Option (List Event)
  | 0, es => some es
  | _ + 1, [] => none
  | n + 1, e :: rest =>
    match e with
    | .sequenceStart _ => skipOpen (n + 2) rest
    | .mappingStart _ => skipOpen (n + 2) rest
    | .sequenceEnd => skipOpen n rest
    | .mappingEnd => skipOpen n rest
    | _ => skipOpen (n + 1) rest

/-- The events after a node. -/
def skipNode : List Event → Option (List Event)
  | [] => none
  | .sequenceStart _ :: rest => skipOpen 1 rest
  | .mappingStart _ :: rest => skipOpen 1 rest
  | _ :: rest => some rest

/-- The tag of a truth value. -/
def truthTag : List Char := "tag:yaml.org,2002:bool".toList

/-- The tag of a value that is not set. -/
def nullTag : List Char := "tag:yaml.org,2002:null".toList

/-- A way to write that a value is not set. -/
def isNull (text : List Char) : Bool :=
  ["null", "Null", "NULL", "~"].contains (String.ofList text)

/-- Whether a node sets its field. A plain scalar that writes no value does not, nor does an empty
one without a tag; under the tag of no value nothing else may stand. -/
def isSet? : Event → Option Bool
  | .scalar _ none .plain text => some !(text.isEmpty || isNull text)
  | .scalar _ (some tag) .plain text =>
    if tag ≠ nullTag then some true
    else if isNull text then some false
    else none
  | _ => some true

/-- The text of a scalar, however it is written. -/
def scalarText? : Event → Option (List Char)
  | .scalar _ _ _ text => some text
  | _ => none

/-- The truth value of a scalar: a plain one, or a literal one with the tag. -/
def truth? : Event → Option Bool
  | .scalar _ tag style text =>
    if style = .plain ∨ (style = .literal ∧ tag = some truthTag) then
      [("true", true), ("True", true), ("TRUE", true), ("false", false), ("False", false),
        ("FALSE", false)].lookup (String.ofList text)
    else none
  | _ => none

/-- The texts of the scalars up to the end of a sequence. -/
def texts? (all : List Event) : List Event → Option (List String)
  | [] => none
  | .sequenceEnd :: _ => some []
  | e :: rest => do
    let text ← scalarText? (← node? all [e]).1
    return String.ofList text :: (← texts? all rest)

/-- The texts of a sequence. An empty scalar is a sequence without entries. -/
def list? (all : List Event) : Event × List Event → Option (List String)
  | (.sequenceStart _, rest) => texts? all rest
  | (.scalar _ _ .plain [], _) => some []
  | _ => none

/-! ### Fields -/

/-- The fields with one field set to the node in front, of which `all` are the events around it. -/
def set (all es : List Event) (fields : FrontMatter) (field : Field) :
    Except FrontMatterFault FrontMatter :=
  let required {α : Type} (o : Option α) : Except FrontMatterFault α :=
    match o with
    | some a => .ok a
    | none => .error .malformed
  do
    let node ← required (node? all es)
    if !(← required (isSet? node.1)) then return fields
    let text := required ((scalarText? node.1).map String.ofList)
    match field with
    | .title => return { fields with title := some (← text) }
    | .description => return { fields with description := some (← text) }
    | .slug => return { fields with slug := some (← text) }
    | .category => return { fields with category := some (← text) }
    | .tags => return { fields with tags := some (← required (list? all node)) }
    | .draft => return { fields with draft := some (← required (truth? node.1)) }
    | .date =>
      let raw ← text
      match Date.ofText? raw with
      | some date => return { fields with date := some date }
      | none => throw (.badDate (String.ofList (Text.trim raw.toList)))

/-- The fields of a mapping's entries up to its end. No field may be given twice. -/
def ofEntries (all : List Event) :
    Nat → List Field → FrontMatter → List Event → Except FrontMatterFault FrontMatter
  | 0, _, _, _ => .error .malformed
  | fuel + 1, seen, fields, es =>
    match es with
    | [] => .error .malformed
    | .mappingEnd :: _ => .ok fields
    | key :: rest =>
      match (node? all [key]).bind fun n => scalarText? n.1 with
      | none => .error .malformed
      | some text =>
        let field := Field.ofKey? text
        if field.any seen.contains then .error .malformed
        else do
          let fields ← match field with
            | none => .ok fields
            | some field => set all rest fields field
          match skipNode rest with
          | none => .error .malformed
          | some rest => ofEntries all fuel (field.toList ++ seen) fields rest

/-- The fields of a document. Only an empty document may stand for an empty mapping. -/
def ofDocument (d : Yaml.Document) : Except FrontMatterFault FrontMatter := do
  let fields ← match d.events with
    | [] => .ok {}
    | .mappingStart _ :: rest => ofEntries d.events d.events.length [] {} rest
    | .scalar _ _ .plain [] :: _ => .ok {}
    | _ => .error .malformed
  if d.complete then .ok fields else .error .malformed

/-- The fields of a YAML text. -/
def ofText (s : List Char) : Except FrontMatterFault FrontMatter :=
  ofDocument (.ofTokens (Yaml.tokenize s))

/-- A page's front matter and its body. -/
def read (content : String) : Except FrontMatterFault (FrontMatter × String) :=
  (readWith ofText content.toList).map fun (fields, body) => (fields, String.ofList body)

end FrontMatter

end DocSite
