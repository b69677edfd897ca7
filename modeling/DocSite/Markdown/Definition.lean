import DocSite.Markdown.Block

/-!
# Link definitions

* `definition?` recognises the definition of a link: a label, a colon, an address, and a title if
  one follows. It may go over line ends as a paragraph may. A title has to end its line; where it
  does not, the definition ends before the title, if that starts a line of its own.
-/

namespace DocSite.Markdown

open Source

/-- The position where a definition goes on after a line end, unless the next line starts another
block. -/
def nextLineOf? (s : Source) (path : List Container) (underlined : Bool → Bool) (i : Nat) :
    Option Nat :=
  let (inside, c) := margin s path i
  let (deep, c) := c.takeAll s 4
  if deep then some c.pos
  else if interrupts s path inside c.pos || (underlined inside && (underline? s c.pos).isSome) then
    none
  else some c.pos

/-- The position after blanks with at most one line end, and whether there is a line end. -/
def definitionSpace? (s : Source) (path : List Container) (i : Nat) : Option (Nat × Bool) :=
  let j := s.skipBlanks i
  match s.lineEnd? j with
  | none => some (j, false)
  | some next =>
    match nextLineOf? s path (fun _ => true) next with
    | none => none
    | some k =>
      let k := s.skipBlanks k
      if (s.lineEnd? k).isSome then none else some (k, true)

/-- The position after a title's closing mark, its opening mark being taken. -/
def definitionTitle (s : Source) (path : List Container) (closing : Char) : Nat → Nat → Option Nat
  | 0, _ => none
  | fuel + 1, i =>
    match s[i]? with
    | none => none
    | some c =>
      if c = closing then some (i + 1)
      else if c = '\\' then definitionTitle s path closing fuel (i + 2)
      else match s.lineEnd? i with
        | none => definitionTitle s path closing fuel (i + 1)
        | some next =>
          match nextLineOf? s path (fun _ => true) next with
          | none => none
          | some k => definitionTitle s path closing fuel (s.skipBlanks k)

/-- The position after the title at `i` and the blank rest of its line. -/
def definitionEnd? (s : Source) (path : List Container) (i : Nat) : Option Nat := do
  let opening ← s[i]?
  let j ← definitionTitle s path (← Link.closing? opening) (s.size + 1) (i + 1)
  s.blankLine? j

/-- The position after a definition at `i`, and its label. -/
def definition? (s : Source) (path : List Container) (i : Nat) : Option (Nat × Link.Label) := do
  if !s.has i '[' then none
  let (j, label) ← Link.label? s false (nextLineOf? s path id) (i + 1)
  if !s.has j ':' then none
  let (start, _) ← definitionSpace? s path (j + 1)
  let stop ← Link.destination? s start
  if stop = start then none
  match definitionSpace? s path stop with
  | none => some (stop, label)
  | some (k, broken) =>
    if k = stop ∧ !broken then none
    else match definitionEnd? s path k with
      | some j => some (j, label)
      | none => if broken then some (stop, label) else none

end DocSite.Markdown
