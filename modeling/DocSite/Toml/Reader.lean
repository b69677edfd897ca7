import DocSite.Toml.Number
import DocSite.Toml.Quoted

/-!
# Reading TOML

* `key?` reads a key with its dots, `value?` a value, and `line?` one line of a document: a comment,
  a header or a key with its value.
* `read?` reads a document: the entries of its root table.
-/

namespace DocSite.Toml

/-! ### Blanks -/

/-- A blank within a line. -/
def isBlank (c : Char) : Bool :=
  c == ' ' || c == '\t'

/-- The text after blanks. -/
def skipBlanks (s : List Char) : List Char :=
  s.dropWhile isBlank

/-- The text after a line end. -/
def lineEnd? : List Char → Option (List Char)
  | '\n' :: rest => some rest
  | '\r' :: '\n' :: rest => some rest
  | _ => none

/-- The text after a comment, if one stands here: all characters but controls belong to it. -/
def skipComment : List Char → List Char
  | '#' :: rest => rest.dropWhile (!isControl ·)
  | s => s

/-- What follows the line whose rest is given: only blanks and a comment may stand there. -/
def restOfLine? (s : List Char) : Option (List Char) :=
  match skipComment (skipBlanks s) with
  | [] => some []
  | s => lineEnd? s

/-- The text after blanks, comments and line ends. -/
def skipLines : Nat → List Char → List Char
  | 0, s => s
  | fuel + 1, s =>
    match lineEnd? (skipComment (skipBlanks s)) with
    | some rest => skipLines fuel rest
    | none => skipBlanks s

/-! ### Keys -/

/-- A character of a key without quotes. -/
def isKeyChar (c : Char) : Bool :=
  c.isAlphanum || c == '-' || c == '_'

/-- One name of a key, and what follows it. -/
def simpleKey? (s : List Char) : Option (String × List Char) :=
  match readLine? s with
  | some (name, rest) => some (String.ofList name, rest)
  | none =>
    let name := s.takeWhile isKeyChar
    if name.isEmpty then none else some (String.ofList name, s.drop name.length)

/-- How many names a key may have, and how deep values may be nested. -/
def maxDepth : Nat := 79

/-- The names of a key with dots and blanks between them, at most so many, and what follows. -/
def keyNames? : Nat → List Char → Option (List String × List Char)
  | 0, _ => none
  | most + 1, s => do
    let (name, rest) ← simpleKey? (skipBlanks s)
    match skipBlanks rest with
    | '.' :: rest => do
      let (names, rest) ← keyNames? most rest
      return (name :: names, rest)
    | rest => return ([name], rest)

/-- A key: the names before the last and the last. -/
def key? (s : List Char) : Option ((List String × String) × List Char) := do
  let (names, rest) ← keyNames? maxDepth s
  return ((names.dropLast, ← names.getLast?), rest)

/-! ### Values -/

/-- The values of an array up to its bracket, given a reader of values. A comma may follow the last.
-/
def arrayItems? (readValue? : List Char → Option (Toml × List Char)) :
    Nat → List Char → Option (List Toml × List Char)
  | 0, _ => none
  | fuel + 1, s =>
    match skipLines (s.length + 1) s with
    | ']' :: rest => some ([], rest)
    | s => do
      let (v, rest) ← readValue? s
      match skipLines (rest.length + 1) rest with
      | ']' :: rest => return ([v], rest)
      | ',' :: rest => do
        let (vs, rest) ← arrayItems? readValue? fuel rest
        return (v :: vs, rest)
      | _ => none

/-- The entries of a table in braces from a key on, given those before it. -/
def inlineEntries? (readValue? : List Char → Option (Toml × List Char)) :
    Nat → Table → List Char → Option (Table × List Char)
  | 0, _, _ => none
  | fuel + 1, t, s => do
    let ((path, key), rest) ← key? s
    match rest with
    | '=' :: rest => do
      let (v, rest) ← readValue? (skipBlanks rest)
      let t ← insertValue path key v .inline t
      match skipBlanks rest with
      | '\x7d' :: rest => return (t, rest)
      | ',' :: rest => inlineEntries? readValue? fuel t rest
      | _ => none
    | _ => none

/-- A table after its opening brace. -/
def inlineTable? (readValue? : List Char → Option (Toml × List Char)) (s : List Char) :
    Option (Table × List Char) :=
  match skipBlanks s with
  | '\x7d' :: rest => some ([], rest)
  | s => inlineEntries? readValue? (s.length + 1) [] s

/-- A value in which others are nested at most so deep, and what follows it. -/
def value? : Nat → List Char → Option (Toml × List Char)
  | depth, s =>
    match s with
    | [] => none
    | c :: rest =>
      if c = '"' ∨ c = '\'' then
        (read? s).map fun (text, rest) => (.string (String.ofList text), rest)
      else if c = '[' then
        match depth with
        | 0 => none
        | depth + 1 =>
          (arrayItems? (value? depth) (rest.length + 1) rest).map fun (vs, rest) =>
            (.array vs, rest)
      else if c = '\x7b' then
        match depth with
        | 0 => none
        | depth + 1 =>
          (inlineTable? (value? depth) rest).map fun (t, rest) => (.table .inline t, rest)
      else
        ((word? "true" s).map (.boolean true, ·))
          <|> ((word? "false" s).map (.boolean false, ·))
          <|> number? s

/-! ### Documents -/

/-- The root table of a document, and the header above the current line. -/
structure Reading where
  root : Table := []
  header : List String := []

/-- Reads a header after its bracket. -/
def headerLine? (r : Reading) (several : Bool) (s : List Char) :
    Option (Reading × List Char) := do
  let ((path, key), rest) ← key? s
  let root ← if several then appendTable path key r.root else openTable path key r.root
  let rest ← word? (if several then "]]" else "]") rest
  return (⟨root, path ++ [key]⟩, ← restOfLine? rest)

/-- Reads a key and its value. -/
def entryLine? (r : Reading) (s : List Char) : Option (Reading × List Char) := do
  let ((path, key), rest) ← key? s
  match rest with
  | '=' :: rest => do
    let (v, rest) ← value? maxDepth (skipBlanks rest)
    let rest ← restOfLine? rest
    let root ← updateAt false (fun kind t => insertValue path key v kind t) r.header .header r.root
    return ({ r with root }, rest)
  | _ => none

/-- Reads a line that is not blank. -/
def line? (r : Reading) : List Char → Option (Reading × List Char)
  | '[' :: '[' :: rest => headerLine? r true rest
  | '[' :: rest => headerLine? r false rest
  | s => entryLine? r s

/-- Reads lines up to the end of the text. -/
def lines? : Nat → Reading → List Char → Option Reading
  | 0, _, _ => none
  | fuel + 1, r, s =>
    match skipComment (skipBlanks s) with
    | [] => some r
    | rest =>
      match lineEnd? rest with
      | some rest => lines? fuel r rest
      | none =>
        match line? r (skipBlanks s) with
        | some (r, rest) => lines? fuel r rest
        | none => none

/-- The text without a byte order mark at its start. -/
def dropMark : List Char → List Char
  | '\ufeff' :: rest => rest
  | s => s

/-- The root table of a document. -/
def readDocument? (s : String) : Option Table :=
  let s := dropMark s.toList
  (lines? (s.length + 1) {} s).map (·.root)

end DocSite.Toml
