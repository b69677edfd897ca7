import DocSite.Markdown.Scan

/-!
# HTML in markdown

* `blockEnd?` finds the words that close an HTML block of its own kind: comments, processing
  instructions, declarations, and the elements whose content is not text.
* `startsBlock` recognises the tags of block elements; `wholeLineTag` a line that is one tag.
* `tag?` recognises a tag. It may go over line ends where a function tells how to skip the margin of
  the next line.
* `inline?` recognises a tag, comment, instruction, declaration or character data section within a
  text.
-/

namespace DocSite.Markdown.Html

open Source

/-! ### Tags -/

/-- What a tag may do at the end of a line: nothing, or go on after the next line's margin. -/
abbrev LineStep := Option (Nat → Nat)

/-- The position after blanks, and after line ends where these are allowed. -/
def skipSpace (s : Source) (step : LineStep) : Nat → Nat → Option Nat
  | 0, _ => none
  | fuel + 1, i =>
    let i := s.skipBlanks i
    if i < s.size then
      match s.lineEnd? i, step with
      | none, _ => some i
      | some _, none => none
      | some j, some skip => skipSpace s step fuel (skip j)
    else some i

/-- A character of an attribute value without quotes. -/
def isBareValueChar (c : Char) : Bool :=
  !(c == '\'' || c == '"' || c == ' ' || c == '=' || c == '>' || c == '<' || c == '\x60'
    || c == '\n' || c == '\r')

/-- The position after a quoted value whose opening quote was taken. -/
def quotedValue (s : Source) (step : LineStep) (quote : Char) : Nat → Nat → Option Nat
  | 0, _ => none
  | fuel + 1, i =>
    match s[i]? with
    | none => none
    | some c =>
      if c = quote then some (i + 1)
      else
        match s.lineEnd? i, step with
        | none, _ => quotedValue s step quote fuel (i + 1)
        | some _, none => none
        | some j, some skip => quotedValue s step quote fuel (skip j)

/-- The position after an attribute's value. -/
def attributeValue (s : Source) (step : LineStep) (i : Nat) : Option Nat :=
  match s[i]? with
  | none => none
  | some c =>
    if c = '"' ∨ c = '\'' then quotedValue s step c (s.size + 1) (i + 1)
    else if isBareValueChar c then some (s.skipWhile isBareValueChar i)
    else none

/-- A character that starts an attribute's name. -/
def isNameStart (c : Char) : Bool :=
  isLetter c || c == '_' || c == ':'

/-- A character of an attribute's name. -/
def isNameChar (c : Char) : Bool :=
  isLetterOrDigit c || c == '_' || c == '.' || c == ':' || c == '-'

/-- The position after an attribute: a name, and a value after an equals sign if there is one. -/
def attr (s : Source) (step : LineStep) (i : Nat) : Option Nat := do
  if !s.test i isNameStart then none
  let name := s.skipWhile isNameChar (i + 1)
  let equals ← skipSpace s step (s.size + 1) name
  if s.has equals '=' then
    attributeValue s step (← skipSpace s step (s.size + 1) (equals + 1))
  else some name

/-- The position of the slash or angle bracket after the attributes of a tag. Each attribute has to
follow a blank. -/
def attributes (s : Source) (step : LineStep) : Nat → Nat → Option Nat
  | 0, _ => none
  | fuel + 1, i => do
    let j ← skipSpace s step (s.size + 1) i
    if j ≥ s.size then none
    else if s.has j '/' || s.has j '>' then some j
    else if i = j then none
    else attributes s step fuel (← attr s step j)

/-- The position after a tag that starts at `i` with an angle bracket. -/
def tag? (s : Source) (step : LineStep) (i : Nat) : Option Nat := do
  let closing := s.has (i + 1) '/'
  let name := if closing then i + 2 else i + 1
  if !s.test name isLetter then none
  let rest := s.skipWhile (fun c => isLetterOrDigit c || c == '-') name
  let close ←
    if closing then some (s.skipBlanks rest)
    else (attributes s step (s.size + 1) rest).map (s.skipOne '/' ·)
  if s.has close '>' then some (close + 1) else none

/-! ### Blocks -/

/-- Elements whose content is not text. -/
def rawElements : List String :=
  ["pre", "style", "script", "textarea"]

/-- Whether a word stands at a position in upper or lower case. -/
def hasName (s : Source) (i : Nat) (name : List Char) : Bool :=
  (s.slice i (i + name.length)).map Char.toLower == name

/-- The words that end the block which starts after the angle bracket before `i`. -/
def blockEnd? (s : Source) (i : Nat) : Option (List Char) :=
  let raw := rawElements.find? fun name =>
    let after := i + name.length
    hasName s i name.toList && (after == s.size || s.test after fun c => isAsciiBlank c || c == '>')
  match raw with
  | some name => some ("</".toList ++ name.toList ++ ['>'])
  | none =>
    if s.hasWord i "!--".toList then some "-->".toList
    else if s.hasWord i ['?'] then some "?>".toList
    else if s.hasWord i "![CDATA[".toList then some "]]>".toList
    else if s.has i '!' && s.test (i + 1) isLetter then some ['>']
    else none

/-- Elements that start a block. -/
def blockElements : List String :=
  ["address", "article", "aside", "base", "basefont", "blockquote", "body", "caption", "center",
   "col", "colgroup", "dd", "details", "dialog", "dir", "div", "dl", "dt", "fieldset", "figcaption",
   "figure", "footer", "form", "frame", "frameset", "h1", "h2", "h3", "h4", "h5", "h6", "head",
   "header", "hr", "html", "iframe", "legend", "li", "link", "main", "menu", "menuitem", "nav",
   "noframes", "ol", "optgroup", "option", "p", "param", "search", "section", "summary", "table",
   "tbody", "td", "tfoot", "th", "thead", "title", "tr", "track", "ul"]

/-- Whether the tag of a block element starts after the angle bracket before `i`. -/
def startsBlock (s : Source) (i : Nat) : Bool :=
  let i := s.skipOne '/' i
  let j := s.skipWhile isLetterOrDigit i
  let name := (s.slice i j).map Char.toLower
  blockElements.any (·.toList == name)
    && (j == s.size || s.test j (fun c => isAsciiBlank c || c == '>')
      || (s.has j '/' && s.has (j + 1) '>'))

/-- Whether the rest of the line from `i` on is one tag. -/
def wholeLineTag (s : Source) (i : Nat) : Bool :=
  ((tag? s none i).bind s.blankLine?).isSome

/-! ### Within a text -/

/-- The position after a comment, section or declaration whose `<!` ends before `i`. -/
def markup? (s : Source) (i : Nat) : Option Nat :=
  match s[i]? with
  | none => none
  | some c =>
    if c = '-' then
      if s.has (i + 1) '-' then (s.find? "-->".toList i).map (· + 3) else none
    else if c = '[' then
      if s.hasWord (i + 1) "CDATA[".toList then
        let close := s.skipWhile (· != ']') (i + 7)
        let after := s.skipRun ']' close
        if close < after ∧ s.has after '>' then some (after + 1) else none
      else none
    else if isLetter c then
      let close := s.skipWhile (· != '>') (i + 1)
      if s.has close '>' then some (close + 1) else none
    else none

/-- The position after the HTML whose opening angle bracket stands before `i`. -/
def inline? (s : Source) (skip : Nat → Nat) (i : Nat) : Option Nat :=
  match s[i]? with
  | none => none
  | some c =>
    if c = '!' then markup? s (i + 1)
    else if c = '?' then (s.find? "?>".toList (i + 1)).map (· + 2)
    else tag? s (some skip) (i - 1)

end DocSite.Markdown.Html
