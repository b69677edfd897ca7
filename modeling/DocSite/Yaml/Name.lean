import DocSite.Text.Digit
import DocSite.Yaml.Cursor
import DocSite.Yaml.Token

/-!
# Names in YAML

Names follow an indicator: anchors and aliases after an ampersand or a star, tags after an
exclamation mark, directives after a percent sign.

* Every reader answers the name and the place after it, and nothing where the text has no such name.
-/

namespace DocSite.Yaml

/-! ### Anchors -/

/-- The name of an anchor or an alias whose indicator stands here. -/
def anchorName? (c : Cursor) : Option (List Char × Cursor) :=
  let c := c.skip 1
  let name := c.takeWhile isNameChar
  let c := c.skip name.length
  if name.isEmpty then none
  else if c.wordEnds 0 || c.test 0 "?:,]\x7d%@`".toList.contains then some (name, c) else none

/-! ### Tags -/

/-- A character of a tag's address. Brackets and commas belong to it only where it is delimited. -/
def isAddressChar (delimited : Bool) (c : Char) : Bool :=
  isNameChar c || ";/?:@&=+$.%!~*'()".toList.contains c
    || (delimited && (c == ',' || c == '[' || c == ']'))

/-- How many octets a character has whose first octet is given. -/
def octetCount? (n : Nat) : Option Nat :=
  if n < 0x80 then some 1
  else if 0xc0 ≤ n ∧ n < 0xe0 then some 2
  else if 0xe0 ≤ n ∧ n < 0xf0 then some 3
  else if 0xf0 ≤ n ∧ n < 0xf8 then some 4
  else none

/-- The octet of two hexadecimal digits after a percent sign. -/
def octet? : List Char → Option (Nat × List Char)
  | '%' :: a :: b :: rest =>
    if Text.isHexDigit a && Text.isHexDigit b then some (Text.numberOf 16 [a, b], rest) else none
  | _ => none

/-- So many octets that continue a character. -/
def trailingOctets? : Nat → List Char → Option (List Char × List Char)
  | 0, s => some ([], s)
  | n + 1, s => do
    let (o, s) ← octet? s
    if 0x80 ≤ o ∧ o < 0xc0 then
      let (os, s) ← trailingOctets? n s
      return (Char.ofNat o :: os, s)
    else none

/-- The octets of one escaped character. Each of them is kept as the character of its number. -/
def escapedOctets? (s : List Char) : Option (List Char × List Char) := do
  let (o, s) ← octet? s
  let (os, s) ← trailingOctets? ((← octetCount? o) - 1) s
  return (Char.ofNat o :: os, s)

/-- The characters of an address at the start of a text, and what follows them. -/
def addressChars? (delimited : Bool) : Nat → List Char → Option (List Char × List Char)
  | 0, s => some ([], s)
  | fuel + 1, s =>
    match s with
    | [] => some ([], [])
    | d :: rest =>
      if !isAddressChar delimited d then some ([], s)
      else do
        let (ds, rest) ← if d = '%' then escapedOctets? s else some ([d], rest)
        let (more, rest) ← addressChars? delimited fuel rest
        return (ds ++ more, rest)

/-- The address that starts here. -/
def address? (c : Cursor) (delimited : Bool) : Option (List Char × Cursor) := do
  let (text, rest) ← addressChars? delimited c.rest.length c.rest
  return (text, c.skip (c.rest.length - rest.length))

/-- The handle at an exclamation mark: the mark, a name and, if it stands there, a second mark. -/
def tagHandle (c : Cursor) : List Char × Cursor :=
  let name := (c.skip 1).takeWhile isNameChar
  let c := c.skip (name.length + 1)
  if c.has 0 '!' then ('!' :: name ++ ['!'], c.skip 1) else ('!' :: name, c)

/-- The tag whose exclamation mark stands here. In a flow collection a comma may follow it. -/
def tag? (c : Cursor) (inFlow : Bool) : Option (Tag × Cursor) := do
  let (tag, c) ←
    if c.has 1 '<' then do
      let (suffix, c) ← address? (c.skip 2) true
      if suffix.isEmpty || !c.has 0 '>' then none else some (Tag.mk [] suffix, c.skip 1)
    else do
      let (handle, after) := tagHandle c
      if 1 < handle.length && handle.getLast? == some '!' then
        let (suffix, c) ← address? after false
        if suffix.isEmpty then none else some (Tag.mk handle suffix, c)
      else
        let (more, c) ← address? after false
        let suffix := handle.tail ++ more
        some (if suffix.isEmpty then Tag.mk [] ['!'] else Tag.mk ['!'] suffix, c)
  if (inFlow && c.has 0 ',') || c.wordEnds 0 then some (tag, c) else none

/-! ### Directives -/

/-- A number of a version: at most nine digits. -/
def versionNumber? (c : Cursor) : Option (Nat × Cursor) :=
  let digits := c.takeWhile Char.isDigit
  if digits.isEmpty ∨ 9 < digits.length then none
  else some (Text.numberOf 10 digits, c.skip digits.length)

/-- The version that a directive names. -/
def versionDirective? (c : Cursor) : Option (Token × Cursor) := do
  let (major, c) ← versionNumber? c.skipBlanks
  if c.has 0 '.' then
    let (minor, c) ← versionNumber? (c.skip 1)
    return (.versionDirective major minor, c)
  else none

/-- The handle that a directive expands, and its expansion. -/
def tagDirective? (c : Cursor) : Option (Token × Cursor) := do
  let c := c.skipBlanks
  if !c.has 0 '!' then none
  else
    let (handle, c) := tagHandle c
    if handle.getLast? != some '!' || !c.test 0 isBlank then none
    else
      let (expansion, c) ← address? c.skipBlanks true
      if expansion.isEmpty || !c.wordEnds 0 then none
      else return (.tagDirective handle expansion, c)

/-- The directive whose percent sign stands here, with the place after its line. -/
def directive? (c : Cursor) : Option (Token × Cursor) := do
  let name := (c.skip 1).takeWhile isNameChar
  let c := c.skip (name.length + 1)
  if !c.wordEnds 0 then none
  else
    let (token, c) ←
      if name = "YAML".toList then versionDirective? c
      else if name = "TAG".toList then tagDirective? c
      else none
    return (token, ← c.skipRest?)

end DocSite.Yaml
