import DocSite.Json.Basic
import DocSite.Text.Digit

/-!
# Reading JSON text

* `stringBody` reads a string up to its closing quote.
* `number` reads a number: without a point and an exponent it is an integer.
* `value` reads one value; its bound on the depth of calls is the length of the text, which each
  call shortens. `read?` accepts a text that is one value between blanks.
-/

namespace DocSite.Json

/-- A blank of the grammar. -/
def isSpace (c : Char) : Bool :=
  c == ' ' || c == '\t' || c == '\n' || c == '\r'

/-! ### Strings -/

/-- The code unit of four hexadecimal digits. -/
def unit? (a b c d : Char) : Option Nat :=
  if [a, b, c, d].all Text.isHexDigit then some (Text.numberOf 16 [a, b, c, d]) else none

/-- The character of a letter after a backslash. -/
def unescape? (c : Char) : Option Char :=
  if c = '"' ∨ c = '\\' ∨ c = '/' then some c
  else if c = 'b' then some '\x08'
  else if c = 't' then some '\t'
  else if c = 'n' then some '\n'
  else if c = 'f' then some '\x0c'
  else if c = 'r' then some '\r'
  else none

/-- A character put in front of a body that was read. -/
def cons (c : Char) (r : Option (List Char × List Char)) : Option (List Char × List Char) :=
  r.map fun (body, rest) => (c :: body, rest)

/-- The characters of a string up to its closing quote, and the text after the quote. -/
def stringBody : List Char → Option (List Char × List Char)
  | [] => none
  | '"' :: rest => some ([], rest)
  | '\\' :: 'u' :: a :: b :: c :: d :: rest =>
    match unit? a b c d with
    | none => none
    | some u =>
      if 0xd800 ≤ u ∧ u < 0xdc00 then
        match rest with
        | '\\' :: 'u' :: a' :: b' :: c' :: d' :: rest' =>
          match unit? a' b' c' d' with
          | none => none
          | some v =>
            if 0xdc00 ≤ v ∧ v < 0xe000 then
              cons (Char.ofNat (0x10000 + 0x400 * (u - 0xd800) + (v - 0xdc00))) (stringBody rest')
            else none
        | _ => none
      else if 0xdc00 ≤ u ∧ u < 0xe000 then none
      else cons (Char.ofNat u) (stringBody rest)
  | '\\' :: e :: rest =>
    match unescape? e with
    | none => none
    | some c => cons c (stringBody rest)
  | c :: rest => if c.toNat < 32 ∨ c = '\\' then none else cons c (stringBody rest)

/-! ### Numbers -/

/-- The digits of an exponent with its mark, or nothing where none is written. -/
def exponent (s : List Char) : Option (List Char × List Char) :=
  match s with
  | e :: rest =>
    if e = 'e' ∨ e = 'E' then
      let sign := rest.takeWhile fun c => c == '+' || c == '-'
      let rest := rest.drop sign.length
      let digits := rest.takeWhile Char.isDigit
      if 1 < sign.length ∨ digits.isEmpty then none
      else some (e :: sign ++ digits, rest.drop digits.length)
    else some ([], s)
  | [] => some ([], s)

/-- The digits of a fraction with its point, or nothing where none is written. -/
def fraction (s : List Char) : Option (List Char × List Char) :=
  match s with
  | '.' :: rest =>
    let digits := rest.takeWhile Char.isDigit
    if digits.isEmpty then none else some ('.' :: digits, rest.drop digits.length)
  | _ => some ([], s)

/-- A number at the start of the text. A negative zero is no integer. -/
def number (s : List Char) : Option (Json × List Char) :=
  let (sign, unsigned) := match s with
    | '-' :: rest => (['-'], rest)
    | _ => ([], s)
  let digits := unsigned.takeWhile Char.isDigit
  if digits.isEmpty ∨ (digits.head? = some '0' ∧ 1 < digits.length) then none
  else do
    let (frac, rest) ← fraction (unsigned.drop digits.length)
    let (exp, rest) ← exponent rest
    if frac.isEmpty ∧ exp.isEmpty ∧ ¬(sign = ['-'] ∧ Text.numberOf 10 digits = 0) then
      let n : Int := Text.numberOf 10 digits
      return (integer (if sign.isEmpty then n else -n), rest)
    else
      return (decimal (String.ofList (sign ++ digits ++ frac ++ exp)), rest)

/-! ### Values -/

/-- The text after a word, if it starts with the word. -/
def word? (word s : List Char) : Option (List Char) :=
  if word.isPrefixOf s then some (s.drop word.length) else none

/-- The text after its leading blanks. -/
def skip (s : List Char) : List Char :=
  s.dropWhile isSpace

mutual

/-- One value at the start of the text, and what follows it. -/
def value : Nat → List Char → Option (Json × List Char)
  | 0, _ => none
  | fuel + 1, s =>
    match skip s with
    | '"' :: rest => (stringBody rest).map fun (body, rest) => (string (String.ofList body), rest)
    | '[' :: rest =>
      match skip rest with
      | ']' :: rest => some (array [], rest)
      | _ => (items fuel rest).map fun (items, rest) => (array items, rest)
    | '{' :: rest =>
      match skip rest with
      | '}' :: rest => some (object [], rest)
      | _ => (members fuel rest).map fun (members, rest) => (object members, rest)
    | 't' :: rest => (word? "rue".toList rest).map fun rest => (bool true, rest)
    | 'f' :: rest => (word? "alse".toList rest).map fun rest => (bool false, rest)
    | 'n' :: rest => (word? "ull".toList rest).map fun rest => (null, rest)
    | s => number s

/-- The items of an array up to its closing bracket. -/
def items : Nat → List Char → Option (List Json × List Char)
  | 0, _ => none
  | fuel + 1, s =>
    match value fuel s with
    | none => none
    | some (item, rest) =>
      match skip rest with
      | ']' :: rest => some ([item], rest)
      | ',' :: rest => (items fuel rest).map fun (more, rest) => (item :: more, rest)
      | _ => none

/-- The members of an object up to its closing brace. -/
def members : Nat → List Char → Option (List (String × Json) × List Char)
  | 0, _ => none
  | fuel + 1, s =>
    match skip s with
    | '"' :: rest =>
      match stringBody rest with
      | none => none
      | some (name, rest) =>
        match skip rest with
        | ':' :: rest =>
          match value fuel rest with
          | none => none
          | some (item, rest) =>
            let member := (String.ofList name, item)
            match skip rest with
            | '}' :: rest => some ([member], rest)
            | ',' :: rest => (members fuel rest).map fun (more, rest) => (member :: more, rest)
            | _ => none
        | _ => none
    | _ => none

end

/-- The value that a text writes, if it writes exactly one. -/
def read? (text : String) : Option Json :=
  match value (text.length + 1) text.toList with
  | some (v, rest) => if (skip rest).isEmpty then some v else none
  | none => none

end DocSite.Json
