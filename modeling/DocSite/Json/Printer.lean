import DocSite.Json.Basic

/-!
# JSON text of a value

* `escape` writes one character of a string: quotes, backslashes and control characters are escaped,
  all else stands for itself.
* `compact` writes a value without blanks; `pretty` puts each item and member on a line of its own,
  indented by two blanks a level.
-/

namespace DocSite.Json

/-- The lowercase hexadecimal digit of a number below 16. -/
def hexDigit (n : Nat) : Char :=
  if n < 10 then Char.ofNat (48 + n) else Char.ofNat (87 + n)

/-- One character as it is written inside a string. -/
def escape (c : Char) : List Char :=
  if c = '"' then ['\\', '"']
  else if c = '\\' then ['\\', '\\']
  else if c = '\x08' then ['\\', 'b']
  else if c = '\t' then ['\\', 't']
  else if c = '\n' then ['\\', 'n']
  else if c = '\x0c' then ['\\', 'f']
  else if c = '\r' then ['\\', 'r']
  else if c.toNat < 32 then ['\\', 'u', '0', '0', hexDigit (c.toNat / 16), hexDigit (c.toNat % 16)]
  else [c]

/-- A string between quotes. -/
def quote (s : String) : List Char :=
  '"' :: s.toList.flatMap escape ++ ['"']

/-- The decimal digits of an integer, with a sign when it is negative. -/
def integerText (n : Int) : List Char :=
  (toString n).toList

mutual

/-- The text of a value without blanks. -/
def compact : Json → List Char
  | null => "null".toList
  | bool b => (if b then "true" else "false").toList
  | integer n => integerText n
  | decimal text => text.toList
  | string s => quote s
  | array items => '[' :: compactItems items ++ [']']
  | object members => '{' :: compactMembers members ++ ['}']

/-- The items of an array, with commas between them. -/
def compactItems : List Json → List Char
  | [] => []
  | [item] => compact item
  | item :: rest => compact item ++ ',' :: compactItems rest

/-- The members of an object, with commas between them. -/
def compactMembers : List (String × Json) → List Char
  | [] => []
  | [(name, item)] => quote name ++ ':' :: compact item
  | (name, item) :: rest => quote name ++ ':' :: compact item ++ ',' :: compactMembers rest

end

/-- A new line indented by `depth` levels. -/
def newline (depth : Nat) : List Char :=
  '\n' :: List.replicate (2 * depth) ' '

mutual

/-- The text of a value at a depth, one item or member a line. -/
def prettyAt (depth : Nat) : Json → List Char
  | null => "null".toList
  | bool b => (if b then "true" else "false").toList
  | integer n => integerText n
  | decimal text => text.toList
  | string s => quote s
  | array [] => ['[', ']']
  | array (item :: rest) =>
    '[' :: newline (depth + 1) ++ prettyAt (depth + 1) item ++ prettyItems (depth + 1) rest
      ++ newline depth ++ [']']
  | object [] => ['{', '}']
  | object ((name, item) :: rest) =>
    '{' :: newline (depth + 1) ++ quote name ++ ':' :: ' ' :: prettyAt (depth + 1) item
      ++ prettyMembers (depth + 1) rest ++ newline depth ++ ['}']

/-- The items after the first one, each after a comma and on a line of its own. -/
def prettyItems (depth : Nat) : List Json → List Char
  | [] => []
  | item :: rest => ',' :: newline depth ++ prettyAt depth item ++ prettyItems depth rest

/-- The members after the first one, each after a comma and on a line of its own. -/
def prettyMembers (depth : Nat) : List (String × Json) → List Char
  | [] => []
  | (name, item) :: rest =>
    ',' :: newline depth ++ quote name ++ ':' :: ' ' :: prettyAt depth item
      ++ prettyMembers depth rest

end

/-- The text of a value, one item or member a line. -/
def pretty (v : Json) : String :=
  String.ofList (prettyAt 0 v)

/-- The text of a value on one line. -/
def text (v : Json) : String :=
  String.ofList (compact v)

end DocSite.Json
