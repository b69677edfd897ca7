import DocSite.Text.Unprintable

/-!
# Quoted text

* `quote` writes a text between double quotes, so that it stays on one line and every character can
  be seen. It is how messages show a path.
-/

namespace DocSite.Text

/-- A character within double quotes. What is not printable is written by its number in hexadecimal.
-/
def quoteChar (c : Char) : List Char :=
  if c = '"' ∨ c = '\\' then ['\\', c]
  else if c = '\t' then ['\\', 't']
  else if c = '\n' then ['\\', 'n']
  else if c = '\r' then ['\\', 'r']
  else if c = '\x00' then ['\\', '0']
  else if isUnprintable c then '\\' :: 'u' :: '\x7b' :: Nat.toDigits 16 c.toNat ++ ['\x7d']
  else [c]

/-- A text between double quotes. -/
def quote (s : String) : String :=
  String.ofList ('"' :: s.toList.flatMap quoteChar ++ ['"'])

end DocSite.Text
