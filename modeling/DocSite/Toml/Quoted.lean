import DocSite.Text.Digit

/-!
# TOML strings

A string is written in one of four forms: with single or double quotes, in which all or only some
characters stand for themselves, and on one or on several lines.

* `StringForm.best` is the form in which a text is written: the first that needs no escapes.
* `written` writes a text in its best form, and `read?` reads a string of any form.
-/

namespace DocSite.Toml

/-- A control character that no string holds as it is. -/
def isControl (c : Char) : Bool :=
  (c.toNat < 0x20 && c != '\t') || c.toNat == 0x7f

/-- How a string is written. -/
structure StringForm where
  /-- Whether the quotes are single, and nothing is escaped. -/
  literal : Bool
  /-- Whether there are three quotes on either side. -/
  multiline : Bool
deriving DecidableEq, Repr

namespace StringForm

/-- The quote of a form. -/
def quote (f : StringForm) : Char :=
  if f.literal then '\'' else '"'

/-- The quotes on either side. -/
def quotes (f : StringForm) : List Char :=
  List.replicate (if f.multiline then 3 else 1) f.quote

end StringForm

/-! ### Writing -/

/-- The length of the longest run of a character, `run` being the length of the run before the text
and `longest` that of the longest one so far. -/
def longestRun (q : Char) (run longest : Nat) : List Char → Nat
  | [] => longest
  | c :: rest =>
    if c = q then longestRun q (run + 1) (max longest (run + 1)) rest
    else longestRun q 0 longest rest

/-- The form in which a text is written. A text with control characters needs escapes; others are
written with as few quotes as possible, and double ones are preferred. -/
def StringForm.best (s : List Char) : StringForm :=
  let singles := longestRun '\'' 0 0 s
  let doubles := longestRun '"' 0 0 s
  let lines := s.contains '\n'
  let slashes := s.contains '\\'
  if s.any fun c => isControl c && c != '\n' then ⟨false, lines⟩
  else if doubles = 0 ∧ !slashes ∧ !lines then ⟨false, false⟩
  else if singles = 0 ∧ !lines then ⟨true, false⟩
  else if doubles ≤ 2 ∧ !slashes then ⟨false, true⟩
  else if singles ≤ 2 then ⟨true, true⟩
  else ⟨false, lines⟩

/-- Four hexadecimal digits of a number. -/
def fourDigits (n : Nat) : List Char :=
  let digits := (Nat.toDigits 16 n).map Char.toUpper
  List.replicate (4 - digits.length) '0' ++ digits

/-- A character between double quotes, other than a quote. -/
def escape (multiline : Bool) (c : Char) : List Char :=
  if c = '\x08' then ['\\', 'b']
  else if c = '\t' then ['\\', 't']
  else if c = '\n' then (if multiline then ['\n'] else ['\\', 'n'])
  else if c = '\x0c' then ['\\', 'f']
  else if c = '\r' then ['\\', 'r']
  else if c = '\\' then ['\\', '\\']
  else if isControl c then '\\' :: 'u' :: fourDigits c.toNat
  else [c]

/-- A text between double quotes, `run` quotes standing before it. On several lines two quotes may
follow each other as they are; all others are escaped. -/
def escaped (multiline : Bool) (run : Nat) : List Char → List Char
  | [] => []
  | c :: rest =>
    if c = '"' then
      if multiline && run < 2 then c :: escaped multiline (run + 1) rest
      else '\\' :: '"' :: escaped multiline 0 rest
    else escape multiline c ++ escaped multiline 0 rest

/-- A text in its best form. One of several lines starts on a line of its own. -/
def written (s : List Char) : List Char :=
  let f := StringForm.best s
  let start := if f.multiline && s.contains '\n' then ['\n'] else []
  let body := if f.literal then s else escaped f.multiline 0 s
  f.quotes ++ start ++ body ++ f.quotes

/-! ### Reading -/

/-- The character of the hexadecimal digits at the start of a text, `n` of them, and what follows.
-/
def numbered? (n : Nat) (s : List Char) : Option (Char × List Char) :=
  let digits := s.take n
  let code := Text.numberOf 16 digits
  if digits.length = n ∧ digits.all Text.isHexDigit ∧ code.isValidChar then
    some (Char.ofNat code, s.drop n)
  else none

/-- The character of an escape after its backslash, and what follows. -/
def unescape? : List Char → Option (Char × List Char)
  | [] => none
  | c :: rest =>
    if c = 'u' then numbered? 4 rest
    else if c = 'U' then numbered? 8 rest
    else ([('b', '\x08'), ('t', '\t'), ('n', '\n'), ('f', '\x0c'), ('r', '\r'), ('"', '"'),
      ('\\', '\\')].lookup c).map (·, rest)

theorem length_numbered? {n : Nat} {s rest : List Char} {c : Char}
    (h : numbered? n s = some (c, rest)) : rest.length ≤ s.length := by
  simp only [numbered?] at h
  split at h
  · obtain ⟨-, rfl⟩ := Prod.mk.inj (Option.some.inj h)
    rw [List.length_drop]
    omega
  · contradiction

theorem length_unescape? {s rest : List Char} {c : Char} (h : unescape? s = some (c, rest)) :
    rest.length < s.length := by
  cases s with
  | nil => exact absurd h (by simp [unescape?])
  | cons d s =>
    rw [List.length_cons, Nat.lt_succ_iff]
    simp only [unescape?] at h
    split at h
    · exact length_numbered? h
    · split at h
      · exact length_numbered? h
      · obtain ⟨_, -, h⟩ := Option.map_eq_some_iff.1 h
        obtain ⟨-, rfl⟩ := Prod.mk.inj h
        exact Nat.le_refl _

/-- A string on one line up to its closing quote, and what follows the quote. -/
def basicBody? (s : List Char) : Option (List Char × List Char) :=
  match s with
  | [] => none
  | c :: rest =>
    if c = '"' then some ([], rest)
    else if c = '\\' then
      match h : unescape? rest with
      | none => none
      | some (e, after) =>
        have : after.length < rest.length := length_unescape? h
        (basicBody? after).map fun (body, rest) => (e :: body, rest)
    else if isControl c then none
    else (basicBody? rest).map fun (body, rest) => (c :: body, rest)
termination_by s.length

/-- A literal string up to its closing quote, and what follows the quote. -/
def literalBody? : List Char → Option (List Char × List Char)
  | [] => none
  | c :: rest =>
    if c = '\'' then some ([], rest)
    else if isControl c then none
    else (literalBody? rest).map fun (body, rest) => (c :: body, rest)

/-- The text after the quotes that close a string of several lines, given what follows the third of
them: up to two quotes before them belong to the string. -/
def closing (q : Char) : List Char → List Char × List Char
  | [] => ([], [])
  | c :: rest =>
    if c ≠ q then ([], c :: rest)
    else match rest with
      | [] => ([q], [])
      | d :: rest => if d = q then ([q, q], rest) else ([q], d :: rest)

/-- The text after blanks and line ends. -/
def skipSpace : List Char → List Char
  | [] => []
  | '\r' :: '\n' :: rest => skipSpace rest
  | c :: rest => if c = ' ' ∨ c = '\t' ∨ c = '\n' then skipSpace rest else c :: rest

theorem length_skipSpace (s : List Char) : (skipSpace s).length ≤ s.length := by
  fun_induction skipSpace s <;> simp_all <;> omega

/-- Whether nothing but blanks stands before the end of the line. -/
def blankLine : List Char → Bool
  | [] => false
  | '\r' :: '\n' :: _ => true
  | c :: rest => c == '\n' || ((c == ' ' || c == '\t') && blankLine rest)

/-- A string on several lines up to its closing quotes, and what follows them. A backslash at the
end of a line takes away all blanks and line ends after it. -/
def multilineBasicBody? (s : List Char) : Option (List Char × List Char) :=
  match s with
  | [] => none
  | '"' :: '"' :: '"' :: rest => some (closing '"' rest)
  | '\r' :: '\n' :: rest => (multilineBasicBody? rest).map fun (body, rest) => ('\n' :: body, rest)
  | '\\' :: rest =>
    if blankLine rest then
      have := length_skipSpace rest
      multilineBasicBody? (skipSpace rest)
    else match h : unescape? rest with
      | none => none
      | some (e, after) =>
        have : after.length < rest.length := length_unescape? h
        (multilineBasicBody? after).map fun (body, rest) => (e :: body, rest)
  | c :: rest =>
    if isControl c && c != '\n' then none
    else (multilineBasicBody? rest).map fun (body, rest) => (c :: body, rest)
termination_by s.length

/-- A literal string on several lines up to its closing quotes, and what follows them. -/
def multilineLiteralBody? : List Char → Option (List Char × List Char)
  | [] => none
  | '\'' :: '\'' :: '\'' :: rest => some (closing '\'' rest)
  | '\r' :: '\n' :: rest =>
    (multilineLiteralBody? rest).map fun (body, rest) => ('\n' :: body, rest)
  | c :: rest =>
    if isControl c && c != '\n' then none
    else (multilineLiteralBody? rest).map fun (body, rest) => (c :: body, rest)

/-- The text without a line end at its start. -/
def dropLine : List Char → List Char
  | '\n' :: rest => rest
  | '\r' :: '\n' :: rest => rest
  | s => s

/-- A string on one line, and what follows it. -/
def readLine? : List Char → Option (List Char × List Char)
  | '"' :: rest => basicBody? rest
  | '\'' :: rest => literalBody? rest
  | _ => none

/-- A string of any form, and what follows it. -/
def read? : List Char → Option (List Char × List Char)
  | '"' :: '"' :: '"' :: rest => multilineBasicBody? (dropLine rest)
  | '\'' :: '\'' :: '\'' :: rest => multilineLiteralBody? (dropLine rest)
  | s => readLine? s

end DocSite.Toml
