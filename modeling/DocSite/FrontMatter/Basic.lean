import DocSite.Date.Basic
import DocSite.Error
import DocSite.Text.Blank

/-!
# Front matter

The front matter of a page is the block between two delimiter lines at its start. A delimiter line
is three dashes with nothing but spaces, tabs and one carriage return after them.

* `split` cuts a page into its front matter and its body.
* `FrontMatter` holds the fields that a page may set; `readWith` reads a page, given a reader of the
  fields.
-/

namespace DocSite

/-- The fields that a page may set in its front matter. -/
structure FrontMatter where
  title : Option String := none
  description : Option String := none
  slug : Option String := none
  category : Option String := none
  tags : Option (List String) := none
  draft : Option Bool := none
  date : Option Date := none
deriving DecidableEq, Repr

namespace FrontMatter

/-! ### Lines -/

/-- A line that starts or ends the front matter, given without its line feed. -/
def isDelimiter : List Char → Bool
  | '-' :: '-' :: '-' :: rest =>
    let rest := rest.dropWhile fun c => c == ' ' || c == '\t'
    rest == [] || rest == ['\r']
  | _ => false

/-- The first line of a text without its line feed, and what follows the line feed, if there is one.
-/
def cutLine : List Char → List Char × Option (List Char)
  | [] => ([], none)
  | c :: rest =>
    if c = '\n' then ([], some rest)
    else
      let (line, more) := cutLine rest
      (c :: line, more)

theorem length_cutLine {s rest : List Char} (h : (cutLine s).2 = some rest) :
    rest.length < s.length := by
  induction s with
  | nil => simp [cutLine] at h
  | cons c s ih =>
    by_cases hc : c = '\n'
    · simp only [cutLine, hc, if_true, Option.some.injEq] at h
      simp [← h]
    · simp only [cutLine, hc, if_false] at h
      exact Nat.lt_succ_of_lt (ih h)

/-- The lines before the first delimiter line, and what follows that line. -/
def untilDelimiter (s : List Char) : Option (List Char × List Char) :=
  match h : cutLine s with
  | (line, rest) =>
    if isDelimiter line then some ([], rest.getD [])
    else match rest with
      | none => none
      | some rest =>
        have : rest.length < s.length := length_cutLine (by rw [h])
        (untilDelimiter rest).map fun (block, body) => (line ++ '\n' :: block, body)
termination_by s.length

/-- The front matter and the body of a page, if the page starts with front matter. -/
def split (s : List Char) : Option (List Char × List Char) :=
  match cutLine s with
  | (line, some rest) => if isDelimiter line then untilDelimiter rest else none
  | (_, none) => none

/-- The text without a byte order mark at its start. -/
def dropMark : List Char → List Char
  | [] => []
  | c :: rest => if c = '\ufeff' then rest else c :: rest

/-- A page's front matter and its body. A page without front matter has no fields, and neither has
one whose front matter is blank; else `read` reads the fields. -/
def readWith (read : List Char → Except FrontMatterFault FrontMatter) (content : List Char) :
    Except FrontMatterFault (FrontMatter × List Char) :=
  let content := dropMark content
  match split content with
  | none => .ok ({}, content)
  | some (block, body) =>
    if block.all Text.isBlank then .ok ({}, body)
    else (read block).map fun fields => (fields, body)

end FrontMatter

end DocSite
