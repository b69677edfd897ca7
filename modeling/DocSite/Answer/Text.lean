import DocSite.Listing.Basic
import DocSite.Listing.Pages
import DocSite.Listing.Tags
import DocSite.Number.Decimal
import DocSite.Related

/-!
# Answers as text

Each answer is a list of lines. Titles stand in a column of 40 characters, longer ones as they are.

* `page`, `related`, `description`, `tagIndex`, `tagged` and `latest` are the lines of the answers.
* `ofLines` is their text.
-/

namespace DocSite.Answer

/-- The text of lines, each with a line end. -/
def ofLines (lines : List String) : String :=
  String.join (lines.map (· ++ "\n"))

/-- A text with blanks after it up to a width. -/
def padRight (width : Nat) (s : String) : String :=
  s ++ String.ofList (List.replicate (width - s.length) ' ')

/-- A text with blanks before it up to a width. -/
def padLeft (width : Nat) (s : String) : String :=
  String.ofList (List.replicate (width - s.length) ' ') ++ s

/-- The column of a document's title. -/
def titleColumn (d : Document) : String :=
  padRight 40 d.title

/-- A document's title and where it is found. -/
def entry (route : String) (d : Document) : String :=
  titleColumn d ++ " " ++ d.permalink route

/-- The entries of documents. A line with the group stands where it differs from that of the
document before. -/
def groupedEntries (route : String) (group : Option String) : List Document → List String
  | [] => []
  | d :: rest =>
    let line := "  " ++ entry route d
    if group = some d.group then line :: groupedEntries route group rest
    else d.group :: line :: groupedEntries route (some d.group) rest

/-- The lines of a page of the listing. -/
def page (route : String) (p : Page) : List String :=
  groupedEntries route none p.items
    ++ ["-- page " ++ toString p.number ++ "/" ++ toString p.totalPages ++ " --"]

/-- The line of a related document with its place in the order. -/
def relatedEntry (route : String) (s : Scored) (place : Nat) : String :=
  "  " ++ toString place ++ ". " ++ titleColumn s.document ++ " "
    ++ padLeft 6 (s.score.placesText 2) ++ "  " ++ s.document.permalink route

/-- The lines of the documents related to one. -/
def related (route : String) (query : Document) (ranked : List Scored) : List String :=
  let head := "Related to " ++ query.title ++ " (" ++ query.permalink route ++ ")"
  if ranked.isEmpty then [head, "  No related content."]
  else head :: ranked.zipIdx.map fun (s, i) => relatedEntry route s (i + 1)

/-- The line of a neighbour. -/
def neighbourLine (route label : String) : Option Document → List String
  | none => []
  | some d => ["  " ++ label ++ d.title ++ " (" ++ d.permalink route ++ ")"]

/-- The line of a heading, indented by its depth. -/
def headingLine (h : Heading) : String :=
  "    " ++ String.ofList (List.replicate (2 * (h.depth - 1)) ' ') ++ "- " ++ h.text

/-- The lines that describe a document. -/
def description (route : String) (d : Document) (around : Neighbours) : List String :=
  [d.title, "  Permalink: " ++ d.permalink route, "  Category:  " ++ d.group]
    ++ (if d.tags.isEmpty then [] else ["  Tags:      " ++ ", ".intercalate d.tags])
    ++ (d.date.map fun date => "  Date:      " ++ date.text).toList
    ++ (d.description.map fun text => "  Summary:   " ++ text).toList
    ++ d.headings.map headingLine
    ++ neighbourLine route "Previous:  " around.previous
    ++ neighbourLine route "Next:      " around.next

/-- The lines of all tags. -/
def tagIndex (tags : List TagCount) : List String :=
  tags.map fun t => padLeft 4 (toString t.count) ++ "  " ++ t.tag

/-- The lines of the documents with a tag. -/
def tagged (route tag : String) (docs : List Document) : List String :=
  if docs.isEmpty then ["No documents tagged '" ++ tag ++ "'."] else docs.map (entry route)

/-- The lines of the newest documents. -/
def latest (route : String) (docs : List Document) : List String :=
  if docs.isEmpty then ["No dated documents found."]
  else docs.filterMap fun d => d.date.map fun date => date.text ++ "  " ++ entry route d

end DocSite.Answer
