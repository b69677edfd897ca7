import DocSite.Proofs.Listing.Groups

/-!
# What is printed as text

The lines of an answer are described apart from how they are made.

* `IsEntry` and `IsRelatedEntry` say what the line of a document holds: its title in a column of 40
  characters, and its address.
* `WritesPage`: a text has the documents of a page, each on a line of its own below the name of its
  group, and a last line with the number of the page. So has the answer (`writesPage_ofLines`).
* `WritesRelated`: a text has a first line for a document and a numbered line for each document that
  is related to it. So has the answer (`writesRelated_ofLines`).
-/

namespace DocSite.Answer

/-! ### Lines -/

/-- A text consists of lines, each with a line end. -/
def WritesLines (lines : List String) (text : String) : Prop :=
  text.toList = lines.flatMap fun line => line.toList ++ ['\n']

theorem writesLines_ofLines (lines : List String) : WritesLines lines (ofLines lines) := by
  rw [WritesLines, ofLines, String.toList_join, List.flatMap_map]
  refine List.flatMap_congr fun line _ => ?_
  rw [String.toList_append]
  rfl

/-- The blanks that fill a column. -/
def blanks (n : ℕ) : String :=
  String.ofList (List.replicate n ' ')

theorem padRight_eq (width : ℕ) (s : String) :
    padRight width s = s ++ blanks (width - s.length) :=
  rfl

theorem padLeft_eq (width : ℕ) (s : String) :
    padLeft width s = blanks (width - s.length) ++ s :=
  rfl

/-! ### Pages -/

/-- The line of a document below its group: its title, which blanks fill up to 40 characters, and
its address. -/
def IsEntry (route : String) (d : Document) (line : String) : Prop :=
  ∃ n, d.title.length + n = max 40 d.title.length ∧
    line = "  " ++ d.title ++ blanks n ++ " " ++ d.permalink route

/-- The lines of a stretch of documents: the name of their group, and a line for each document. -/
def IsBlock (route : String) (run : GroupRun) (lines : List String) : Prop :=
  ∃ entries, lines = run.group :: entries ∧ List.Forall₂ (IsEntry route) run.documents entries

/-- A text has the documents of a page, each on a line of its own below the name of its group, and a
last line with the number of the page. -/
def WritesPage (route : String) (p : Page) (text : String) : Prop :=
  ∃ runs blocks, GroupRun.Cut p.items runs ∧ List.Forall₂ (IsBlock route) runs blocks ∧
    WritesLines (blocks.flatten ++
      ["-- page " ++ toString p.number ++ "/" ++ toString p.totalPages ++ " --"]) text

theorem isEntry_entryLine (route : String) (d : Document) :
    IsEntry route d (entryLine route d) := by
  refine ⟨40 - d.title.length, by omega, ?_⟩
  rw [entryLine, entry, titleColumn, padRight_eq]
  simp only [String.append_assoc]

theorem isBlock_runLines (route : String) (run : GroupRun) :
    IsBlock route run (runLines route run) := by
  refine ⟨run.documents.map (entryLine route), rfl, ?_⟩
  rw [List.forall₂_map_right_iff, List.forall₂_same]
  exact fun d _ => isEntry_entryLine route d

/-- The text of a page has its documents. -/
theorem writesPage_ofLines (route : String) (p : Page) :
    WritesPage route p (ofLines (page route p)) := by
  refine ⟨GroupRun.ofDocuments p.items, (GroupRun.ofDocuments p.items).map (runLines route),
    GroupRun.cut_ofDocuments p.items, ?_, ?_⟩
  · rw [List.forall₂_map_right_iff, List.forall₂_same]
    exact fun run _ => isBlock_runLines route run
  · rw [← List.flatMap_def, ← page_eq_flatMap_lines]
    exact writesLines_ofLines _

/-! ### Related documents -/

/-- The line of a related document: its place in the order, its title, which blanks fill up to 40
characters, its score with two digits after the point, which blanks fill up to 6 characters, and its
address. -/
def IsRelatedEntry (route : String) (place : ℕ) (s : Scored) (line : String) : Prop :=
  ∃ n m, s.document.title.length + n = max 40 s.document.title.length ∧
    m + (s.score.placesText 2).length = max 6 (s.score.placesText 2).length ∧
    line = "  " ++ toString place ++ ". " ++ s.document.title ++ blanks n ++ " " ++ blanks m ++
      s.score.placesText 2 ++ "  " ++ s.document.permalink route

/-- A text has a first line for a document and a line for each of the documents that are related to
it, numbered from 1, or a sentence if there is none. -/
def WritesRelated (route : String) (query : Document) (ranked : List Scored) (text : String) :
    Prop :=
  ∃ entries, List.Forall₂ (fun s line => IsRelatedEntry route s.2 s.1 line) (ranked.zipIdx 1)
      entries ∧
    WritesLines (("Related to " ++ query.title ++ " (" ++ query.permalink route ++ ")") ::
      if ranked = [] then ["  No related content."] else entries) text

theorem isRelatedEntry_relatedEntry (route : String) (place : ℕ) (s : Scored) :
    IsRelatedEntry route place s (relatedEntry route s place) := by
  refine ⟨40 - s.document.title.length, 6 - (s.score.placesText 2).length, by omega, by omega, ?_⟩
  rw [relatedEntry, titleColumn, padRight_eq, padLeft_eq]
  simp only [String.append_assoc]

/-- The text of related documents has them. -/
theorem writesRelated_ofLines (route : String) (query : Document) (ranked : List Scored) :
    WritesRelated route query ranked (ofLines (related route query ranked)) := by
  refine ⟨(ranked.zipIdx 1).map fun s => relatedEntry route s.1 s.2, ?_, ?_⟩
  · rw [List.forall₂_map_right_iff, List.forall₂_same]
    exact fun s _ => isRelatedEntry_relatedEntry route s.2 s.1
  · have hentries : (ranked.zipIdx 1).map (fun s => relatedEntry route s.1 s.2) =
        ranked.zipIdx.map fun s => relatedEntry route s.1 (s.2 + 1) := by
      rw [List.zipIdx_succ, List.map_map]
      rfl
    have hlines : related route query ranked =
        ("Related to " ++ query.title ++ " (" ++ query.permalink route ++ ")") ::
          if ranked = [] then ["  No related content."]
          else (ranked.zipIdx 1).map fun s => relatedEntry route s.1 s.2 := by
      rw [hentries]
      cases ranked <;> rfl
    rw [← hlines]
    exact writesLines_ofLines _

end DocSite.Answer
