import DocSite.Proofs.Folder.Records
import DocSite.Proofs.Program.Pages

/-!
# Rows of JSON

The commands that list documents as text or as JSON show the same documents in both.

* `list_rows_and_lines` and `related_rows_and_lines` compare the two answers of a command, and
  `json_rows` the two runs. A listing without documents is the exception: both runs print a sentence
  then, which is no JSON (`list_without_documents`).
-/

namespace DocSite

/-! ### The answers of one command -/

section Answers

variable {s : Settings} {docs : List Document} {text : String}

/-- Where a page is printed as rows of JSON, its documents are printed as lines otherwise. -/
theorem list_rows_and_lines {number : ℕ} (hdocs : docs ≠ [])
    (h : Command.answer s docs (.list number true) = .ok text) :
    ∃ pages p, paginate docs s.listing.pageSize = .ok pages ∧ p ∈ pages ∧ p.number = number ∧
      Answer.WritesRows s.content.routePrefix p.items text ∧
      ∃ lines, Command.answer s docs (.list number false) = .ok lines ∧
        Answer.WritesPage s.content.routePrefix p lines := by
  cases hpages : paginate docs s.listing.pageSize with
  | error e =>
    rw [Command.answer, pageAnswer, hpages] at h
    cases h
  | ok pages =>
    have hpagination := isPagination_of_paginate hpages
    have hne : pages ≠ [] := by
      rintro rfl
      exact hdocs hpagination.flatMap_items.symm
    obtain ⟨hpos, hle⟩ := (exists_answer_list_iff hpages hne number true).mp ⟨text, h⟩
    obtain ⟨k, rfl⟩ := Nat.exists_eq_add_of_le' hpos
    have hpage : pages[k]? = some pages[k] := List.getElem?_eq_getElem hle
    obtain ⟨rows, hrows, -, hwritten⟩ := exists_answer_list hpages hpage true
    obtain rfl := Except.ok.inj (hrows.symm.trans h)
    obtain ⟨lines, hlines, hwritten', -⟩ := exists_answer_list hpages hpage false
    exact ⟨pages, pages[k], rfl, List.getElem_mem hle, hpagination.number_eq k _ hpage,
      hwritten rfl, lines, hlines, hwritten' rfl⟩

theorem answer_list_nil (hsize : 0 < s.listing.pageSize) (number : ℕ) (json : Bool) :
    Command.answer s [] (.list number json) = .ok "No documents found.\n" := by
  have hpages : paginate [] s.listing.pageSize = .ok [] :=
    paginate_eq_ok_iff.mpr ⟨hsize, by simp [chunks, numbered]⟩
  rw [Command.answer, pageAnswer, hpages]
  rfl

/-- The related documents that are printed as rows of JSON are printed as lines otherwise. -/
theorem related_rows_and_lines {slug : String} {count : Option ℕ}
    (h : Command.answer s docs (.related slug count true) = .ok text) :
    ∃ query ranked, findBySlug docs slug = some query ∧
      ranked.map (·.document) = related query docs (count.getD s.listing.relatedCount) ∧
      Answer.WritesRows s.content.routePrefix (ranked.map (·.document)) text ∧
      ∃ lines, Command.answer s docs (.related slug count false) = .ok lines ∧
        Answer.WritesRelated s.content.routePrefix query ranked lines := by
  rw [Command.answer, relatedAnswer, requireSlug] at h
  cases hquery : findBySlug docs slug with
  | none =>
    rw [hquery] at h
    cases h
  | some query =>
    rw [hquery] at h
    obtain rfl := Except.ok.inj h
    refine ⟨query, (rank query docs).take (count.getD s.listing.relatedCount), rfl, rfl,
      Answer.writesRows_relatedRows _ _, _, ?_, Answer.writesRelated_ofLines _ _ _⟩
    rw [Command.answer, relatedAnswer, requireSlug, hquery]
    rfl

end Answers

/-! ### Two runs -/

/-- **Rows and lines show the same documents.** Let a run print a text. If it asks for a page in
JSON and the listing is not empty, then the text is one JSON array with a row for each document of
this page, and the same invocation without JSON prints a line for each of them, below the names of
their groups. If it asks for related documents in JSON, then the text is an array with a row for
each of them, as many as are asked for, and the same invocation without JSON prints a line for
each. -/
theorem json_rows {environment : String → Option String} {args : List String} {i : Invocation}
    (hi : Invocation.ofArguments environment args = .ok i) {d : Disk} {text : String}
    (hrun : (run environment args d).result = .ok text) :
    (∀ number, i.command = .list number true →
      ∃ s docs, i.settings environment d = .ok s ∧ s.documents d = .ok docs ∧
        (docs = [] ∧ text = "No documents found.\n" ∨
          ∃ pages p, paginate docs s.listing.pageSize = .ok pages ∧ p ∈ pages ∧
            p.number = number ∧ Answer.WritesRows s.content.routePrefix p.items text ∧
            ∀ args', Invocation.ofArguments environment args' =
                .ok { i with command := .list number false } →
              ∃ lines, (run environment args' d).result = .ok lines ∧
                Answer.WritesPage s.content.routePrefix p lines)) ∧
    ∀ slug count, i.command = .related slug count true →
      ∃ s docs query ranked, i.settings environment d = .ok s ∧ s.documents d = .ok docs ∧
        findBySlug docs slug = some query ∧
        ranked.map (·.document) = related query docs (count.getD s.listing.relatedCount) ∧
        Answer.WritesRows s.content.routePrefix (ranked.map (·.document)) text ∧
        ∀ args', Invocation.ofArguments environment args' =
            .ok { i with command := .related slug count false } →
          ∃ lines, (run environment args' d).result = .ok lines ∧
            Answer.WritesRelated s.content.routePrefix query ranked lines := by
  constructor
  · intro number hcommand
    obtain ⟨s, docs, hs, hvalid, hdocs, hanswer⟩ := (result_run_eq_ok_iff hi hcommand).mp hrun
    refine ⟨s, docs, hs, hdocs, ?_⟩
    by_cases hempty : docs = []
    · subst hempty
      rw [answer_list_nil (pageSize_pos hvalid)] at hanswer
      exact .inl ⟨rfl, (Except.ok.inj hanswer).symm⟩
    · obtain ⟨pages, p, hpages, hp, hnumber, hrows, lines, hlines, hwritten⟩ :=
        list_rows_and_lines hempty hanswer
      refine .inr ⟨pages, p, hpages, hp, hnumber, hrows, fun args' hi' => ⟨lines, ?_, hwritten⟩⟩
      exact (result_run_eq_ok_iff hi' rfl).mpr ⟨s, docs, hs, hvalid, hdocs, hlines⟩
  · intro slug count hcommand
    have hanswered := (result_run_eq_ok_iff_answer hi (hcommand ▸ Command.noConfusion)
      (hcommand ▸ Command.noConfusion)).mp hrun
    rw [hcommand] at hanswered
    obtain ⟨s, docs, hs, hvalid, hdocs, hanswer⟩ := hanswered
    obtain ⟨query, ranked, hquery, hranked, hrows, lines, hlines, hwritten⟩ :=
      related_rows_and_lines hanswer
    refine ⟨s, docs, query, ranked, hs, hdocs, hquery, hranked, hrows,
      fun args' hi' => ⟨lines, ?_, hwritten⟩⟩
    exact (result_run_eq_ok_iff_answer hi' Command.noConfusion Command.noConfusion).mpr
      ⟨s, docs, hs, hvalid, hdocs, hlines⟩

/-! ### Two sites -/

section Sites

/-- An environment that names a home directory. -/
def homeEnvironment (name : String) : Option String :=
  if name = "HOME" then some "home" else none

/-- A disk with a directory of pages and nothing else. -/
def siteDisk (entries : List (Bytes × FileTree)) : Disk :=
  { tree := .directory [("content", .directory entries)] }

/-- Without a home directory on the disk the default settings hold. -/
theorem settings_siteDisk (entries : List (Bytes × FileTree)) (c : Command) :
    Invocation.settings { contentDir := some "content", command := c } homeEnvironment
      (siteDisk entries) = .ok { content := { dir := "content" } } := by
  have hname : ¬ Path.maxNameLength < (Text.utf8 "home").length := by decide
  have hchild : ((siteDisk entries).tree.get? []).bind (FileTree.child? "home") = none := by
    have hother : (Text.utf8 "home" == Text.utf8 "content") = false := by decide
    simp [siteDisk, FileTree.get?, FileTree.child?, List.lookup_cons, hother]
  have hlocate : (siteDisk entries).locate (Settings.homeFile "home") true =
      .error .notFound := by
    have hhere : (siteDisk entries).here = [] := rfl
    rw [Disk.locate_of_relative (s := ["home", ".docrank", "docrank.toml"]) (by decide)]
    simp [hhere, FileTree.takeSteps, hname, hchild]
  have hthere : (siteDisk entries).isThere (Settings.homeFile "home") = false := by
    rw [Disk.isThere, Disk.resolve, hlocate]
    rfl
  have hload : Settings.loadHome (siteDisk entries) "home" = .ok {} := by
    rw [Settings.loadHome, hthere]
    rfl
  have hhome : homeOf homeEnvironment = .ok "home" := rfl
  rw [Invocation.settings]
  simp only [hhome, Except.bind, hload]
  decide

theorem documents_titledPage :
    Settings.documents { content := { dir := "content" } }
      (siteDisk [("a.md", .file Folder.titledPage)]) =
        .ok [{ id := "a.md", slug := "a", title := "A" }] := by
  have hrecords : Folder.records (siteDisk [("a.md", .file Folder.titledPage)]) "content" =
      .ok [Folder.pageRecord "a.md" { title := some "A" } []] := by
    have hrecords := Folder.records_oneFile (by decide : Folder.isPageName "a.md")
      (by decide) Folder.reads_titledPage
    rwa [Text.lossy_utf8] at hrecords
  have hnormalize : (Folder.pageRecord "a.md" { title := some "A" } []).normalize =
      .ok { id := "a.md", slug := "a", title := "A" } := by
    decide
  rw [Settings.documents, hrecords]
  simp [collect, collectRecords, bind, Except.bind, hnormalize, pure, Except.pure,
    List.mergeSort_singleton]

theorem documents_siteDisk_nil :
    Settings.documents { content := { dir := "content" } } (siteDisk []) = .ok [] := by
  have hlisted : Folder.openFault? (fun _ => none) "content" [] = none := by decide
  have hrecords : Folder.records (siteDisk []) "content" = .ok [] := by
    have hroot : (siteDisk []).resolve "content" = .ok (.directory []) := Folder.resolve_content rfl
    rw [Folder.records, Folder.recordsWith_of_directory hroot]
    simp [Folder.found, FileTree.walk, FileTree.walkEntries, hlisted, pure, Except.pure]
  rw [Settings.documents, hrecords]
  simp [collect, collectRecords, bind, Except.bind, pure, Except.pure]

/-- A site with one page, whose listing has one row, and one line below the name of a group. -/
theorem json_rows_of_one_document :
    let args := ["list", "--json", "--dir", "content"]
    let args' := ["list", "--dir", "content"]
    let i : Invocation := { contentDir := some "content", command := .list 1 true }
    let d := siteDisk [("a.md", .file Folder.titledPage)]
    let doc : Document := { id := "a.md", slug := "a", title := "A" }
    Invocation.ofArguments homeEnvironment args = .ok i ∧
      Invocation.ofArguments homeEnvironment args' = .ok { i with command := .list 1 false } ∧
      (∃ text, (run homeEnvironment args d).result = .ok text ∧
        Answer.WritesRows "/docs" [doc] text) ∧
      ∃ lines, (run homeEnvironment args' d).result = .ok lines ∧
        Answer.WritesPage "/docs" ⟨1, 1, [doc]⟩ lines := by
  intro args args' i d doc
  have hi : Invocation.ofArguments homeEnvironment args = .ok i := by decide
  have hi' : Invocation.ofArguments homeEnvironment args' =
      .ok { i with command := .list 1 false } := by decide
  have hs : i.settings homeEnvironment d = .ok { content := { dir := "content" } } :=
    settings_siteDisk _ _
  have hpages : paginate [doc] 20 = .ok [⟨1, 1, [doc]⟩] :=
    paginate_eq_ok_iff.mpr ⟨by decide, by simp [chunks, numbered]⟩
  have hrun := (result_run_eq_ok_iff hi rfl).mpr
    ⟨_, _, hs, by decide, documents_titledPage, answer_list_of_getElem? hpages (k := 0) rfl true⟩
  obtain ⟨s, docs, hs', hdocs, hlist⟩ := (json_rows hi hrun).1 1 rfl
  obtain rfl := Except.ok.inj (hs.symm.trans hs')
  obtain rfl := Except.ok.inj (documents_titledPage.symm.trans hdocs)
  obtain ⟨hempty, -⟩ | ⟨pages, p, hpages', hp, -, hrows, hlines⟩ := hlist
  · cases hempty
  · obtain rfl := Except.ok.inj (hpages.symm.trans hpages')
    obtain rfl := List.mem_singleton.mp hp
    exact ⟨hi, hi', ⟨_, hrun, hrows⟩, hlines args' hi'⟩

/-- A site without pages: the sentence that is printed for its listing is no JSON. -/
theorem list_without_documents :
    let args := ["list", "--json", "--dir", "content"]
    Invocation.ofArguments homeEnvironment args =
        .ok { contentDir := some "content", command := .list 1 true } ∧
      (run homeEnvironment args (siteDisk [])).result = .ok "No documents found.\n" ∧
      Json.read? "No documents found.\n" = none := by
  intro args
  have hi : Invocation.ofArguments homeEnvironment args =
      .ok { contentDir := some "content", command := .list 1 true } := by
    decide
  exact ⟨hi, (result_run_eq_ok_iff hi rfl).mpr ⟨_, [], settings_siteDisk [] _, by decide,
    documents_siteDisk_nil, answer_list_nil (by decide) 1 true⟩, rfl⟩

end Sites

end DocSite
