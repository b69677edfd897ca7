import DocSite.Proofs.Folder.Walk

/-!
# The records of a folder

* `nodup_ids`: where the names of pages are texts, the records of a folder have different ids, and
  `pairwise_ids`: these are in the order of the pages.
* `records_of_pages`: a folder of which everything can be opened and read has one record for each
  page. `recordsWith_eq_of_pages`: folders with the same pages have the same records.
* `records_deepDisk` is a folder whose pages can all be read and which has no records, because a
  directory without pages cannot be listed.
-/

namespace DocSite.Folder

open FileTree (IsName)
open Text (IsText)

variable {read : List Char → Except FrontMatterFault FrontMatter}
  {refuses : List Bytes → Option PathFault} {d : Disk} {root : Bytes}
  {entries : List (Bytes × FileTree)} {records : List RawRecord}

/-! ### Ids -/

theorem id_of_record {names : List Bytes} {content : ByteArray} {r : RawRecord}
    (h : record read refuses root names content = .ok r) : r.id = some (pageId names) := by
  obtain ⟨-, fields, body, -, rfl⟩ := record_eq_ok_iff.mp h
  rfl

theorem IsPage.isName {names : List Bytes} {content : ByteArray} (hd : d.Proper)
    (hroot : d.resolve root = .ok (.directory entries))
    (h : IsPage (.directory entries) names content) : ∀ n ∈ names, IsName n :=
  ((hd.resolve hroot).get? h.get?_eq).1

/-- The ids of a folder's records are those of its pages. -/
theorem exists_ids_of_recordsWith (hd : d.Proper)
    (hroot : d.resolve root = .ok (.directory entries))
    (hrecords : recordsWith read refuses d root = .ok records) :
    ∃ pages, IsPageList (.directory entries) pages ∧
      records.map (·.id) = pages.map fun f => some (pageId f.1) := by
  obtain ⟨pages, hpages, hmapM⟩ := exists_pages_of_recordsWith hd hroot hrecords
  exact ⟨pages, hpages, map_eq_map_of_mapM_eq_ok hmapM fun _ _ => id_of_record⟩

/-- The names on the way to the pages of a folder are texts. -/
def HasTextNames (d : Disk) (root : Bytes) : Prop :=
  ∀ entries, d.resolve root = .ok (.directory entries) →
    ∀ names content, IsPage (.directory entries) names content → ∀ n ∈ names, IsText n

section Texts

variable (hd : d.Proper) (htext : HasTextNames d root)
  (hrecords : recordsWith read refuses d root = .ok records)
include hd htext hrecords

/-- Where the names of pages are texts, the paths of a folder's records are in the order of the
pages. -/
theorem pairwise_ids : records.Pairwise fun r q =>
    ∃ i j : String, r.id = some i ∧ q.id = some j ∧ Precedes (Path.names i) (Path.names j) := by
  obtain ⟨entries, hroot⟩ := exists_directory_of_recordsWith hrecords
  obtain ⟨pages, hpages, hids⟩ := exists_ids_of_recordsWith hd hroot hrecords
  have hnames : ∀ f ∈ pages, Path.names (pageId f.1) = f.1 := by
    intro f hf
    have hpage := (hpages.mem_iff f.1 f.2).mp hf
    exact names_pageId (hpage.isName hd hroot) (htext _ hroot _ _ hpage)
  have hsorted : (pages.map fun f => some (pageId f.1)).Pairwise fun x y =>
      ∃ i j : String, x = some i ∧ y = some j ∧ Precedes (Path.names i) (Path.names j) := by
    rw [List.pairwise_map]
    refine hpages.sorted.imp_of_mem fun {f g} hf hg hfg => ?_
    exact ⟨_, _, rfl, rfl, by rwa [hnames f hf, hnames g hg]⟩
  rw [← hids] at hsorted
  exact List.pairwise_map.mp hsorted

/-- Where the names of pages are texts, the records of a folder have different ids. -/
theorem nodup_ids : (records.map (·.id)).Nodup := by
  rw [List.Nodup, List.pairwise_map]
  refine (pairwise_ids hd htext hrecords).imp fun {r q} hrq heq => ?_
  obtain ⟨i, j, hi, hj, hlt⟩ := hrq
  obtain rfl : i = j := Option.some.inj (hi.symm.trans (heq.trans hj))
  exact hlt.asymm hlt

end Texts

/-! ### One record for each page -/

/-- A folder of a proper disk has the records of another one that has the same pages, if everything
below it can be opened: a record does not name the folder, and the pages are listed alike. -/
theorem recordsWith_eq_of_pages {refuses' : List Bytes → Option PathFault} {d' : Disk}
    {root' : Bytes} {entries' : List (Bytes × FileTree)} (hd : d.Proper) (hd' : d'.Proper)
    (hroot : d.resolve root = .ok (.directory entries))
    (hroot' : d'.resolve root' = .ok (.directory entries'))
    (hrecords : recordsWith read refuses d root = .ok records)
    (hopen : ∀ names u, (FileTree.directory entries').get? names = some u →
      openFault? refuses' root' names = none)
    (hsame : ∀ names content, IsPage (.directory entries') names content ↔
      IsPage (.directory entries) names content) :
    recordsWith read refuses' d' root' = .ok records := by
  obtain ⟨pages, hpages, hmapM⟩ := exists_pages_of_recordsWith hd hroot hrecords
  have hall := mapM_eq_ok_iff.mp hmapM
  have hreads : ∀ names content, IsPage (.directory entries') names content →
      openFault? refuses' root' names = none ∧ ∃ fields body, Reads read content fields body := by
    intro names content hpage
    obtain ⟨r, -, hr⟩ := exists_eq_ok_of_mem hmapM
      ((hpages.mem_iff names content).mpr ((hsame _ _).mp hpage))
    obtain ⟨-, fields, body, hread, -⟩ := record_eq_ok_iff.mp hr
    exact ⟨hopen _ _ hpage.get?_eq, fields, body, hread⟩
  obtain ⟨records', hrecords'⟩ := (exists_recordsWith_eq_ok_iff hd' hroot').mpr
    (not_stopsAt (fun names _ h => hopen names _ h) hreads)
  obtain ⟨pages', hpages', hmapM'⟩ := exists_pages_of_recordsWith hd' hroot' hrecords'
  obtain rfl := hpages'.unique hpages hsame
  have hopened : ∀ f ∈ pages', openFault? refuses' root' f.1 = none :=
    fun f hf => hopen _ _ ((hpages'.mem_iff f.1 f.2).mp hf).get?_eq
  have hall' : List.Forall₂ (fun f r => record read refuses' root' f.1 f.2 = .ok r) pages'
      records := by
    refine ((List.forall₂_and_left _ _).mpr ⟨hopened, hall⟩).imp ?_
    rintro f r ⟨hf, hr⟩
    exact record_eq_ok_iff.mpr ⟨hf, (record_eq_ok_iff.mp hr).2⟩
  rw [hrecords', ← hmapM', mapM_eq_ok_iff.mpr hall']

/-- **A folder of readable pages has one record for each, in the order of their paths.** Let every
directory below the folder be listed, and every page be opened and be a text whose front matter is
accepted. Then the folder has records, one for each page in the order of paths, and each holds what
is read from its page: its id is the path, in which bytes that are no text are replaced, and its
slug, unless the front matter sets one, is the id without `.md` or `.mdx`. Where the names on the
way to pages are texts, the ids are different, and their names are in the order of paths too. No
order in which a file system has its entries changes the records. -/
theorem records_of_pages (hd : d.Proper) (hroot : d.resolve root = .ok (.directory entries))
    (hlisted : ∀ names entries',
      (FileTree.directory entries).get? names = some (.directory entries') →
        openFault? refuses root names = none)
    (hreads : ∀ names content, IsPage (.directory entries) names content →
      openFault? refuses root names = none ∧ ∃ fields body, Reads read content fields body) :
    ∃ (files : List (List Bytes × ByteArray)) (records : List RawRecord),
      recordsWith read refuses d root = .ok records ∧
      (∀ names content, (names, content) ∈ files ↔ IsPage (.directory entries) names content) ∧
      (files.Pairwise fun f g => Precedes f.1 g.1) ∧
      List.Forall₂ (fun f r => r.id = some ("/".intercalate (f.1.map Text.lossy)) ∧
        ∃ fields body, Reads read f.2 fields body ∧
          r = pageRecord ("/".intercalate (f.1.map Text.lossy)) fields body ∧
          (fields.slug = none → ∃ stem, r.slug = some stem ∧
            (r.id = some (stem ++ ".md") ∨ r.id = some (stem ++ ".mdx")))) files records ∧
      ((∀ f ∈ files, ∀ n ∈ f.1, IsText n) →
        (records.map (·.id)).Nodup ∧
        records.Pairwise fun r q => ∃ i j : String, r.id = some i ∧ q.id = some j ∧
          Precedes (Path.names i) (Path.names j)) ∧
      ∀ (refuses' : List Bytes → Option PathFault) (d' : Disk) root' entries', d'.Proper →
        d'.resolve root' = .ok (.directory entries') →
        (∀ names u, (FileTree.directory entries').get? names = some u →
          openFault? refuses' root' names = none) →
        (∀ names content, IsPage (.directory entries') names content ↔
          IsPage (.directory entries) names content) →
        recordsWith read refuses' d' root' = .ok records := by
  obtain ⟨records, hrecords⟩ :=
    (exists_recordsWith_eq_ok_iff hd hroot).mpr (not_stopsAt hlisted hreads)
  obtain ⟨pages, hpages, hmapM⟩ := exists_pages_of_recordsWith hd hroot hrecords
  have hall := mapM_eq_ok_iff.mp hmapM
  refine ⟨pages, records, hrecords, hpages.mem_iff, hpages.sorted, ?_, fun htext => ?_, ?_⟩
  · -- Each record is that of its page, and a page's id has a stem.
    have hstems : ∀ f ∈ pages, ∃ stem : String, IsStemOf stem (pageId f.1) :=
      fun f hf => ((hpages.mem_iff _ _).mp hf).exists_isStemOf_pageId
    refine ((List.forall₂_and_left _ _).mpr ⟨hstems, hall⟩).imp ?_
    rintro ⟨names, content⟩ r ⟨⟨stem, hstem⟩, hr⟩
    obtain ⟨-, fields, body, hread, rfl⟩ := record_eq_ok_iff.mp hr
    refine ⟨rfl, fields, body, hread, rfl, fun hslug => ⟨stem, ?_, ?_⟩⟩
    · rw [pageRecord, hslug, Option.getD_none, withoutExtension_eq hstem]
    · exact (isStemOf_utf8_iff.mp hstem).imp (congrArg some) (congrArg some)
  · have htext' : HasTextNames d root := by
      intro entries' hroot' names content hpage
      cases hroot.symm.trans hroot'
      exact htext (names, content) ((hpages.mem_iff _ _).mpr hpage)
    exact ⟨nodup_ids hd htext' hrecords, pairwise_ids hd htext' hrecords⟩
  · intro refuses' d' root' entries' hd' hroot' hopen hsame
    exact recordsWith_eq_of_pages hd hd' hroot hroot' hrecords hopen hsame

/-- A folder whose entries are in no order, with a link, a file that has no stem, one that is no
page and a name that is no text. The pages of the directory `a` come before the page `a.md`,
although the ids alone would be sorted the other way. -/
theorem records_of_pages_of_unsorted :
    let page : ByteArray := "---\nx\n---\n".toUTF8
    let entries : List (Bytes × FileTree) :=
      [("b.md", .file page), ("a.md", .file page),
        ("a", .directory [("x.mdx", .file page), ("y.md", .link "../b.md")]),
        (".md", .file page), ([0xff], .file ⟨#[0xff]⟩)]
    let disk : Disk := { tree := .directory [("content", .directory entries)] }
    let read : List Char → Except FrontMatterFault FrontMatter := fun _ => .ok { title := some "T" }
    let refuses : List Bytes → Option PathFault := fun _ => none
    let sorted : List (List Bytes × ByteArray) :=
      [(["a", "x.mdx"], page), (["a.md"], page), (["b.md"], page)]
    disk.Proper ∧ disk.resolve "content" = .ok (.directory entries) ∧
      (∀ names content, IsPage (.directory entries) names content ↔ (names, content) ∈ sorted) ∧
      (∀ names u, (FileTree.directory entries).get? names = some u →
        openFault? refuses "content" names = none) ∧
      (∀ names content, IsPage (.directory entries) names content →
        ∃ fields body, Reads read content fields body) ∧
      ∃ records, recordsWith read refuses disk "content" = .ok records ∧
        records.map (·.id) = [some "a/x.mdx", some "a.md", some "b.md"] ∧
        (records.map (·.id)).Nodup := by
  intro page entries disk read refuses sorted
  have hnodup' : (([("x.mdx", .file page), ("y.md", .link "../b.md")] :
      List (Bytes × FileTree)).map Prod.fst).Nodup := by decide
  have ha : FileTree.Proper (.directory [("x.mdx", .file page), ("y.md", .link "../b.md")]) :=
    .directory hnodup' (by decide)
      (by simp [FileTree.Proper.file, FileTree.Proper.link])
  have hnodup : (entries.map Prod.fst).Nodup := by decide
  have hentries : FileTree.Proper (.directory entries) :=
    .directory hnodup (by decide) (by simp [entries, FileTree.Proper.file, ha])
  have hdisk : disk.Proper := proper_content hentries
  have hroot : disk.resolve "content" = .ok (.directory entries) := resolve_content rfl
  have hget (names : List Bytes) (u : FileTree) :
      (FileTree.directory entries).get? names = some u ↔ (names, u) ∈
        ([([], .directory entries), (["b.md"], .file page), (["a.md"], .file page),
          (["a"], .directory [("x.mdx", .file page), ("y.md", .link "../b.md")]),
          (["a", "x.mdx"], .file page), (["a", "y.md"], .link "../b.md"),
          ([".md"], .file page), ([[0xff]], .file ⟨#[0xff]⟩)] : List (List Bytes × FileTree)) := by
    rw [FileTree.get?_directory_eq_some_iff hnodup]
    simp [entries, FileTree.get?_file_eq_some_iff, FileTree.get?_link_eq_some_iff,
      FileTree.get?_directory_eq_some_iff hnodup', and_or_left, exists_or, or_assoc]
  have hpages : ∀ names content, IsPage (.directory entries) names content ↔
      (names, content) ∈ sorted := by
    intro names content
    have hpage : isPageName "b.md" ∧ isPageName "a.md" ∧ isPageName "x.mdx" := by decide
    have hother : isPageName ".md" = false ∧ isPageName [0xff] = false := by decide
    rw [isPage_iff, hget]
    simp only [sorted, List.mem_cons, List.not_mem_nil, or_false, Prod.mk.injEq]
    clear hget ha hnodup hnodup' hentries hdisk hroot
    grind
  have hopen : ∀ names u, (FileTree.directory entries).get? names = some u →
      openFault? refuses "content" names = none := by
    intro names u h
    rw [hget] at h
    simp only [List.mem_cons, List.not_mem_nil, or_false, Prod.mk.injEq] at h
    rcases h with ⟨rfl, -⟩ | ⟨rfl, -⟩ | ⟨rfl, -⟩ | ⟨rfl, -⟩ | ⟨rfl, -⟩ | ⟨rfl, -⟩ | ⟨rfl, -⟩ |
      ⟨rfl, -⟩
    all_goals decide
  have hreads : ∀ names content, IsPage (.directory entries) names content →
      ∃ fields body, Reads read content fields body := by
    intro names content h
    have hcontent : content = page := by
      have hmem := (hpages names content).mp h
      simp only [sorted, List.mem_cons, List.not_mem_nil, or_false, Prod.mk.injEq] at hmem
      grind
    subst hcontent
    exact ⟨{ title := some "T" }, [], "---\nx\n---\n", by decide, by decide +kernel⟩
  obtain ⟨files, records, hrecords, hfiles, hsorted, hall, htexts, -⟩ :=
    records_of_pages hdisk hroot (fun names _ h => hopen names _ h)
      fun names content h => ⟨hopen names _ h.get?_eq, hreads names content h⟩
  have heq : files = sorted := by
    have hlt : sorted.Pairwise fun f g => f.1 < g.1 := by
      simp only [sorted, List.pairwise_cons]
      decide
    apply eq_of_pairwise_precedes hsorted hlt
    intro f
    rw [hfiles, hpages]
  refine ⟨hdisk, hroot, hpages, hopen, hreads, records, hrecords, ?_, (htexts ?_).1⟩
  · subst heq
    simp only [sorted, List.forall₂_cons_left_iff, List.forall₂_nil_left_iff] at hall
    obtain ⟨r, _, ⟨hr, -⟩, ⟨q, _, ⟨hq, -⟩, ⟨p, _, ⟨hp, -⟩, rfl, rfl⟩, rfl⟩, rfl⟩ := hall
    rw [List.map_cons, List.map_cons, List.map_cons, hr, hq, hp]
    decide
  · rw [heq]
    simp only [sorted, List.forall_mem_cons]
    decide

/-! ### A folder of one page -/

/-- A disk whose folder has one file. -/
def oneFile (name : Bytes) (content : ByteArray) : Disk where
  tree := .directory [("content", .directory [(name, .file content)])]

section OneFile

variable {name : Bytes} {content : ByteArray}

theorem resolve_oneFile :
    (oneFile name content).resolve "content" = .ok (.directory [(name, .file content)]) :=
  resolve_content rfl

theorem proper_oneFile (h : IsName name) : (oneFile name content).Proper :=
  proper_content (FileTree.Proper.singleton (.file content) h)

theorem isPage_oneFile {stem : Bytes} (hne : stem ≠ []) (hstem : IsStemOf stem name) :
    IsPage (.directory [(name, .file content)]) ([] ++ [name]) content where
  get?_eq := by simp [FileTree.get?, FileTree.child?]
  exists_stem := ⟨[], name, stem, rfl, hne, hstem⟩

/-- A folder of one page has the record of that page. -/
theorem records_oneFile {fields : FrontMatter} {body : List Char} (hname : isPageName name)
    (hopen : openFault? (fun _ => none) "content" [name] = none)
    (hread : Reads FrontMatter.ofText content fields body) :
    Folder.records (oneFile name content) "content" =
      .ok [pageRecord (Text.lossy name) fields body] := by
  have hlisted : openFault? (fun _ => none) "content" [] = none := by decide
  have hfound : found (openFault? (fun _ => none) "content") (.directory [(name, .file content)]) =
      [([name], .file content)] := by
    obtain ⟨sorted, hperm, -, hwalk⟩ := FileTree.walk_directory hlisted [(name, .file content)]
    obtain rfl := List.perm_singleton.mp hperm
    rw [found, hwalk]
    exact List.filter_cons_of_pos hname
  have hrecord : recordMet FrontMatter.ofText (fun _ => none) "content" ([name], .file content) =
      .ok (pageRecord (Text.lossy name) fields body) := by
    rw [recordMet, record_eq_ok_iff]
    refine ⟨hopen, fields, body, hread, ?_⟩
    rw [pageId, List.map_singleton, String.intercalate_singleton]
  rw [Folder.records, recordsWith_of_directory resolve_oneFile, hfound, mapM_eq_ok_iff]
  exact .cons hrecord .nil

end OneFile

/-! ### A directory that cannot be listed -/

/-- The path of the folder `content` after `n` steps that stay. -/
def dotted : ℕ → Bytes
  | 0 => "content"
  | n + 1 => 0x2e :: Path.slash :: dotted n

theorem length_dotted (n : ℕ) : (dotted n).length = 2 * n + 7 := by
  induction n with
  | zero => decide
  | succ n ih =>
    rw [dotted, List.length_cons, List.length_cons, ih]
    omega

theorem dotted_ne_nil (n : ℕ) : dotted n ≠ [] :=
  List.ne_nil_of_length_pos (by rw [length_dotted]; omega)

theorem isAbsolute_dotted (n : ℕ) : Path.isAbsolute (dotted n) = false := by
  cases n with
  | zero => decide
  | succ n => rfl

theorem endsWithSlash_dotted (n : ℕ) : Path.endsWithSlash (dotted n) = false := by
  induction n with
  | zero => decide
  | succ n ih =>
    rw [dotted, Path.endsWithSlash_cons _ (List.cons_ne_nil _ _),
      Path.endsWithSlash_cons _ (dotted_ne_nil n), ih]

/-- Steps that stay do not change where a path leads, as long as it is not too long. -/
theorem resolve_dotted (d : Disk) {n : ℕ} (h : 2 * n + 7 ≤ Path.maxLength) :
    d.resolve (dotted n) = d.resolve "content" := by
  have hlocate : d.locate (dotted n) true = d.locate "content" true := by
    induction n with
    | zero => rfl
    | succ n ih =>
      have hlength : (dotted n).length + 2 ≤ Path.maxLength := by
        rw [length_dotted]
        omega
      rw [dotted, Disk.locate_here_cons (dotted_ne_nil n) (isAbsolute_dotted n) hlength,
        ih (by omega)]
  rw [Disk.resolve, Disk.resolve, hlocate]

theorem length_path_dotted (n : ℕ) (name : Bytes) :
    (path (dotted n) [name]).length = 2 * n + 8 + name.length := by
  have hempty : (dotted n).isEmpty = false := List.isEmpty_eq_false_iff.mpr (dotted_ne_nil n)
  rw [path, List.foldl_cons, List.foldl_nil, Path.join, hempty, endsWithSlash_dotted]
  simp only [Bool.or_false, Bool.false_eq_true, if_false, List.length_append, List.length_cons,
    length_dotted]
  omega

/-- A page with a title. -/
def titledPage : ByteArray :=
  "---\ntitle: A\n---\n".toUTF8

/-- The name of a directory that is long, but not too long. -/
def deepName : Bytes :=
  List.replicate 200 0x64

/-- A page and an empty directory with a long name. -/
def deepEntries : List (Bytes × FileTree) :=
  [("a.md", .file titledPage), (deepName, .directory [])]

/-- The disk on which these are in the folder `content`. -/
def deepDisk : Disk where
  tree := .directory [("content", .directory deepEntries)]

theorem proper_deepDisk : deepDisk.Proper := by
  have hempty : FileTree.Proper (.directory []) := FileTree.proper_empty
  exact proper_content <| .directory (by decide) (by decide)
    (by simp [deepEntries, FileTree.Proper.file, hempty])

theorem resolve_deepDisk : deepDisk.resolve (dotted 1975) = .ok (.directory deepEntries) := by
  rw [resolve_dotted deepDisk (by decide)]
  exact resolve_content rfl

theorem get?_deepEntries {names : List Bytes} {u : FileTree} :
    (FileTree.directory deepEntries).get? names = some u ↔
      names = [] ∧ u = .directory deepEntries ∨
        names = [Text.utf8 "a.md"] ∧ u = .file titledPage ∨
        names = [deepName] ∧ u = .directory [] := by
  have hempty (names : List Bytes) : (FileTree.directory []).get? names = some u ↔
      names = [] ∧ u = .directory [] := by
    rw [FileTree.get?_directory_eq_some_iff (by decide)]
    simp
  rw [FileTree.get?_directory_eq_some_iff (by decide)]
  simp [deepEntries, FileTree.get?_file_eq_some_iff, hempty]

theorem isPage_deepEntries_iff {names : List Bytes} {content : ByteArray} :
    IsPage (.directory deepEntries) names content ↔
      names = [Text.utf8 "a.md"] ∧ content = titledPage := by
  have hpage : isPageName "a.md" := by decide
  rw [isPage_iff, get?_deepEntries]
  grind

theorem reads_titledPage : Reads FrontMatter.ofText titledPage { title := some "A" } [] :=
  ⟨"---\ntitle: A\n---\n", by decide, by decide +kernel⟩

/-- With this path of the folder, only that of the directory is too long. -/
theorem openFault?_dotted : openFault? (fun _ => none) (dotted 1975) [] = none ∧
    openFault? (fun _ => none) (dotted 1975) [Text.utf8 "a.md"] = none ∧
    openFault? (fun _ => none) (dotted 1975) [deepName] = some .nameTooLong := by
  refine ⟨if_neg ?_, if_neg ?_, if_pos ?_⟩
  · rw [path, List.foldl_nil, length_dotted]
    decide
  · rw [length_path_dotted]
    decide
  · rw [length_path_dotted, deepName, List.length_replicate]
    decide

theorem records_deepDisk : Folder.records deepDisk (dotted 1975) =
    .error (.source (.cannotWalk (Text.lossy (dotted 1975))
      (Text.lossy (path (dotted 1975) [deepName])) .nameTooLong)) := by
  obtain ⟨hhere, hpage, hdeep⟩ := openFault?_dotted
  rw [Folder.records, recordsWith_eq_error_iff proper_deepDisk resolve_deepDisk]
  refine ⟨[deepName], .unlisted (get?_deepEntries.mpr (.inr (.inr ⟨rfl, rfl⟩))) hdeep, ?_⟩
  intro names e hbefore hstop
  obtain ⟨u, hget⟩ := hstop.get?_eq
  rcases get?_deepEntries.mp hget with ⟨rfl, -⟩ | ⟨rfl, -⟩ | ⟨rfl, -⟩
  · exact not_stopsAt_of_directory rfl hhere _ hstop
  · exact not_stopsAt_of_page (isPage_deepEntries_iff.mpr ⟨rfl, rfl⟩) hpage reads_titledPage _ hstop
  · exact hbefore.asymm hbefore

/-- A folder whose page can be read has no records where its own path is so long that the directory
beside the page cannot be listed. -/
theorem no_records_beside_deep_directory :
    deepDisk.Proper ∧ deepDisk.resolve (dotted 1975) = .ok (.directory deepEntries) ∧
      (∃ names content, IsPage (.directory deepEntries) names content) ∧
      (∀ names content, IsPage (.directory deepEntries) names content →
        openFault? (fun _ => none) (dotted 1975) names = none ∧
          ∃ fields body, Reads FrontMatter.ofText content fields body) ∧
      ¬ ∃ records, Folder.records deepDisk (dotted 1975) = .ok records := by
  refine ⟨proper_deepDisk, resolve_deepDisk, ⟨_, _, isPage_deepEntries_iff.mpr ⟨rfl, rfl⟩⟩, ?_, ?_⟩
  · intro names content h
    obtain ⟨rfl, rfl⟩ := isPage_deepEntries_iff.mp h
    exact ⟨openFault?_dotted.2.1, _, _, reads_titledPage⟩
  · rintro ⟨records, hrecords⟩
    rw [records_deepDisk] at hrecords
    cases hrecords

end DocSite.Folder
