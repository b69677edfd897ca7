import DocSite.Proofs.Folder
import DocSite.Proofs.Record.Normalize

/-!
# The pages of a folder

A page is a regular file whose name is a stem with the extension `md` or `mdx` (`IsPage`).

* `IsStemOf.pageId`: a page's id is a stem with the same extension.
* `eq_of_pairwise_precedes`: pages in the order of their paths, name by name and byte by byte
  (`Precedes`), are determined by which pages there are.
* `recordOf_eq_ok_iff`: what a page is read to is given by its id, its front matter and its body
  (`pageRecord`).
-/

namespace DocSite.Folder

/-! ### Stems -/

/-- Bytes are a stem with the extension of pages. -/
def IsStemOf (stem name : Bytes) : Prop :=
  name = stem ++ Text.utf8 ".md" ∨ name = stem ++ Text.utf8 ".mdx"

theorem isStemOf_utf8_iff {stem name : String} :
    IsStemOf stem name ↔ name = stem ++ ".md" ∨ name = stem ++ ".mdx" := by
  rw [IsStemOf, ← Text.utf8_append, ← Text.utf8_append, Text.utf8_inj, Text.utf8_inj]

section CutLast

variable {α : Type} [BEq α] [LawfulBEq α] {separator : α} {s stem extension : List α}

theorem cutLast_append (h : separator ∉ extension) :
    cutLast separator (stem ++ separator :: extension) = some (stem, extension) := by
  have hafter : ((stem ++ separator :: extension).reverse.takeWhile (· != separator)).reverse =
      extension := by
    have hrest : ∀ c ∈ extension.reverse, (c != separator) = true := by
      intro c hc
      rw [bne_iff_ne]
      rintro rfl
      exact h (List.mem_reverse.mp hc)
    rw [List.reverse_append, List.reverse_cons, List.append_assoc,
      List.takeWhile_append_of_pos hrest]
    simp
  have hlength : (stem ++ separator :: extension).length =
      stem.length + (extension.length + 1) := by
    rw [List.length_append, List.length_cons]
  have htake : (stem ++ separator :: extension).length - extension.length - 1 = stem.length := by
    omega
  rw [cutLast]
  simp only [hafter, htake, List.take_left]
  exact if_pos (by omega)

theorem cutLast_eq_some_iff :
    cutLast separator s = some (stem, extension) ↔
      s = stem ++ separator :: extension ∧ separator ∉ extension := by
  constructor
  · intro h
    by_cases hmem : separator ∈ s
    · -- Read backwards, the last separator is the first one.
      obtain ⟨after, before, hs, hafter⟩ := List.eq_append_cons_of_mem (List.mem_reverse.mpr hmem)
      have hcut : s = before.reverse ++ separator :: after.reverse := by
        rw [← List.reverse_reverse s, hs]
        simp
      have hafter' : separator ∉ after.reverse := fun hmem => hafter (List.mem_reverse.mp hmem)
      rw [hcut, cutLast_append hafter'] at h
      cases h
      exact ⟨hcut, hafter'⟩
    · have hall : ∀ c ∈ s.reverse, (c != separator) = true := by
        intro c hc
        rw [bne_iff_ne]
        rintro rfl
        exact hmem (List.mem_reverse.mp hc)
      rw [cutLast, List.takeWhile_eq_self_iff.mpr hall, List.reverse_reverse] at h
      simp at h
  · rintro ⟨rfl, hextension⟩
    exact cutLast_append hextension

end CutLast

/-- The stem of a name stands before its last dot, and one of the extensions of pages after it. -/
theorem isStemOf_iff {stem name : Bytes} :
    IsStemOf stem name ↔ ∃ e ∈ extensions, cutLast 0x2e name = some (stem, Text.utf8 e) := by
  have hmd : 0x2e ∉ Text.utf8 "md" ∧ Text.utf8 ".md" = 0x2e :: Text.utf8 "md" := by decide
  have hmdx : 0x2e ∉ Text.utf8 "mdx" ∧ Text.utf8 ".mdx" = 0x2e :: Text.utf8 "mdx" := by
    decide
  simp [extensions, IsStemOf, cutLast_eq_some_iff, hmd, hmdx]

theorem isPageName_iff {name : Bytes} :
    isPageName name ↔ ∃ stem, stem ≠ [] ∧ IsStemOf stem name := by
  simp only [isStemOf_iff]
  rw [isPageName]
  constructor
  · intro h
    split at h
    · rename_i stem extension hcut
      obtain ⟨hstem, hextension⟩ := Bool.and_eq_true_iff.mp h
      obtain ⟨e, he, hextension⟩ := List.any_eq_true.mp hextension
      obtain rfl := eq_of_beq hextension
      exact ⟨stem, by simpa using hstem, e, he, hcut⟩
    · cases h
  · rintro ⟨stem, hstem, e, he, hcut⟩
    rw [hcut, Bool.and_eq_true_iff]
    exact ⟨by simpa using hstem, List.any_eq_true.mpr ⟨e, he, beq_self_eq_true _⟩⟩

theorem withoutExtension_eq {stem id : String} (h : IsStemOf stem id) :
    withoutExtension id = stem := by
  have hcut (e : String) (he : e = "md" ∨ e = "mdx") (hid : id = stem ++ ("." ++ e)) :
      cutLast '.' id.toList = some (stem.toList, e.toList) := by
    have hdot : '.' ∉ e.toList := by rcases he with rfl | rfl <;> decide
    rw [cutLast_eq_some_iff, hid, String.toList_append, String.toList_append]
    exact ⟨rfl, hdot⟩
  rcases isStemOf_utf8_iff.mp h with hid | hid
  · rw [withoutExtension, hcut "md" (.inl rfl) hid]
    simp [extensions]
  · rw [withoutExtension, hcut "mdx" (.inr rfl) hid]
    simp [extensions]

theorem IsStemOf.append {stem name : String} (h : IsStemOf stem name) (before : String) :
    IsStemOf (before ++ stem : String) (before ++ name : String) := by
  rw [isStemOf_utf8_iff] at h ⊢
  rcases h with rfl | rfl
  · exact .inl String.append_assoc.symm
  · exact .inr String.append_assoc.symm

/-- The extension of a name stays when bytes of it are replaced. -/
theorem IsStemOf.lossy {stem name : Bytes} (h : IsStemOf stem name) :
    IsStemOf (Text.lossy stem) (Text.lossy name) := by
  have hlossy (e : String) : Text.lossy (stem ++ Text.utf8 ("." ++ e)) =
      Text.lossy stem ++ ("." ++ e) := by
    have hbyte : Text.utf8 ("." ++ e) = 0x2e :: Text.utf8 e := Text.utf8_append "." e
    rw [hbyte, Text.lossy_append_of_ascii (by decide), ← hbyte, Text.lossy_utf8]
  rw [isStemOf_utf8_iff]
  rcases h with rfl | rfl
  · exact .inl (hlossy "md")
  · exact .inr (hlossy "mdx")

/-! ### Pages -/

/-- A page below a directory: a regular file, the names that lead to it without links, and in the
last of them a stem that is not empty with the extension of pages. -/
structure IsPage (t : FileTree) (names : List Bytes) (content : ByteArray) : Prop where
  get?_eq : t.get? names = some (.file content)
  exists_stem : ∃ above name stem, names = above ++ [name] ∧ stem ≠ [] ∧ IsStemOf stem name

/-- Only the last of the names decides whether a file is a page. -/
theorem any_isPageName_iff {names : List Bytes} :
    names.getLast?.any isPageName ↔
      ∃ above name stem, names = above ++ [name] ∧ stem ≠ [] ∧ IsStemOf stem name := by
  rw [Option.any_eq_true]
  constructor
  · rintro ⟨name, hlast, hpage⟩
    obtain ⟨above, rfl⟩ := List.getLast?_eq_some_iff.mp hlast
    obtain ⟨stem, hstem⟩ := isPageName_iff.mp hpage
    exact ⟨above, name, stem, rfl, hstem⟩
  · rintro ⟨above, name, stem, rfl, hstem⟩
    exact ⟨name, List.getLast?_concat, isPageName_iff.mpr ⟨stem, hstem⟩⟩

theorem isPage_iff {t : FileTree} {names : List Bytes} {content : ByteArray} :
    IsPage t names content ↔
      t.get? names = some (.file content) ∧ names.getLast?.any isPageName := by
  rw [any_isPageName_iff]
  exact ⟨fun ⟨hget, hstem⟩ => ⟨hget, hstem⟩, fun ⟨hget, hstem⟩ => ⟨hget, hstem⟩⟩

theorem IsPage.content_unique {t : FileTree} {names : List Bytes} {content content' : ByteArray}
    (h : IsPage t names content) (h' : IsPage t names content') : content = content' := by
  have hget := h.get?_eq.symm.trans h'.get?_eq
  cases hget
  rfl

/-- The id of a page is the name of its file after the directories above it. -/
theorem exists_pageId_eq_append (above : List Bytes) :
    ∃ before, ∀ name, pageId (above ++ [name]) = before ++ Text.lossy name := by
  induction above with
  | nil =>
    refine ⟨"", fun name => ?_⟩
    rw [List.nil_append, pageId, List.map_singleton, String.intercalate_singleton]
    simp
  | cons a above ih =>
    obtain ⟨before, hid⟩ := ih
    refine ⟨Text.lossy a ++ "/" ++ before, fun name => ?_⟩
    rw [pageId, List.cons_append, List.map_cons, String.intercalate_cons_of_ne_nil (by simp),
      ← pageId, hid]
    simp only [String.append_assoc]

theorem IsStemOf.pageId {stem name : Bytes} (h : IsStemOf stem name) (above : List Bytes) :
    IsStemOf (pageId (above ++ [stem])) (pageId (above ++ [name])) := by
  obtain ⟨before, hid⟩ := exists_pageId_eq_append above
  rw [hid, hid]
  exact h.lossy.append before

theorem IsPage.exists_isStemOf_pageId {t : FileTree} {names : List Bytes} {content : ByteArray}
    (h : IsPage t names content) : ∃ stem : String, IsStemOf stem (pageId names) := by
  obtain ⟨above, name, stem, rfl, -, hstem⟩ := h.exists_stem
  exact ⟨_, hstem.pageId above⟩

/-! ### The order of pages -/

/-- The order of paths: name by name, where names are ordered by their bytes. -/
def Precedes (a b : List Bytes) : Prop :=
  List.Lex (List.Lex (· < ·)) a b

theorem precedes_iff_lt {a b : List Bytes} : Precedes a b ↔ a < b :=
  Iff.rfl

theorem Precedes.asymm {a b : List Bytes} (h : Precedes a b) : ¬ Precedes b a := by
  rw [precedes_iff_lt] at h ⊢
  exact List.lt_asymm h

theorem Precedes.trans {a b c : List Bytes} (hab : Precedes a b) (hbc : Precedes b c) :
    Precedes a c := by
  rw [precedes_iff_lt] at *
  exact List.lt_trans hab hbc

/-- What is above comes before what is below. -/
theorem precedes_append {above below : List Bytes} (hbelow : below ≠ []) :
    Precedes above (above ++ below) := by
  induction above with
  | nil =>
    obtain ⟨name, rest, rfl⟩ := List.exists_cons_of_ne_nil hbelow
    exact .nil
  | cons name rest ih => exact .cons ih

/-- Two lists of files in the order of their paths are equal if they have the same members. -/
theorem eq_of_pairwise_precedes {fs gs : List (List Bytes × ByteArray)}
    (hfs : fs.Pairwise fun f g => Precedes f.1 g.1) (hgs : gs.Pairwise fun f g => Precedes f.1 g.1)
    (h : ∀ f, f ∈ fs ↔ f ∈ gs) : fs = gs := by
  have hnodup {l : List (List Bytes × ByteArray)} (hl : l.Pairwise fun f g => Precedes f.1 g.1) :
      l.Nodup := by
    refine hl.imp fun hfg => ?_
    rintro rfl
    exact hfg.asymm hfg
  refine List.Perm.eq_of_pairwise (fun f g _ _ hfg hgf => absurd hgf hfg.asymm) hfs hgs ?_
  exact (List.perm_ext_iff_of_nodup (hnodup hfs) (hnodup hgs)).mpr h

/-! ### What is read from a page -/

variable {read : List Char → Except FrontMatterFault FrontMatter}

/-- What is read from a page: its bytes are a text, whose front matter is accepted with these fields
and leaves this body. -/
def Reads (read : List Char → Except FrontMatterFault FrontMatter) (content : ByteArray)
    (fields : FrontMatter) (body : List Char) : Prop :=
  ∃ text, String.fromUTF8? content = some text ∧
    FrontMatter.readWith read text.toList = .ok (fields, body)

theorem Reads.unique {content : ByteArray} {fields fields' : FrontMatter} {body body' : List Char}
    (h : Reads read content fields body) (h' : Reads read content fields' body') :
    fields = fields' ∧ body = body' := by
  obtain ⟨text, htext, hread⟩ := h
  obtain ⟨text', htext', hread'⟩ := h'
  obtain rfl := Option.some.inj (htext.symm.trans htext')
  cases hread.symm.trans hread'
  exact ⟨rfl, rfl⟩

/-- The record of a page with this id and with what is read from it. -/
def pageRecord (id : String) (fields : FrontMatter) (body : List Char) : RawRecord where
  id := some id
  slug := some (fields.slug.getD (withoutExtension id))
  title := fields.title
  description := fields.description
  tags := fields.tags
  category := fields.category
  draft := fields.draft
  date := fields.date
  body := some (render (String.ofList body)).text
  headings := (render (String.ofList body)).headings

theorem id_of_normalize_pageRecord {id : String} {fields : FrontMatter} {body : List Char}
    {doc : Document} (h : (pageRecord id fields body).normalize = .ok doc) :
    doc.id = id ∧ doc.draft = fields.draft.getD false := by
  obtain ⟨id', title, ⟨hid, -⟩, -, rfl⟩ := RawRecord.normalize_eq_ok_iff.mp h
  exact ⟨(Option.some.inj hid).symm, rfl⟩

/-- A page is read exactly if it can be opened, is a text and has front matter that is accepted. -/
theorem record_eq_ok_iff {refuses : List Bytes → Option PathFault} {root : Bytes}
    {names : List Bytes} {content : ByteArray} {r : RawRecord} :
    record read refuses root names content = .ok r ↔
      openFault? refuses root names = none ∧
        ∃ fields body, Reads read content fields body ∧
          pageRecord (pageId names) fields body = r := by
  rw [record]
  cases openFault? refuses root names with
  | some fault => simp
  | none =>
    rw [FileTree.textOf, eq_self_iff_true, true_and]
    cases htext : String.fromUTF8? content with
    | none =>
      constructor
      · intro h
        cases h
      · rintro ⟨fields, body, ⟨text, htext', -⟩, -⟩
        rw [htext] at htext'
        cases htext'
    | some text =>
      show recordOf read (pageId names) text = .ok r ↔ _
      rw [recordOf]
      constructor
      · intro h
        split at h
        · cases h
        · rename_i fields body hread
          cases h
          exact ⟨fields, body, ⟨text, htext, hread⟩, rfl⟩
      · rintro ⟨fields, body, ⟨text', htext', hread⟩, rfl⟩
        obtain rfl := Option.some.inj (htext.symm.trans htext')
        rw [hread]
        rfl

end DocSite.Folder
