import DocSite.Proofs.Record.Normalize

/-!
# The names of a document

A document is named by its slug, its category and its tags.

* `category_of_normalize`: a category that is set is a kebab-case name.
* `slug_eq_empty_iff`: a slug is a name too, or empty where nothing is left of the id and of the raw
  slug. Then the address of the document ends with a slash (`getLast?_permalink_iff`).
* `tags_of_normalize`: a tag is a name, or empty where nothing is left of the raw tag.
* `names_of_normalize` puts these together, and `normalize_keeps_empty_names` shows a document with
  an empty slug and an empty tag.
-/

namespace DocSite

open Slug (IsKebabName)

theorem cleanName?_eq_none_iff {raw : Option String} :
    cleanName? raw = none ↔ ∀ s, raw = some s → Slug.clean s = "" := by
  cases raw with
  | none => simp [cleanName?]
  | some s => simp [cleanName?]

/-- A cleaned name that is not dropped is a kebab-case name. -/
theorem isKebabName_of_cleanName? {raw : Option String} {name : String}
    (h : cleanName? raw = some name) : IsKebabName name.toList := by
  obtain ⟨hmap, hne⟩ := Option.filter_eq_some_iff.mp h
  obtain ⟨s, -, rfl⟩ := Option.map_eq_some_iff.mp hmap
  rcases Slug.clean_eq_empty_or_isKebabName s with hempty | hname
  · rw [hempty] at hne
    exact absurd hne (by decide)
  · exact hname

namespace RawRecord

variable {r : RawRecord} {d : Document}

theorem category_of_normalize (h : r.normalize = .ok d) {c : String}
    (hc : d.category = some c) : IsKebabName c.toList := by
  obtain ⟨id, title, -, -, rfl⟩ := normalize_eq_ok_iff.mp h
  exact isKebabName_of_cleanName? hc

/-- A slug is empty exactly where nothing is left of the id, nor of a raw slug. -/
theorem slug_eq_empty_iff (h : r.normalize = .ok d) :
    d.slug = "" ↔ Slug.clean d.id = "" ∧ ∀ raw, r.slug = some raw → Slug.clean raw = "" := by
  obtain ⟨id, title, -, -, rfl⟩ := normalize_eq_ok_iff.mp h
  rw [← cleanName?_eq_none_iff]
  show (cleanName? r.slug).getD (Slug.clean id) = "" ↔ Slug.clean id = "" ∧ cleanName? r.slug = none
  cases hname : cleanName? r.slug with
  | none => simp
  | some name =>
    have hne : name ≠ "" := by
      rintro rfl
      obtain ⟨c, hc, -⟩ := (isKebabName_of_cleanName? hname).exists_isNameChar
      exact absurd hc List.not_mem_nil
    simp [hne]

theorem slug_eq_empty_or_isKebabName (h : r.normalize = .ok d) :
    d.slug = "" ∨ IsKebabName d.slug.toList := by
  obtain ⟨raw, hraw⟩ := exists_slug_eq_clean h
  rw [hraw]
  exact Slug.clean_eq_empty_or_isKebabName raw

theorem tags_of_normalize (h : r.normalize = .ok d) :
    d.tags = (r.tags.getD []).map Slug.clean := by
  obtain ⟨id, title, -, -, rfl⟩ := normalize_eq_ok_iff.mp h
  rfl

theorem tag_eq_empty_or_isKebabName (h : r.normalize = .ok d) {t : String} (ht : t ∈ d.tags) :
    t = "" ∨ IsKebabName t.toList := by
  rw [tags_of_normalize h] at ht
  obtain ⟨raw, -, rfl⟩ := List.mem_map.mp ht
  exact Slug.clean_eq_empty_or_isKebabName raw

end RawRecord

/-! ### Addresses -/

theorem not_mem_slash_of_isKebabName {t : List Char} (h : IsKebabName t) : '/' ∉ t := by
  intro hmem
  rcases h.eq_hyphen_or_isNameChar '/' hmem with heq | hchar
  · exact absurd heq (by decide)
  · exact absurd hchar.isAlphanumeric (by decide +kernel)

/-- The address of a document ends with a slash exactly if the slug is empty. -/
theorem Document.getLast?_permalink_iff {d : Document} (h : d.slug = "" ∨ IsKebabName d.slug.toList)
    (route : String) : (d.permalink route).toList.getLast? = some '/' ↔ d.slug = "" := by
  rw [permalink, String.toList_ofList, List.getLast?_append_of_ne_nil _ (List.cons_ne_nil _ _)]
  constructor
  · intro hlast
    rcases h with hempty | hname
    · exact hempty
    · -- The last character of the address is that of the name, which has no slash.
      obtain ⟨c, hc, -⟩ := hname.exists_isNameChar
      rw [List.getLast?_cons_of_ne_nil (List.ne_nil_of_mem hc)] at hlast
      exact absurd (List.mem_of_getLast? hlast) (not_mem_slash_of_isKebabName hname)
  · intro hempty
    rw [hempty]
    rfl

/-! ### All names of a document -/

/-- **The names of a document are in kebab case.** A category that is set is a name. The slug is a
name unless nothing is left of the id, nor of a raw slug; then it is empty, and the document's
address ends with a slash. The tags are the cleaned raw tags, one for each; those of which nothing
is left are kept as empty tags, and all others are names. So a tag that documents share is empty or
has a letter or a digit. Nothing is left of a text whose lowercase has no letters and digits but
uppercase ones. -/
theorem names_of_normalize {r : RawRecord} {d : Document} (h : r.normalize = .ok d) :
    (∀ c, d.category = some c → IsKebabName c.toList) ∧
      (d.slug = "" ∨ IsKebabName d.slug.toList) ∧
      (d.slug = "" ↔ Slug.clean d.id = "" ∧ ∀ raw, r.slug = some raw → Slug.clean raw = "") ∧
      (∀ route, (d.permalink route).toList.getLast? = some '/' ↔ d.slug = "") ∧
      d.tags = (r.tags.getD []).map Slug.clean ∧
      (∀ t ∈ d.tags, t = "" ∨ IsKebabName t.toList ∧ ∃ c ∈ t.toList, Text.isAlphanumeric c) ∧
      ∀ raw, Slug.clean raw = "" ↔
        ∀ c ∈ Text.lowercase raw.toList, Text.isAlphanumeric c = false ∨ Text.isUppercase c := by
  have hslug := RawRecord.slug_eq_empty_or_isKebabName h
  refine ⟨fun c hc => RawRecord.category_of_normalize h hc, hslug, RawRecord.slug_eq_empty_iff h,
    Document.getLast?_permalink_iff hslug, RawRecord.tags_of_normalize h, fun t ht => ?_,
    fun raw => Slug.clean_eq_empty_iff⟩
  refine (RawRecord.tag_eq_empty_or_isKebabName h ht).imp_right fun hname => ⟨hname, ?_⟩
  obtain ⟨c, hc, hchar⟩ := hname.exists_isNameChar
  exact ⟨c, hc, hchar.isAlphanumeric⟩

/-- A record whose raw slug is replaced by its id, with a tag of which nothing is left. -/
theorem names_of_normalize_of_blank_slug :
    let r : RawRecord := {
      id := some "Docs/Intro.md"
      slug := some "--"
      title := some "Intro"
      tags := some ["Rust Lang", "!"]
      category := some "Dev Ops" }
    let d : Document := {
      id := "Docs/Intro.md"
      slug := "docs-intro-md"
      title := "Intro"
      tags := ["rust-lang", ""]
      category := some "dev-ops" }
    r.normalize = .ok d ∧ IsKebabName "dev-ops".toList ∧ IsKebabName d.slug.toList ∧
      IsKebabName "rust-lang".toList := by
  intro r d
  have hd : r.normalize = .ok d := by decide +kernel
  obtain ⟨hcategory, hslug, -, -, -, htags, -⟩ := names_of_normalize hd
  refine ⟨hd, hcategory _ rfl, hslug.resolve_left (by decide), ?_⟩
  exact ((htags "rust-lang" (by decide)).resolve_left (by decide)).1

/-- Records of whose ids, or of whose tags, nothing is left are accepted: a document has an empty
slug, and another one shares a tag with it that has no letter or digit. -/
theorem normalize_keeps_empty_names :
    let r : RawRecord := { id := some "///", title := some "T", tags := some ["!"] }
    let q : RawRecord := { id := some "a", title := some "A", tags := some ["?"] }
    let d : Document := { id := "///", slug := "", title := "T", tags := [""] }
    let e : Document := { id := "a", slug := "a", title := "A", tags := [""] }
    r.normalize = .ok d ∧ q.normalize = .ok e ∧ ¬ IsKebabName d.slug.toList ∧
      d.permalink "/docs" = "/docs/" ∧ ¬ (∀ t ∈ d.tags, IsKebabName t.toList) ∧
      ∃ t ∈ d.tags, t ∈ e.tags ∧ ¬ ∃ c ∈ t.toList, Text.isAlphanumeric c := by
  intro r q d e
  have hempty : ¬ IsKebabName "".toList := by
    intro h
    obtain ⟨c, hc, -⟩ := h.exists_isNameChar
    exact absurd hc List.not_mem_nil
  refine ⟨by decide +kernel, by decide +kernel, hempty, by decide +kernel, ?_, ?_⟩
  · intro htags
    exact hempty (htags "" List.mem_cons_self)
  · refine ⟨"", List.mem_cons_self, List.mem_cons_self, ?_⟩
    rintro ⟨c, hc, -⟩
    exact absurd hc List.not_mem_nil

end DocSite
