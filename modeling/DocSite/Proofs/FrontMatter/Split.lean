import DocSite.FrontMatter.Fields
import DocSite.Proofs.FrontMatter.Pattern

/-!
# How a page is read

`readWith` reads a page by its lines, for every reader of the fields.

* `ReadsAs` says what a page without a byte order mark reads as, in terms of its cut at the
  delimiter lines, and `readWith_eq_iff` that it reads so and in no other way.
* `split_lines`: front matter that is written between two delimiter lines is read back.
* `readWith_by_lines` puts them together with the cuts of `Proofs.FrontMatter.Lines` and the pattern
  of `Proofs.FrontMatter.Pattern`.
-/

namespace DocSite.FrontMatter

/-- What a page without a byte order mark reads as: a page that has no cut is all body; else its
body follows the cut, and the fields are read from the block unless that is blank. -/
inductive ReadsAs (read : List Char → Except FrontMatterFault FrontMatter) (text : List Char) :
    Except FrontMatterFault (FrontMatter × List Char) → Prop
  | plain (h : ∀ opening block closing body, ¬ IsCut text opening block closing body) :
      ReadsAs read text (.ok ({}, text))
  | blank {opening block closing body : List Char} (h : IsCut text opening block closing body)
      (hblank : ∀ c ∈ block, Text.isBlank c) : ReadsAs read text (.ok ({}, body))
  | fields {opening block closing body : List Char} {fields : FrontMatter}
      (h : IsCut text opening block closing body) (hblank : ¬ ∀ c ∈ block, Text.isBlank c)
      (hread : read block = .ok fields) : ReadsAs read text (.ok (fields, body))
  | fault {opening block closing body : List Char} {fault : FrontMatterFault}
      (h : IsCut text opening block closing body) (hblank : ¬ ∀ c ∈ block, Text.isBlank c)
      (hread : read block = .error fault) : ReadsAs read text (.error fault)

variable {read : List Char → Except FrontMatterFault FrontMatter}

/-- One byte order mark is dropped, and nothing else. -/
theorem dropMark_eq_or (content : List Char) :
    content = '\ufeff' :: dropMark content ∨
      content.head? ≠ some '\ufeff' ∧ dropMark content = content := by
  cases content with
  | nil => exact .inr ⟨by simp, rfl⟩
  | cons c rest =>
    by_cases hc : c = '\ufeff'
    · exact .inl (by rw [dropMark, if_pos hc, hc])
    · exact .inr ⟨by simpa using hc, if_neg hc⟩

theorem readWith_of_split_eq_none {content : List Char} (h : split (dropMark content) = none) :
    readWith read content = .ok ({}, dropMark content) := by
  rw [readWith, h]

theorem readWith_of_split_eq_some {content block body : List Char}
    (h : split (dropMark content) = some (block, body)) :
    readWith read content =
      if block.all Text.isBlank then .ok ({}, body)
      else (read block).map fun fields => (fields, body) := by
  rw [readWith, h]

theorem split_eq_none_iff {text : List Char} :
    split text = none ↔ ∀ opening block closing body, ¬ IsCut text opening block closing body := by
  rw [Option.eq_none_iff_forall_ne_some]
  constructor
  · intro h opening block closing body hcut
    exact h (block, body) (split_eq_some_iff.mpr ⟨opening, closing, hcut⟩)
  · rintro h ⟨block, body⟩ hsplit
    obtain ⟨opening, closing, hcut⟩ := split_eq_some_iff.mp hsplit
    exact h opening block closing body hcut

theorem ReadsAs.readWith_eq {content : List Char}
    {result : Except FrontMatterFault (FrontMatter × List Char)}
    (h : ReadsAs read (dropMark content) result) : readWith read content = result := by
  cases h with
  | plain h => exact readWith_of_split_eq_none (split_eq_none_iff.mpr h)
  | blank h hblank =>
    rw [readWith_of_split_eq_some (split_eq_some_iff.mpr ⟨_, _, h⟩),
      if_pos (List.all_eq_true.mpr hblank)]
  | fields h hblank hread =>
    rw [readWith_of_split_eq_some (split_eq_some_iff.mpr ⟨_, _, h⟩),
      if_neg (List.all_eq_true.not.mpr hblank), hread]
    rfl
  | fault h hblank hread =>
    rw [readWith_of_split_eq_some (split_eq_some_iff.mpr ⟨_, _, h⟩),
      if_neg (List.all_eq_true.not.mpr hblank), hread]
    rfl

/-- Every page reads in some way. -/
theorem readsAs_readWith (read : List Char → Except FrontMatterFault FrontMatter)
    (content : List Char) : ReadsAs read (dropMark content) (readWith read content) := by
  cases hsplit : split (dropMark content) with
  | none =>
    rw [readWith_of_split_eq_none hsplit]
    exact .plain (split_eq_none_iff.mp hsplit)
  | some cut =>
    obtain ⟨block, body⟩ := cut
    obtain ⟨opening, closing, hcut⟩ := split_eq_some_iff.mp hsplit
    rw [readWith_of_split_eq_some hsplit]
    split_ifs with hblank
    · exact .blank hcut (List.all_eq_true.mp hblank)
    · have hblank' : ¬ ∀ c ∈ block, Text.isBlank c := List.all_eq_true.not.mp hblank
      cases hread : read block with
      | ok fields => exact .fields hcut hblank' hread
      | error fault => exact .fault hcut hblank' hread

theorem readWith_eq_iff {content : List Char}
    {result : Except FrontMatterFault (FrontMatter × List Char)} :
    readWith read content = result ↔ ReadsAs read (dropMark content) result :=
  ⟨fun h => h ▸ readsAs_readWith read content, ReadsAs.readWith_eq⟩

/-- A block between two delimiter lines is cut out again, whatever follows. -/
theorem split_lines {yaml : List Char} (h : IsBlock yaml) (body : List Char) :
    split ("---\n".toList ++ yaml ++ "---\n".toList ++ body) = some (yaml, body) := by
  have hdashes : IsDelimiterLine "---".toList := ⟨[], List.forall_mem_nil _, .inl rfl⟩
  have hclosing : IsClosing "---\n".toList body := ⟨_, hdashes, .inl rfl⟩
  have hcut : IsCut ("---\n".toList ++ yaml ++ "---\n".toList ++ body) "---\n".toList yaml
      "---\n".toList body := ⟨rfl, ⟨_, hdashes, rfl⟩, h, hclosing⟩
  exact split_eq_some_iff.mpr ⟨_, _, hcut⟩

/-- A page is read by its lines. One byte order mark is dropped. What is left has front matter
exactly if its first line and a later one are delimiter lines; it is then cut into the first line,
the block, the first later delimiter line and the body, as the pattern cuts it, and it reads as
these parts say. Lines between two delimiter lines are read back. -/
theorem readWith_by_lines (read : List Char → Except FrontMatterFault FrontMatter)
    (content : List Char) :
    (content = '\ufeff' :: dropMark content ∨
      content.head? ≠ some '\ufeff' ∧ dropMark content = content) ∧
    (∀ result, readWith read content = result ↔ ReadsAs read (dropMark content) result) ∧
    ((∃ opening block closing body, IsCut (dropMark content) opening block closing body) ↔
      ∃ first rest, (dropMark content).splitOn '\n' = first :: rest ∧ IsDelimiterLine first ∧
        ∃ line ∈ rest, IsDelimiterLine line) ∧
    (∀ block body, (∃ opening closing, IsCut (dropMark content) opening block closing body) ↔
      ((pattern.find? (dropMark content)).map fun e => (e.group, e.after)) = some (block, body)) ∧
    ∀ yaml body, IsBlock yaml →
      split ("---\n".toList ++ yaml ++ "---\n".toList ++ body) = some (yaml, body) ∧
      readWith read ("---\n".toList ++ yaml ++ "---\n".toList ++ body) =
        if yaml.all Text.isBlank then .ok ({}, body)
        else (read yaml).map fun fields => (fields, body) := by
  refine ⟨dropMark_eq_or content, fun result => readWith_eq_iff, exists_isCut_iff, ?_, ?_⟩
  · intro block body
    rw [find?_pattern, split_eq_some_iff]
  · intro yaml body hyaml
    have hsplit := split_lines hyaml body
    have hmark : dropMark ("---\n".toList ++ yaml ++ "---\n".toList ++ body) =
        "---\n".toList ++ yaml ++ "---\n".toList ++ body := rfl
    exact ⟨hsplit, readWith_of_split_eq_some (hmark.symm ▸ hsplit)⟩

/-- Dashes inside a line and a line that starts with four of them are no delimiter lines, and a byte
order mark changes nothing. -/
theorem readWith_by_lines_of_dashes :
    let yaml := "title: A --- B\r\n----: C\n".toList
    let body := "---\n".toList
    let page := "---\n".toList ++ yaml ++ "---\n".toList ++ body
    IsBlock yaml ∧ readWith ofText page = .ok ({ title := some "A --- B" }, body) ∧
      ∃ opening closing, IsCut (dropMark ('\ufeff' :: page)) opening yaml closing body := by
  intro yaml body page
  have hblock : IsBlock yaml :=
    ⟨["title: A --- B\r".toList, "----: C".toList], by decide, by decide⟩
  have hfields : ofText yaml = .ok { title := some "A --- B" } := by decide +kernel
  obtain ⟨-, -, -, hpattern, hlines⟩ := readWith_by_lines ofText ('\ufeff' :: page)
  obtain ⟨-, hread⟩ := hlines yaml body hblock
  rw [hfields] at hread
  exact ⟨hblock, hread, (hpattern yaml body).mpr (by decide +kernel)⟩

end DocSite.FrontMatter
