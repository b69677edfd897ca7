import DocSite.Program
import DocSite.Proofs.Answer.Json
import DocSite.Proofs.Answer.Text
import DocSite.Proofs.Except

/-!
# The pages that are printed cover the listing

* `result_run_eq_ok_iff`: a run prints an answer exactly if it has settings, which are then valid,
  and a listing, and its command has an answer.
* `answer_list_of_getElem?` and `answer_list_eq_error`: the question for a page is answered with
  this page, the documents of which are printed (`exists_answer_list`), or with how many there are.
* `pages_cover_listing` puts these together with what pages are (`IsPagination`): the pages that can
  be asked for print each document of the listing once, in its order.
-/

namespace DocSite

/-! ### Runs that print an answer -/

theorem validate_eq_ok_iff {s t : Settings} : s.validate = .ok t ↔ s.fault? = none ∧ s = t := by
  rw [Settings.validate]
  cases s.fault? <;> simp

theorem pageSize_pos {s : Settings} (h : s.validate = .ok s) : 0 < s.listing.pageSize := by
  obtain ⟨hfault, -⟩ := validate_eq_ok_iff.mp h
  rw [Settings.fault?] at hfault
  split_ifs at hfault with _ _ hzero
  exact Nat.pos_of_ne_zero hzero

/-- The settings of an invocation are valid. -/
theorem validate_settings {i : Invocation} {environment : String → Option String} {d : Disk}
    {s : Settings} (h : i.settings environment d = .ok s) : s.validate = .ok s := by
  -- Wherever the settings come from, they are checked last.
  have hvalidate : ∃ t : Settings, t.validate = .ok s := by
    rw [Invocation.settings] at h
    split at h
    · obtain ⟨t, -, ht⟩ := bind_eq_ok_iff.mp h
      exact ⟨_, mapError_eq_ok_iff.mp ht⟩
    · obtain ⟨t, -, ht⟩ := bind_eq_ok_iff.mp h
      exact ⟨_, mapError_eq_ok_iff.mp ht⟩
  obtain ⟨t, ht⟩ := hvalidate
  obtain ⟨-, rfl⟩ := validate_eq_ok_iff.mp ht
  exact ht

theorem result_run_eq_answer {environment : String → Option String} {args : List String}
    {i : Invocation} (hi : Invocation.ofArguments environment args = .ok i)
    (hstore : i.command ≠ .storeSettings) (d : Disk) :
    (run environment args d).result = i.answer environment d := by
  rw [run, hi]
  simp only [Invocation.run, if_neg hstore]

/-- A run with a command about documents prints a text exactly if there are valid settings and a
listing, and the text is the command's answer. -/
theorem result_run_eq_ok_iff_answer {environment : String → Option String} {args : List String}
    {i : Invocation} (hi : Invocation.ofArguments environment args = .ok i)
    (hstore : i.command ≠ .storeSettings) (hprint : i.command ≠ .printSettings) {d : Disk}
    {text : String} :
    (run environment args d).result = .ok text ↔
      ∃ s docs, i.settings environment d = .ok s ∧ s.validate = .ok s ∧
        s.documents d = .ok docs ∧ i.command.answer s docs = .ok text := by
  rw [result_run_eq_answer hi hstore, Invocation.answer, bind_eq_ok_iff]
  simp only [mapError_eq_ok_iff, if_neg hprint, bind_eq_ok_iff]
  constructor
  · rintro ⟨s, hs, docs, hdocs, hanswer⟩
    exact ⟨s, docs, hs, validate_settings hs, hdocs, hanswer⟩
  · rintro ⟨s, docs, hs, -, hdocs, hanswer⟩
    exact ⟨s, hs, docs, hdocs, hanswer⟩

/-- A run that asks for a page prints a text exactly if there are valid settings and a listing, and
the text is the answer. -/
theorem result_run_eq_ok_iff {environment : String → Option String} {args : List String}
    {i : Invocation} (hi : Invocation.ofArguments environment args = .ok i) {number : ℕ}
    {json : Bool} (hcommand : i.command = .list number json) {d : Disk} {text : String} :
    (run environment args d).result = .ok text ↔
      ∃ s docs, i.settings environment d = .ok s ∧ s.validate = .ok s ∧
        s.documents d = .ok docs ∧ Command.answer s docs (.list number json) = .ok text := by
  rw [result_run_eq_ok_iff_answer hi (hcommand ▸ Command.noConfusion)
    (hcommand ▸ Command.noConfusion), hcommand]

/-! ### The question for a page -/

/-- The text of a page, as lines or as JSON. -/
def pageText (route : String) (json : Bool) (p : Page) : String :=
  if json then (Answer.pageRows route p.items).pretty ++ "\n"
  else Answer.ofLines (Answer.page route p)

variable {s : Settings} {docs : List Document} {pages : List Page}

theorem answer_list_of_getElem? (h : paginate docs s.listing.pageSize = .ok pages) {k : ℕ}
    {p : Page} (hp : pages[k]? = some p) (json : Bool) :
    Command.answer s docs (.list (k + 1) json) =
      .ok (pageText s.content.routePrefix json p) := by
  have hne : pages.isEmpty = false := by
    rw [List.isEmpty_eq_false_iff]
    rintro rfl
    cases hp
  rw [Command.answer, pageAnswer, h]
  simp only [Except.mapError, bind, Except.bind, hne, Bool.false_eq_true, if_false,
    Nat.add_one_ne_zero, Nat.add_sub_cancel, hp]
  cases json <;> rfl

/-- What is printed for a page has its documents, on lines or as rows of JSON. -/
theorem exists_answer_list (h : paginate docs s.listing.pageSize = .ok pages) {k : ℕ} {p : Page}
    (hp : pages[k]? = some p) (json : Bool) :
    ∃ text, Command.answer s docs (.list (k + 1) json) = .ok text ∧
      (json = false → Answer.WritesPage s.content.routePrefix p text) ∧
      (json = true → Answer.WritesRows s.content.routePrefix p.items text) := by
  refine ⟨_, answer_list_of_getElem? h hp json, ?_, ?_⟩
  · rintro rfl
    exact Answer.writesPage_ofLines s.content.routePrefix p
  · rintro rfl
    exact Answer.writesRows_pageRows s.content.routePrefix p.items

theorem answer_list_eq_error (h : paginate docs s.listing.pageSize = .ok pages)
    (hpages : pages ≠ []) {number : ℕ} (hnumber : ¬ (1 ≤ number ∧ number ≤ pages.length))
    (json : Bool) :
    Command.answer s docs (.list number json) = .error (.noPage number pages.length) := by
  have hnone : (if number = 0 then none else pages[number - 1]?) = none := by
    split_ifs with hzero
    · rfl
    · exact List.getElem?_eq_none (by omega)
  rw [Command.answer, pageAnswer, h]
  simp only [Except.mapError, bind, Except.bind, List.isEmpty_eq_false_iff.mpr hpages,
    Bool.false_eq_true, if_false, hnone]
  rfl

/-- A page is printed exactly if it is one of the pages. -/
theorem exists_answer_list_iff (h : paginate docs s.listing.pageSize = .ok pages)
    (hpages : pages ≠ []) (number : ℕ) (json : Bool) :
    (∃ text, Command.answer s docs (.list number json) = .ok text) ↔
      1 ≤ number ∧ number ≤ pages.length := by
  constructor
  · rintro ⟨text, htext⟩
    by_contra hnumber
    rw [answer_list_eq_error h hpages hnumber] at htext
    cases htext
  · rintro ⟨hpos, hle⟩
    obtain ⟨k, rfl⟩ := Nat.exists_eq_add_of_le' hpos
    exact ⟨_, answer_list_of_getElem? h (List.getElem?_eq_getElem hle) json⟩

/-! ### All pages together -/

/-- **Pages cover the listing.** A listing is cut into pages of any positive size; put together they
are the listing, and each of them knows its place. With valid settings and a listing that is not
empty, the question for a page is answered exactly if there is a page with this number. The text
that is printed then has the documents of this page in their order, each on a line of its own below
the name of its group, or in a row of JSON. A run that asks for a page prints this answer. -/
theorem pages_cover_listing :
    (∀ (docs : List Document) (pageSize : ℕ), 0 < pageSize →
        ∃ pages, paginate docs pageSize = .ok pages ∧ IsPagination docs pageSize pages) ∧
      (∀ (s : Settings) (docs : List Document), s.validate = .ok s → docs ≠ [] →
        ∃ pages, paginate docs s.listing.pageSize = .ok pages ∧
          (∀ number json, (∃ text, Command.answer s docs (.list number json) = .ok text) ↔
            1 ≤ number ∧ number ≤ pages.length) ∧
          (∀ number json, ¬ (1 ≤ number ∧ number ≤ pages.length) →
            Command.answer s docs (.list number json) = .error (.noPage number pages.length)) ∧
          (∀ k p, pages[k]? = some p → ∀ json, ∃ text,
            Command.answer s docs (.list (k + 1) json) = .ok text ∧
              (json = false → Answer.WritesPage s.content.routePrefix p text) ∧
              (json = true → Answer.WritesRows s.content.routePrefix p.items text)) ∧
          pages.flatMap (·.items) = docs) ∧
      ∀ environment args i number json, Invocation.ofArguments environment args = .ok i →
        i.command = .list number json → ∀ d text, (run environment args d).result = .ok text ↔
          ∃ s docs, i.settings environment d = .ok s ∧ s.validate = .ok s ∧
            s.documents d = .ok docs ∧
            Command.answer s docs (.list number json) = .ok text := by
  have hpaginate (docs : List Document) {pageSize : ℕ} (hsize : 0 < pageSize) :
      ∃ pages, paginate docs pageSize = .ok pages ∧ IsPagination docs pageSize pages :=
    ⟨_, paginate_eq_ok_iff.mpr ⟨hsize, rfl⟩,
      isPagination_of_paginate (paginate_eq_ok_iff.mpr ⟨hsize, rfl⟩)⟩
  refine ⟨fun docs pageSize => hpaginate docs, fun s docs hs hdocs => ?_,
    fun environment args i number json hi hcommand d text => result_run_eq_ok_iff hi hcommand⟩
  obtain ⟨pages, hpages, hpagination⟩ := hpaginate docs (pageSize_pos hs)
  have hne : pages ≠ [] := by
    rintro rfl
    exact hdocs hpagination.flatMap_items.symm
  exact ⟨pages, hpages, exists_answer_list_iff hpages hne,
    fun number json hnumber => answer_list_eq_error hpages hne hnumber json,
    fun k p hp => exists_answer_list hpages hp, hpagination.flatMap_items⟩

/-- Three documents on pages of two: the command line asks for the second page, whose only document
is printed as a row of JSON or on a line, and the third page is refused. -/
theorem pages_cover_listing_of_second_page :
    let environment : String → Option String := fun _ => none
    let args := ["list", "--page", "+2", "--json"]
    let i : Invocation := { command := .list 2 true }
    let s : Settings := { listing := { pageSize := 2 } }
    let last : Document := { id := "c", slug := "c", title := "C" }
    let docs : List Document := [{ id := "a", slug := "a", title := "A" },
      { id := "b", slug := "b", title := "B" }, last]
    Invocation.ofArguments environment args = .ok i ∧ i.command = .list 2 true ∧
      s.validate = .ok s ∧ docs ≠ [] ∧ 0 < s.listing.pageSize ∧
      (∃ text, Command.answer s docs i.command = .ok text ∧
        Answer.WritesRows "/docs" [last] text) ∧
      (∃ text, Command.answer s docs (.list 2 false) = .ok text ∧
        Answer.WritesPage "/docs" ⟨2, 2, [last]⟩ text) ∧
      Command.answer s docs (.list 3 false) = .error (.noPage 3 2) ∧
      ∀ d text, (run environment args d).result = .ok text →
        ∃ t listing, i.settings environment d = .ok t ∧ t.documents d = .ok listing := by
  intro environment args i s last docs
  have hi : Invocation.ofArguments environment args = .ok i := by decide
  have hs : s.validate = .ok s := by decide
  have hdocs : docs ≠ [] := List.cons_ne_nil _ _
  obtain ⟨-, hlist, hrun⟩ := pages_cover_listing
  obtain ⟨pages, hpages, -, hrefused, hprinted, -⟩ := hlist s docs hs hdocs
  have hcut : paginate docs s.listing.pageSize = .ok [⟨1, 2, docs.take 2⟩, ⟨2, 2, [last]⟩] :=
    paginate_eq_ok_iff.mpr ⟨by decide, by simp [chunks, numbered, docs, s]⟩
  obtain rfl := Except.ok.inj (hpages.symm.trans hcut)
  obtain ⟨rows, hrows, -, hwritten⟩ := hprinted 1 _ rfl true
  obtain ⟨lines, hlines, hwritten', -⟩ := hprinted 1 _ rfl false
  refine ⟨hi, rfl, hs, hdocs, by decide, ⟨rows, hrows, hwritten rfl⟩,
    ⟨lines, hlines, hwritten' rfl⟩, hrefused 3 false (by decide), fun d text h => ?_⟩
  obtain ⟨t, listing, ht, -, hlisting, -⟩ := (hrun environment args i 2 true hi rfl d text).mp h
  exact ⟨t, listing, ht, hlisting⟩

end DocSite
