import DocSite.Proofs.Date
import DocSite.Proofs.Json.Fields
import DocSite.Record.Json

/-!
# Records and documents come back from JSON

A heading whose depth is a byte, a record and a document are read back from what is written of them
(`Heading.ofJson?_toJson`, `RawRecord.ofJson?_toJson`, `Document.ofJson?_toJson`); of a document the
body text is not written. Their values can be printed and read (`isReadable_toJson`).
-/

namespace DocSite

open Json

/-! ### Parts -/

theorem Date.undoes_toJson : Undoes ofJson? toJson :=
  ⟨fun _ => Json.noConfusion, ofJsonText?_text⟩

theorem Date.isReadable_toJson (a : Date) : IsReadable a.toJson :=
  .string a.text

theorem isReadable_stringsJson (xs : List String) : IsReadable (stringsJson xs) := by
  refine .array fun v hv => ?_
  obtain ⟨s, -, rfl⟩ := List.mem_map.mp hv
  exact .string s

theorem undoes_stringsJson : Undoes (list string?) stringsJson :=
  ⟨fun _ => Json.noConfusion, fun _ => list_array_map fun _ _ => rfl⟩

namespace Heading

/-- A depth that a byte holds. -/
def HasByteDepth (h : Heading) : Prop :=
  h.depth < 256

instance (h : Heading) : Decidable h.HasByteDepth :=
  inferInstanceAs (Decidable (_ < _))

theorem isReadable_toJson (h : Heading) : IsReadable h.toJson := by
  refine .object fun m hm => ?_
  simp only [List.mem_cons, List.not_mem_nil, or_false] at hm
  rcases hm with rfl | rfl | rfl
  · exact .integer h.depth
  · exact .string h.slug
  · exact .string h.text

theorem ofJson?_toJson {h : Heading} (hdepth : h.HasByteDepth) : ofJson? h.toJson = some h := by
  have hnat : natBelow? 256 (.integer h.depth) = some h.depth := by
    have hbounds : (0 : Int) ≤ h.depth ∧ (h.depth : Int) < (256 : ℕ) :=
      ⟨Int.natCast_nonneg _, Int.ofNat_lt.mpr hdepth⟩
    rw [natBelow?, if_pos hbounds, Int.toNat_natCast]
  simp [ofJson?, toJson, fields?, member?_cons, required, hnat, string?]

end Heading

theorem isReadable_headings (hs : List Heading) : IsReadable (.array (hs.map Heading.toJson)) := by
  refine .array fun v hv => ?_
  obtain ⟨h, -, rfl⟩ := List.mem_map.mp hv
  exact h.isReadable_toJson

theorem list_headings {hs : List Heading} (h : ∀ heading ∈ hs, heading.HasByteDepth) :
    list Heading.ofJson? (.array (hs.map Heading.toJson)) = some hs :=
  list_array_map fun heading hheading => Heading.ofJson?_toJson (h heading hheading)

/-! ### Records -/

namespace RawRecord

theorem ofJson?_toJson {r : RawRecord} (h : ∀ heading ∈ r.headings, heading.HasByteDepth) :
    ofJson? r.toJson = some r := by
  have htags := undoes_stringsJson.optional_getD r.tags
  have hdraft := undoes_bool.optional_getD r.draft
  have hdate := Date.undoes_toJson.optional_getD r.date
  simp [ofJson?, toJson, fields?, member?_cons, optional_ofString?, htags, hdraft, hdate,
    list_headings h]

theorem isReadable_getD {α : Type} {encode : α → Json} (h : ∀ a, IsReadable (encode a))
    (a : Option α) : IsReadable ((a.map encode).getD .null) := by
  cases a with
  | none => exact .null
  | some a => exact h a

theorem isReadable_toJson (r : RawRecord) : IsReadable r.toJson := by
  refine .object fun m hm => ?_
  simp only [List.mem_cons, List.not_mem_nil, or_false] at hm
  rcases hm with rfl | rfl | rfl | rfl | rfl | rfl | rfl | rfl | rfl | rfl
  any_goals exact isReadable_ofString? _
  · exact isReadable_getD isReadable_stringsJson r.tags
  · exact isReadable_getD .bool r.draft
  · exact isReadable_getD Date.isReadable_toJson r.date
  · exact isReadable_headings r.headings

end RawRecord

/-! ### Documents -/

namespace Document

theorem member?_optionalMember (name other : String) (v : Option Json) :
    member? name (.object (optionalMember other v)) = if other = name then v else none := by
  cases v with
  | none => simp [optionalMember]
  | some v => exact member?_singleton (other, v)

/-- A document is read back without its body text. -/
theorem ofJson?_toJson {d : Document} (h : ∀ heading ∈ d.headings, heading.HasByteDepth) :
    ofJson? d.toJson = some { d with bodyText := "" } := by
  have hdescription := undoes_string.optional_map d.description
  have hcategory := undoes_string.optional_map d.category
  have hdate := Date.undoes_toJson.optional_map d.date
  have htags : list string? (stringsJson d.tags) = some d.tags :=
    undoes_stringsJson.decode_encode d.tags
  have hheadings : withDefault [] (list Heading.ofJson?)
      (if d.headings.isEmpty then none else some (.array (d.headings.map Heading.toJson))) =
        some d.headings := by
    split_ifs with hempty
    · rw [List.isEmpty_iff.mp hempty]
      rfl
    · exact list_headings h
  rw [toJson]
  generalize (if d.headings.isEmpty then none else some _) = headings at hheadings ⊢
  simp [ofJson?, fields?, member?_cons, member?_append, member?_optionalMember, required, string?,
    hdescription, hcategory, hdate, hheadings, htags, bool?]

theorem isReadable_of_mem_optionalMember {name : String} {v : Option Json} {m : String × Json}
    (hv : ∀ w ∈ v, IsReadable w) (hm : m ∈ optionalMember name v) : IsReadable m.2 := by
  cases v with
  | none => exact absurd hm List.not_mem_nil
  | some v =>
    obtain rfl := List.mem_singleton.mp hm
    exact hv v rfl

theorem isReadable_of_mem_map {α : Type} {encode : α → Json} (h : ∀ a, IsReadable (encode a))
    {a : Option α} {w : Json} (hw : w ∈ a.map encode) : IsReadable w := by
  obtain ⟨a, -, rfl⟩ := Option.mem_map.mp hw
  exact h a

theorem isReadable_toJson (d : Document) : IsReadable d.toJson := by
  refine .object fun m hm => ?_
  simp only [List.mem_append, List.mem_cons, List.not_mem_nil, or_false, or_assoc] at hm
  rcases hm with rfl | rfl | rfl | hm | hm | rfl | rfl | hm | hm
  · exact .string d.id
  · exact .string d.slug
  · exact .string d.title
  · exact isReadable_of_mem_optionalMember (fun _ => isReadable_of_mem_map .string) hm
  · exact isReadable_of_mem_optionalMember (fun _ => isReadable_of_mem_map .string) hm
  · exact isReadable_stringsJson d.tags
  · exact .bool d.draft
  · exact isReadable_of_mem_optionalMember
      (fun _ => isReadable_of_mem_map Date.isReadable_toJson) hm
  · refine isReadable_of_mem_optionalMember (fun w hw => ?_) hm
    split_ifs at hw with hempty
    · cases hw
    · obtain rfl := Option.some.inj hw
      exact isReadable_headings d.headings

end Document

/-! ### Texts -/

/-- The texts in which a record or a document is written, on one line or on several, are read back
as the record, and as the document without its body text. -/
theorem read_written_json :
    (∀ r : RawRecord, (∀ heading ∈ r.headings, heading.HasByteDepth) →
      (read? r.toJson.text).bind RawRecord.ofJson? = some r ∧
        (read? r.toJson.pretty).bind RawRecord.ofJson? = some r) ∧
    ∀ d : Document, (∀ heading ∈ d.headings, heading.HasByteDepth) →
      (read? d.toJson.text).bind Document.ofJson? = some { d with bodyText := "" } ∧
        (read? d.toJson.pretty).bind Document.ofJson? = some { d with bodyText := "" } := by
  constructor
  · intro r hdepth
    rw [← RawRecord.ofJson?_toJson hdepth]
    exact bind_read? r.isReadable_toJson RawRecord.ofJson?
  · intro d hdepth
    rw [← Document.ofJson?_toJson hdepth]
    exact bind_read? d.isReadable_toJson Document.ofJson?

/-- Years with a sign, fields that are empty and fields that are unset. -/
theorem read_written_json_of_signed_years :
    let r : RawRecord :=
      { id := some "", tags := some [], draft := some false, date := Date.of? 262142 12 31,
        headings := [⟨255, "", "\x00\"é\\"⟩] }
    let d : Document :=
      { id := "a", slug := "", title := "\n", category := some "", date := Date.of? (-4) 2 29,
        bodyText := "text" }
    ((read? r.toJson.text).bind RawRecord.ofJson? = some r ∧
      (read? r.toJson.pretty).bind RawRecord.ofJson? = some r) ∧
    (read? d.toJson.text).bind Document.ofJson? = some { d with bodyText := "" } ∧
      (read? d.toJson.pretty).bind Document.ofJson? = some { d with bodyText := "" } :=
  ⟨read_written_json.1 _ (by decide), read_written_json.2 _ (by decide)⟩

end DocSite
