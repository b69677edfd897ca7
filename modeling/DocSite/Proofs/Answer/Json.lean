import DocSite.Answer.Json
import DocSite.Proofs.Number.Decimal
import DocSite.Proofs.Record.RoundTrip
import Mathlib.Data.List.Forall2

/-!
# What is printed as JSON

* `WritesRows`: a text is one JSON array with a row for each of some documents.
* `writesRows_pageRows` and `writesRows_relatedRows`: so are the answers in JSON.
-/

namespace DocSite.Answer

/-! ### Rows -/

/-- A row names a document by its slug, its title and its address. -/
structure IsRow (route : String) (d : Document) (row : Json) : Prop where
  slug : row.member? "slug" = some (.string d.slug)
  title : row.member? "title" = some (.string d.title)
  permalink : row.member? "permalink" = some (.string (d.permalink route))

/-- A text is one JSON array with a row for each of some documents, in their order. -/
def WritesRows (route : String) (docs : List Document) (text : String) : Prop :=
  ∃ rows, Json.read? text = some (.array rows) ∧ List.Forall₂ (IsRow route) docs rows

theorem isRow_pageRow (route : String) (d : Document) : IsRow route d (pageRow route d) := by
  constructor <;> simp [pageRow, Json.member?_cons]

theorem isRow_relatedRow (route : String) (s : Scored) :
    IsRow route s.document (relatedRow route s) := by
  constructor <;> simp [relatedRow, Json.member?_cons]

theorem isReadable_pageRow (route : String) (d : Document) : (pageRow route d).IsReadable := by
  refine .object fun m hm => ?_
  simp only [List.mem_cons, List.not_mem_nil, or_false] at hm
  rcases hm with rfl | rfl | rfl | rfl | rfl
  · exact .string d.slug
  · exact .string d.title
  · exact .string d.group
  · exact isReadable_stringsJson d.tags
  · exact .string (d.permalink route)

theorem isReadable_relatedRow (route : String) (s : Scored) :
    (relatedRow route s).IsReadable := by
  refine .object fun m hm => ?_
  simp only [List.mem_cons, List.not_mem_nil, or_false] at hm
  rcases hm with rfl | rfl | rfl | rfl
  · exact .string s.document.slug
  · exact .string s.document.title
  · exact .string (s.document.permalink route)
  · exact .decimal (Number.isDecimal_shortestText s.score)

/-- An array of readable rows is printed as one that is read back. -/
theorem writesRows_map {α : Type} {route : String} {row : α → Json} {document : α → Document}
    (hread : ∀ a, (row a).IsReadable) (hrow : ∀ a, IsRow route (document a) (row a))
    (as : List α) :
    WritesRows route (as.map document) ((Json.array (as.map row)).pretty ++ "\n") := by
  refine ⟨as.map row, Json.read?_pretty_append_line (.array fun v hv => ?_), ?_⟩
  · obtain ⟨a, -, rfl⟩ := List.mem_map.mp hv
    exact hread a
  · rw [List.forall₂_map_left_iff, List.forall₂_map_right_iff, List.forall₂_same]
    exact fun a _ => hrow a

theorem writesRows_pageRows (route : String) (docs : List Document) :
    WritesRows route docs ((pageRows route docs).pretty ++ "\n") := by
  have hrows := writesRows_map (isReadable_pageRow route) (isRow_pageRow route) docs
  rwa [List.map_id'] at hrows

theorem writesRows_relatedRows (route : String) (ranked : List Scored) :
    WritesRows route (ranked.map (·.document)) ((relatedRows route ranked).pretty ++ "\n") :=
  writesRows_map (isReadable_relatedRow route) (isRow_relatedRow route) ranked

end DocSite.Answer
