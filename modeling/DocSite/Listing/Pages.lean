import DocSite.Error
import DocSite.Record.Basic

/-!
# Pages of a listing

* `chunks` cuts a list into pieces of a size, the last one possibly shorter.
* `paginate` numbers the pieces of a listing from 1; an empty listing has no pages, and pages of
  size zero are refused.
-/

namespace DocSite

/-- One page of a listing. -/
structure Page where
  number : Nat
  totalPages : Nat
  items : List Document

namespace Page

/-- Whether a page comes before this one. -/
def hasPrevious (p : Page) : Bool :=
  1 < p.number

/-- Whether a page comes after this one. -/
def hasNext (p : Page) : Bool :=
  p.number < p.totalPages

end Page

/-- The list cut into pieces of `size`; no pieces for size zero. -/
def chunks {α : Type} (size : Nat) (xs : List α) : List (List α) :=
  if _h : xs = [] ∨ size = 0 then []
  else xs.take size :: chunks size (xs.drop size)
termination_by xs.length
decreasing_by
  have : 0 < xs.length := List.length_pos_iff.mpr fun e => _h (.inl e)
  simp only [List.length_drop]
  omega

/-- The pages of a listing. -/
def paginate (docs : List Document) (pageSize : Nat) : Except SiteError (List Page) :=
  if pageSize = 0 then .error .emptyPages
  else
    let pieces := chunks pageSize docs
    .ok (pieces.zipIdx.map fun (items, i) => ⟨i + 1, pieces.length, items⟩)

end DocSite
