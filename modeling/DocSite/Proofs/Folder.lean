import DocSite.Folder
import DocSite.Proofs.Disk
import DocSite.Proofs.Text.Bytes

/-!
# The ids of pages

* `names_pageId`: where all names on the way to a page are texts, its id determines them. Other
  names can share an id, because their bytes are replaced in it.
* `resolve_content` finds a folder that stands at the top of a disk, and `proper_content` is about a
  disk with nothing else.
-/

namespace DocSite.Folder

open FileTree (IsName)
open Text (IsText)

theorem utf8_pageId {names : List Bytes} (h : ∀ n ∈ names, IsText n) :
    Text.utf8 (pageId names) = [Path.slash].intercalate names := by
  have hmap : (names.map Text.lossy).map Text.utf8 = names := by
    rw [List.map_map]
    exact (List.map_congr_left h).trans (List.map_id names)
  rw [pageId, Text.utf8_intercalate, hmap]
  rfl

/-- The names on the way to a page are those of its id, if they are texts. -/
theorem names_pageId {names : List Bytes} (h : ∀ n ∈ names, IsName n)
    (htext : ∀ n ∈ names, IsText n) : Path.names (pageId names) = names := by
  rw [utf8_pageId htext]
  refine Text.runs_intercalate (p := (· == Path.slash)) rfl fun n hn =>
    ⟨(h n hn).ne_empty, fun b hb => ?_⟩
  rw [beq_eq_false_iff_ne]
  rintro rfl
  exact (h n hn).not_mem_slash hb

/-- Names that are no texts may share an id. -/
example : pageId [[0xff, 0x2e, 0x6d, 0x64]] = pageId [[0xfe, 0x2e, 0x6d, 0x64]] := by
  decide

/-- On a disk that has this directory at the top, its name leads to it. -/
theorem resolve_content {top entries : List (Bytes × FileTree)}
    (h : top.lookup (Text.utf8 "content") = some (.directory entries)) :
    ({ tree := .directory top } : Disk).resolve "content" = .ok (.directory entries) := by
  have hname : ¬ Path.maxNameLength < (Text.utf8 "content").length := by decide
  have hchild : ((FileTree.directory top).get? []).bind (FileTree.child? "content") =
      some (.directory entries) := h
  have hlocate : ({ tree := .directory top } : Disk).locate "content" true =
      .ok (.found [Text.utf8 "content"]) := by
    rw [Disk.locate_of_relative (s := [Text.utf8 "content"]) (by decide)]
    simp [FileTree.takeSteps, hname, hchild]
  have hfound : (FileTree.directory top).get? [Text.utf8 "content"] =
      some (.directory entries) := by
    simp [FileTree.get?, FileTree.child?, h]
  rw [Disk.resolve, hlocate]
  simp [bind, Except.bind, hfound, pure, Except.pure]

/-- A disk is proper if this directory is all that it has, and is proper. -/
theorem proper_content {t : FileTree} (h : t.Proper) :
    ({ tree := .directory [("content", t)] } : Disk).Proper :=
  ⟨h.singleton (by decide), List.forall_mem_nil _⟩

end DocSite.Folder
