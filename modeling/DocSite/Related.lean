import DocSite.Number.Binary64
import DocSite.Words

/-!
# Related documents

The score of a document for a query is the number of words they share, raised by a tenth for each of
the document's tags that the query has too. Tags raise an overlap only: without a common word the
score is zero.

* `Profile` is the query's side, taken once.
* `rank` orders every document but the query by descending score; equal scores keep their order.
* `related` is the start of that list.
-/

namespace DocSite

open Number (Binary64)

/-- What a query contributes to scores. -/
structure Profile where
  id : String
  words : List (List Char)
  tags : List String

/-- A document with its score for a query. -/
structure Scored where
  document : Document
  score : Binary64

/-- The score of `common` shared words and `shared` shared tags. -/
def scoreOf (common shared : Nat) : Binary64 :=
  if common = 0 then .zero
  else ((Binary64.ofNat 1).add (Binary64.tenth.mul (.ofNat shared))).mul (.ofNat common)

namespace Profile

/-- The profile of a query. -/
def ofDocument (query : Document) : Profile :=
  ⟨query.id, query.words, query.tags⟩

/-- Whether a document is the query itself. -/
def isQuery (p : Profile) (d : Document) : Bool :=
  d.id == p.id

/-- The number of words that a document shares with the query. -/
def commonWords (p : Profile) (d : Document) : Nat :=
  d.words.countP (p.words.contains ·)

/-- The number of a document's tags that the query has; a repeated tag counts each time. -/
def sharedTags (p : Profile) (d : Document) : Nat :=
  d.tags.countP (p.tags.contains ·)

/-- The score of a document for the query. -/
def score (p : Profile) (d : Document) : Binary64 :=
  scoreOf (p.commonWords d) (p.sharedTags d)

end Profile

/-- Every document but the query with its score, the highest first. -/
def rank (query : Document) (docs : List Document) : List Scored :=
  let profile := Profile.ofDocument query
  ((docs.filter (!profile.isQuery ·)).map fun d => Scored.mk d (profile.score d)).mergeSort
    fun a b => b.score.le a.score

/-- The `n` documents most related to the query. -/
def related (query : Document) (docs : List Document) (n : Nat) : List Document :=
  ((rank query docs).take n).map (·.document)

end DocSite
