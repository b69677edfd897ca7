import DocSite.Yaml.Token

/-!
# From tokens to events

The events of a document walk its tree: a scalar or an alias is one event, a collection two with its
contents between them. Anchors are numbered as they come, and an alias names the number that its
anchor has where the alias stands. The number of a new anchor is how many names are known, so a name
that is given again leaves its old number to the next new name.

* `Expected` is what a document still has to hold: a stack of them stands for its open collections.
* `Expected.step?` meets one expectation; `Document.ofTokens` runs through the tokens.
* `Document.target?` is what an alias stands for.
-/

namespace DocSite.Yaml

/-- An event of a document. A scalar has the full text of its tag. -/
inductive Event where
  | alias (anchor : Nat)
  | scalar (anchor : Option Nat) (tag : Option (List Char)) (style : ScalarStyle)
      (text : List Char)
  | sequenceStart (anchor : Option Nat)
  | sequenceEnd
  | mappingStart (anchor : Option Nat)
  | mappingEnd
deriving DecidableEq, Repr

namespace Event

/-- The scalar that stands where a node is left out. -/
def empty : Event :=
  scalar none none .plain []

/-- The number of the event's anchor. -/
def anchor? : Event → Option Nat
  | scalar a .. => a
  | sequenceStart a => a
  | mappingStart a => a
  | _ => none

end Event

/-! ### Tags and anchors -/

/-- The handles that stand for the start of a tag. -/
abbrev Handles := List (List Char × List Char)

/-- The handles that need no directive. -/
def defaultHandles : Handles :=
  [("!".toList, "!".toList), ("!!".toList, "tag:yaml.org,2002:".toList)]

/-- The full text of a tag. -/
def Tag.resolve? (hs : Handles) (t : Tag) : Option (List Char) :=
  if t.handle.isEmpty then some t.suffix else (hs.lookup t.handle).map (· ++ t.suffix)

/-- The numbers of the anchors that are known. -/
abbrev Anchors := List (List Char × Nat)

/-- Gives a number to an anchor. -/
def Anchors.define (as : Anchors) (name : List Char) : Nat × Anchors :=
  (as.length, (name, as.length) :: as.filter (·.1 ≠ name))

/-! ### Nodes -/

/-- What stands before a node. -/
structure Properties where
  anchor : Option (List Char) := none
  tag : Option Tag := none
deriving DecidableEq, Repr

/-- An anchor and a tag in either order, and the tokens after them. -/
def properties : List Token → Properties × List Token
  | .anchor a :: .tag t :: rest => (⟨some a, some t⟩, rest)
  | .tag t :: .anchor a :: rest => (⟨some a, some t⟩, rest)
  | .anchor a :: rest => (⟨some a, none⟩, rest)
  | .tag t :: rest => (⟨none, some t⟩, rest)
  | ts => ({}, ts)

/-- Where a node stands. -/
inductive Position where
  | flow
  | block
  /-- In a block mapping, where the dashes of a sequence need not be indented. -/
  | blockMapping
deriving DecidableEq, Repr

/-- What a document still has to hold, from the next token on. -/
inductive Expected where
  | node (position : Position)
  /-- An entry of a block sequence, or its end. -/
  | blockEntry
  /-- An entry of a sequence that is not indented, or its end. -/
  | dashEntry
  /-- A key of a block mapping, or its end. -/
  | blockKey
  | blockValue
  /-- An entry of a flow sequence, or its end. -/
  | flowEntry (first : Bool)
  /-- The key of a mapping that is an entry of a flow sequence. -/
  | pairKey
  | pairValue
  | pairEnd
  /-- A key of a flow mapping, or its end. -/
  | flowKey (first : Bool)
  | flowValue
  /-- The value of a key without a colon. -/
  | noValue
deriving DecidableEq, Repr

/-- What reading one expectation leaves: the events, what is expected next, and the tokens and
anchors then. -/
structure Step where
  events : List Event
  next : List Expected
  rest : List Token
  anchors : Anchors

namespace Expected

/-- The events of a node's start. -/
def readNode? (hs : Handles) (as : Anchors) (position : Position) (ts : List Token) : Option Step :=
  match ts with
  | .alias name :: rest => (as.lookup name).map fun n => ⟨[.alias n], [], rest, as⟩
  | _ => do
    let (p, ts) := properties ts
    let tag ← match p.tag with
      | none => some none
      | some t => (t.resolve? hs).map some
    let (anchor, as) := match p.anchor with
      | none => (none, as)
      | some name => let (n, as) := as.define name; (some n, as)
    match ts with
    | [] => none
    | t :: rest =>
      let block := position ≠ .flow
      match t with
      | .blockEntry =>
        if position = .blockMapping then
          return ⟨[.sequenceStart anchor], [.dashEntry], ts, as⟩
        else if anchor.isSome || tag.isSome then
          return ⟨[.scalar anchor tag .plain []], [], ts, as⟩
        else none
      | .scalar style text =>
        let tag := if tag = some ['!'] then none else tag
        return ⟨[.scalar anchor tag style text], [], rest, as⟩
      | .flowSequenceStart => return ⟨[.sequenceStart anchor], [.flowEntry true], rest, as⟩
      | .flowMappingStart => return ⟨[.mappingStart anchor], [.flowKey true], rest, as⟩
      | _ =>
        if t = .blockSequenceStart ∧ block then
          return ⟨[.sequenceStart anchor], [.blockEntry], rest, as⟩
        else if t = .blockMappingStart ∧ block then
          return ⟨[.mappingStart anchor], [.blockKey], rest, as⟩
        else if anchor.isSome || tag.isSome then
          return ⟨[.scalar anchor tag .plain []], [], ts, as⟩
        else none

/-- A node that is left out where one of the tokens `stops` comes next, and else the node. -/
def nodeUnless (as : Anchors) (stops : List Token) (position : Position) (next : List Expected)
    (ts : List Token) : Option Step :=
  match ts with
  | [] => none
  | t :: _ =>
    if stops.contains t then some ⟨[.empty], next, ts, as⟩
    else some ⟨[], .node position :: next, ts, as⟩

/-- Meets one expectation with the tokens. -/
def step? (hs : Handles) (as : Anchors) (e : Expected) (ts : List Token) : Option Step :=
  match e, ts with
  | .node position, ts => readNode? hs as position ts
  | .pairEnd, ts => some ⟨[.mappingEnd], [], ts, as⟩
  | .noValue, _ :: _ => some ⟨[.empty], [], ts, as⟩
  | _, [] => none
  | .blockEntry, t :: rest =>
    if t = .blockEntry then
      nodeUnless as [.blockEntry, .blockEnd] .block [.blockEntry] rest
    else if t = .blockEnd then some ⟨[.sequenceEnd], [], rest, as⟩
    else none
  | .dashEntry, t :: rest =>
    if t = .blockEntry then
      nodeUnless as [.blockEntry, .key, .value, .blockEnd] .block [.dashEntry] rest
    else some ⟨[.sequenceEnd], [], ts, as⟩
  | .blockKey, t :: rest =>
    if t = .key then
      nodeUnless as [.key, .value, .blockEnd] .blockMapping [.blockValue, .blockKey] rest
    else if t = .blockEnd then some ⟨[.mappingEnd], [], rest, as⟩
    else none
  | .blockValue, t :: rest =>
    if t = .value then nodeUnless as [.key, .value, .blockEnd] .blockMapping [] rest
    else some ⟨[.empty], [], ts, as⟩
  | .flowEntry first, t :: rest =>
    if t = .flowSequenceEnd then some ⟨[.sequenceEnd], [], rest, as⟩
    else if !first && t ≠ .flowEntry then none
    else match (if first then ts else rest) with
      | [] => none
      | .key :: rest =>
        some ⟨[.mappingStart none], [.pairKey, .pairValue, .pairEnd, .flowEntry false], rest, as⟩
      | .flowSequenceEnd :: rest => some ⟨[.sequenceEnd], [], rest, as⟩
      | ts => some ⟨[], [.node .flow, .flowEntry false], ts, as⟩
  | .pairKey, t :: rest =>
    if t = .value ∨ t = .flowEntry ∨ t = .flowSequenceEnd then some ⟨[.empty], [], rest, as⟩
    else some ⟨[], [.node .flow], ts, as⟩
  | .pairValue, t :: rest =>
    if t = .value then nodeUnless as [.flowEntry, .flowSequenceEnd] .flow [] rest
    else some ⟨[.empty], [], ts, as⟩
  | .flowKey first, t :: rest =>
    if t = .flowMappingEnd then some ⟨[.mappingEnd], [], rest, as⟩
    else if !first && t ≠ .flowEntry then none
    else match (if first then ts else rest) with
      | [] => none
      | .key :: rest =>
        nodeUnless as [.value, .flowEntry, .flowMappingEnd] .flow [.flowValue, .flowKey false] rest
      | .flowMappingEnd :: rest => some ⟨[.mappingEnd], [], rest, as⟩
      | ts => some ⟨[], [.node .flow, .noValue, .flowKey false], ts, as⟩
  | .flowValue, t :: rest =>
    if t = .value then nodeUnless as [.flowEntry, .flowMappingEnd] .flow [] rest
    else some ⟨[.empty], [], ts, as⟩

end Expected

/-! ### Documents -/

/-- The events of a document, as far as they can be read. -/
structure Document where
  events : List Event
  /-- Whether the text is one document, and all of its events are there. -/
  complete : Bool
deriving DecidableEq, Repr

namespace Document

/-- The events of the tokens while something is expected, what tokens are left, and whether all
expectations were met. -/
def eventsOf (hs : Handles) : Nat → Anchors → List Expected → List Token →
    List Event × List Token × Bool
  | _, _, [], ts => ([], ts, true)
  | 0, _, _, ts => ([], ts, false)
  | fuel + 1, as, e :: more, ts =>
    match e.step? hs as ts with
    | none => ([], ts, false)
    | some s =>
      let (events, rest, met) := eventsOf hs fuel s.anchors (s.next ++ more) s.rest
      (s.events ++ events, rest, met)

/-- The handles of directives at the start of the tokens. Neither the version nor a handle may be
given twice, and the version is 1.1 or 1.2. -/
def directives? : Bool → Handles → List Token → Option (Handles × List Token)
  | versioned, hs, .versionDirective major minor :: rest =>
    if !versioned && major == 1 && (minor == 1 || minor == 2) then directives? true hs rest
    else none
  | versioned, hs, .tagDirective handle expansion :: rest =>
    if (hs.lookup handle).isSome then none
    else directives? versioned (hs ++ [(handle, expansion)]) rest
  | _, hs, ts => some (hs ++ defaultHandles, ts)

/-- Whether nothing but marks of ends follows a document. -/
def endsHere (ts : List Token) : Bool :=
  (ts.dropWhile (· == .documentEnd)).head? == some .textEnd

/-- The document whose contents the tokens hold. -/
def ofContents (hs : Handles) (explicit : Bool) (ts : List Token) : Document :=
  let empty := explicit && match ts with
    | .versionDirective .. :: _ => true
    | .tagDirective .. :: _ => true
    | t :: _ => t = .documentStart ∨ t = .documentEnd ∨ t = .textEnd
    | [] => false
  if empty then ⟨[.empty], endsHere ts⟩
  else
    let (events, rest, met) := eventsOf hs (8 * ts.length + 8) [] [.node .block] ts
    ⟨events, met && endsHere rest⟩

/-- The document that tokens hold. A text without one is a document without events. -/
def ofTokens (ts : List Token) : Document :=
  if ts.head? = some .textEnd then ⟨[], true⟩
  else match directives? false [] ts with
    | none => ⟨[], false⟩
    | some (hs, rest) =>
      match rest with
      | .documentStart :: rest => ofContents hs true rest
      | _ => if rest.length < ts.length then ⟨[], false⟩ else ofContents hs false ts

/-- The last event with an anchor's number, and what follows it. -/
def target? (n : Nat) : List Event → Option (List Event)
  | [] => none
  | e :: rest =>
    match target? n rest with
    | some es => some es
    | none => if e.anchor? = some n then some (e :: rest) else none

end Document

end DocSite.Yaml
