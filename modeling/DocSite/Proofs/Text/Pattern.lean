import Mathlib.Tactic.Common

/-!
# Patterns

A pattern is matched at a spot of a text. Its matches are listed by the spots where they end, in the
order in which a backtracking matcher tries them: the first one counts.

* `Pattern` is the syntax, `Pattern.ends` lists the matches at a spot, and `Pattern.find?` is the
  match that starts leftmost.
* `Pattern.many_seq_ends` and `Pattern.optional_seq_ends_cons`: a greedy repetition gives nothing
  back to a pattern that cannot start with what the repetition takes.
* `findSome?_cuts_append`: a search that succeeds at line starts only goes through a text line by
  line.
-/

namespace DocSite.Text

/-! ### Spots -/

/-- A spot in a text: the characters before it, the last one first, those after it, and what the
group of the pattern took on the way to it. -/
structure Spot where
  before : List Char
  after : List Char
  group : List Char := []

namespace Spot

/-- The spot is at the start of the text or after a line feed. -/
def AtLineStart (s : Spot) : Prop :=
  s.before.headD '\n' = '\n'

/-- The spot is at the end of the text or before a line feed. -/
def AtLineEnd (s : Spot) : Prop :=
  s.after.headD '\n' = '\n'

instance (s : Spot) : Decidable s.AtLineStart :=
  inferInstanceAs (Decidable (_ = _))

instance (s : Spot) : Decidable s.AtLineEnd :=
  inferInstanceAs (Decidable (_ = _))

/-- The spot after some of the characters that follow, which are cut into those passed and those
left. -/
def move (s : Spot) (cut : List Char × List Char) : Spot :=
  { s with before := cut.1.reverse ++ s.before, after := cut.2 }

/-- The spot after the next character, if that one is of the class. -/
def pass (p : Char → Bool) (s : Spot) : List Spot :=
  match s.after with
  | [] => []
  | c :: rest => if p c then [s.move ([c], rest)] else []

end Spot

/-- The cuts of a text after no, one, two, … characters of a class. -/
def cuts (p : Char → Bool) : List Char → List (List Char × List Char)
  | [] => [([], [])]
  | c :: rest =>
    ([], c :: rest) :: if p c then (cuts p rest).map fun (taken, left) => (c :: taken, left) else []

theorem cuts_of_head? {p : Char → Bool} {text : List Char}
    (h : ∀ c, text.head? = some c → p c = false) : cuts p text = [([], text)] := by
  cases text with
  | nil => rfl
  | cons c rest => rw [cuts, h c rfl]; rfl

theorem append_eq_of_mem_cuts {p : Char → Bool} {text : List Char} {cut : List Char × List Char}
    (h : cut ∈ cuts p text) : cut.1 ++ cut.2 = text := by
  induction text generalizing cut with
  | nil =>
    obtain rfl := List.mem_singleton.mp h
    rfl
  | cons c rest ih =>
    rcases List.mem_cons.mp h with rfl | h
    · rfl
    · split_ifs at h with hc
      · obtain ⟨cut', hcut', rfl⟩ := List.mem_map.mp h
        rw [← ih hcut']
        rfl
      · cases h

/-! ### Syntax and matches -/

/-- Patterns over classes of characters. Only single characters are repeated, `many` as often as
possible and `few` as rarely, and one group is kept. -/
inductive Pattern
  | one (p : Char → Bool)
  | optional (p : Char → Bool)
  | many (p : Char → Bool)
  | few (p : Char → Bool)
  | textStart
  | lineStart
  | lineEnd
  | seq (a b : Pattern)
  | group (a : Pattern)

namespace Pattern

/-- The spots where the matches at a spot end, in the order in which they are tried. -/
def ends : Pattern → Spot → List Spot
  | one p, s => s.pass p
  | optional p, s => s.pass p ++ [s]
  | many p, s => ((cuts p s.after).map s.move).reverse
  | few p, s => (cuts p s.after).map s.move
  | textStart, s => if s.before = [] then [s] else []
  | lineStart, s => if s.AtLineStart then [s] else []
  | lineEnd, s => if s.AtLineEnd then [s] else []
  | seq a b, s => (a.ends s).flatMap b.ends
  | group a, s =>
    (a.ends s).map fun e => { e with group := s.after.take (s.after.length - e.after.length) }

/-- The end of the match that starts leftmost. -/
def find? (a : Pattern) (text : List Char) : Option Spot :=
  (((few fun _ => true).seq a).ends { before := [], after := text }).head?

/-- One given character. -/
def char (c : Char) : Pattern :=
  one (· == c)

variable {a b : Pattern} {p : Char → Bool} {s : Spot}

theorem seq_ends (a b : Pattern) (s : Spot) : (a.seq b).ends s = (a.ends s).flatMap b.ends :=
  rfl

theorem seq_assoc_ends (a b c : Pattern) (s : Spot) :
    ((a.seq b).seq c).ends s = (a.seq (b.seq c)).ends s :=
  List.flatMap_assoc

/-- A pattern matches after an empty match as it does at the same spot. -/
theorem seq_ends_of_ends_eq (h : a.ends s = [s]) : (a.seq b).ends s = b.ends s := by
  rw [seq_ends, h, List.flatMap_singleton]

theorem seq_ends_of_ends_eq_nil (h : a.ends s = []) : (a.seq b).ends s = [] := by
  rw [seq_ends, h, List.flatMap_nil]

theorem char_seq_ends_cons (a : Pattern) (c : Char) (before rest group : List Char) :
    ((char c).seq a).ends ⟨before, c :: rest, group⟩ = a.ends ⟨c :: before, rest, group⟩ := by
  simp [char, ends, Spot.pass, Spot.move]

theorem char_seq_ends_of_head? {c : Char} (h : s.after.head? ≠ some c) :
    ((char c).seq a).ends s = [] := by
  refine seq_ends_of_ends_eq_nil ?_
  rw [char, ends, Spot.pass]
  split
  · rfl
  · next d rest hs =>
    rw [if_neg]
    rintro hd
    exact h (by rw [hs, beq_iff_eq.mp hd]; rfl)

/-- A repetition goes as far as it can before a pattern that starts with nothing of its class. -/
theorem many_seq_ends
    (ha : ∀ before c rest group, p c → a.ends ⟨before, c :: rest, group⟩ = [])
    {before taken rest group : List Char} (htaken : ∀ c ∈ taken, p c)
    (hrest : ∀ c, rest.head? = some c → p c = false) :
    ((many p).seq a).ends ⟨before, taken ++ rest, group⟩ =
      a.ends ⟨taken.reverse ++ before, rest, group⟩ := by
  induction taken generalizing before with
  | nil => simp [ends, cuts_of_head? hrest, Spot.move]
  | cons c taken ih =>
    obtain ⟨hc, htaken⟩ := List.forall_mem_cons.mp htaken
    have hmove : (Spot.move ⟨before, c :: (taken ++ rest), group⟩ ∘ fun (taken, left) =>
        (c :: taken, left)) = Spot.move ⟨c :: before, taken ++ rest, group⟩ := by
      funext cut
      simp [Spot.move]
    have hstay : a.ends ⟨before, c :: (taken ++ rest), group⟩ = [] := ha _ _ _ _ hc
    have hlater : ((many p).seq a).ends ⟨c :: before, taken ++ rest, group⟩ =
        a.ends ⟨taken.reverse ++ c :: before, rest, group⟩ := ih htaken
    rw [seq_ends, ends] at hlater ⊢
    simp only [List.cons_append, cuts, hc, if_true, List.map_cons, List.map_map, List.reverse_cons,
      List.flatMap_append, hmove, hlater]
    simp [Spot.move, hstay]

/-- An optional character that is there is passed before a pattern that cannot start with it. -/
theorem optional_seq_ends_cons {c : Char} {before rest group : List Char} (hc : p c)
    (ha : a.ends ⟨before, c :: rest, group⟩ = []) :
    ((optional p).seq a).ends ⟨before, c :: rest, group⟩ = a.ends ⟨c :: before, rest, group⟩ := by
  simp [ends, Spot.pass, Spot.move, hc, ha]

theorem pass_of_head? (h : ∀ c, s.after.head? = some c → p c = false) : s.pass p = [] := by
  rw [Spot.pass]
  split
  · rfl
  · next c rest hs => rw [if_neg (ne_true_of_eq_false (h c (by rw [hs]; rfl)))]

theorem optional_seq_ends_of_head? (h : ∀ c, s.after.head? = some c → p c = false) :
    ((optional p).seq a).ends s = a.ends s := by
  refine seq_ends_of_ends_eq ?_
  rw [ends, pass_of_head? h, List.nil_append]

/-- What a group takes is what stands between the spots at its ends. -/
theorem group_few_ends (before text group : List Char) :
    (Pattern.group (few p)).ends ⟨before, text, group⟩ =
      (cuts p text).map fun cut => ⟨cut.1.reverse ++ before, cut.2, cut.1⟩ := by
  rw [ends, ends, List.map_map]
  refine List.map_congr_left fun cut hcut => ?_
  obtain rfl := append_eq_of_mem_cuts hcut
  simp [Spot.move]

/-- A pattern that is bound to the start of the text is found there or nowhere. -/
theorem find?_textStart_seq (a : Pattern) (text : List Char) :
    (textStart.seq a).find? text = (a.ends { before := [], after := text }).head? := by
  have hstart : ∀ s : Spot, s.before ≠ [] → (textStart.seq a).ends s = [] :=
    fun s hs => seq_ends_of_ends_eq_nil (if_neg hs)
  have hhere : (textStart.seq a).ends { before := [], after := text } =
      a.ends { before := [], after := text } := seq_ends_of_ends_eq (if_pos rfl)
  rw [find?, seq_ends, ends]
  cases text with
  | nil => simp [cuts, Spot.move, hhere]
  | cons c text =>
    have hlater : ((cuts (fun _ => true) text).map fun (taken, left) =>
        (c :: taken, left)).flatMap (fun cut => (textStart.seq a).ends
          (Spot.move { before := [], after := c :: text } cut)) = [] := by
      refine List.flatMap_eq_nil_iff.mpr fun cut hcut => hstart _ ?_
      obtain ⟨cut', -, rfl⟩ := List.mem_map.mp hcut
      simp [Spot.move]
    rw [cuts, if_pos rfl, List.map_cons, List.flatMap_cons, List.flatMap_map, hlater,
      List.append_nil]
    exact congrArg List.head? hhere

end Pattern

/-! ### Searches line by line -/

variable {α : Type} {f : List Char × List Char → Option α}

theorem findSome?_cuts_cons (c : Char) (text : List Char) :
    (cuts (fun _ => true) (c :: text)).findSome? f =
      (f ([], c :: text)).or
        ((cuts (fun _ => true) text).findSome? fun cut => f (c :: cut.1, cut.2)) := by
  rw [cuts, if_pos rfl, List.findSome?_cons, List.findSome?_map]
  cases f ([], c :: text) <;> rfl

/-- A search that fails inside a line tries its start only, … -/
theorem findSome?_cuts_of_not_mem (hf : ∀ taken c left, c ≠ '\n' → f (taken ++ [c], left) = none)
    {line : List Char} (hline : '\n' ∉ line) :
    (cuts (fun _ => true) line).findSome? f = f ([], line) := by
  induction line generalizing f with
  | nil => cases h : f ([], []) <;> simp [cuts, h]
  | cons c line ih =>
    obtain ⟨hc, hline⟩ := not_or.mp (List.mem_cons.not.mp hline)
    rw [findSome?_cuts_cons, ih (fun taken => hf (c :: taken)) hline]
    have hinside : f ([c], line) = none := hf [] c line (Ne.symm hc)
    rw [hinside, Option.or_none]

/-- … and then goes on after it. -/
theorem findSome?_cuts_append (hf : ∀ taken c left, c ≠ '\n' → f (taken ++ [c], left) = none)
    {line : List Char} (hline : '\n' ∉ line) (rest : List Char) :
    (cuts (fun _ => true) (line ++ '\n' :: rest)).findSome? f =
      (f ([], line ++ '\n' :: rest)).or
        ((cuts (fun _ => true) rest).findSome? fun cut => f (line ++ '\n' :: cut.1, cut.2)) := by
  induction line generalizing f with
  | nil => exact findSome?_cuts_cons '\n' rest
  | cons c line ih =>
    obtain ⟨hc, hline⟩ := not_or.mp (List.mem_cons.not.mp hline)
    have hinside : f ([c], line ++ '\n' :: rest) = none := hf [] c _ (Ne.symm hc)
    rw [List.cons_append, findSome?_cuts_cons, ih (fun taken => hf (c :: taken)) hline, hinside,
      Option.none_or]
    rfl

end DocSite.Text
