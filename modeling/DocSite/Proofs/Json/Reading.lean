import DocSite.Json.Printer
import DocSite.Json.Reader
import DocSite.Proofs.Text.Digit

/-!
# What JSON text writes

A text writes a value if the reader takes the value from its start, whatever follows that does not
prolong a number (`Writes`).

* `stringBody_quote`: a quoted string is read up to its closing quote.
* `number_append`: a number is read to its end; `writes_integer` and `writes_decimal` are its cases.
* `WritesItems.writes_array` and `WritesMembers.writes_object`: a text of items or members between
  brackets writes the array or object, blanks being allowed around each part.
-/

namespace DocSite.Json

/-! ### Strings -/

/-- A letter after a backslash stands for its character. -/
theorem stringBody_letter {e c : Char} (he : unescape? e = some c) (hu : e ≠ 'u') (s : List Char) :
    stringBody ('\\' :: e :: s) = cons c (stringBody s) := by
  rw [stringBody.eq_4 e s fun _ _ _ _ _ h _ => hu h, he]

/-- Four digits after a backslash and a `u` stand for their character, below the surrogates. -/
theorem stringBody_unit {a b c d : Char} {n : ℕ} (hn : unit? a b c d = some n) (hlt : n < 0xd800)
    (s : List Char) :
    stringBody ('\\' :: 'u' :: a :: b :: c :: d :: s) = cons (Char.ofNat n) (stringBody s) := by
  have hhigh : ¬ (0xd800 ≤ n ∧ n < 0xdc00) := by omega
  have hlow : ¬ (0xdc00 ≤ n ∧ n < 0xe000) := by omega
  rw [stringBody.eq_3, hn]
  simp only [if_neg hhigh, if_neg hlow]

/-- All other characters stand for themselves. -/
theorem stringBody_plain {c : Char} (hquote : c ≠ '"') (hslash : c ≠ '\\') (hcontrol : 32 ≤ c.toNat)
    (s : List Char) : stringBody (c :: s) = cons c (stringBody s) := by
  rw [stringBody.eq_5 c s hquote (fun _ _ _ _ _ h _ => hslash h) (fun _ _ h _ => hslash h),
    if_neg (not_or.mpr ⟨Nat.not_lt.mpr hcontrol, hslash⟩)]

/-- The last two digits of a control character write its number. -/
theorem unit?_hexDigit {n : ℕ} (h : n < 32) :
    unit? '0' '0' (hexDigit (n / 16)) (hexDigit (n % 16)) = some n := by
  have hall : ∀ m < 32, unit? '0' '0' (hexDigit (m / 16)) (hexDigit (m % 16)) = some m := by
    decide
  exact hall n h

theorem stringBody_escape (c : Char) (s : List Char) :
    stringBody (escape c ++ s) = cons c (stringBody s) := by
  unfold escape
  split_ifs with hquote hslash hback htab hline hfeed hreturn hcontrol
  · exact stringBody_letter (by rw [hquote]; rfl) (by decide) s
  · exact stringBody_letter (by rw [hslash]; rfl) (by decide) s
  · exact stringBody_letter (by rw [hback]; rfl) (by decide) s
  · exact stringBody_letter (by rw [htab]; rfl) (by decide) s
  · exact stringBody_letter (by rw [hline]; rfl) (by decide) s
  · exact stringBody_letter (by rw [hfeed]; rfl) (by decide) s
  · exact stringBody_letter (by rw [hreturn]; rfl) (by decide) s
  · have hunit := stringBody_unit (unit?_hexDigit hcontrol) (by omega) s
    rwa [Char.ofNat_toNat] at hunit
  · exact stringBody_plain hquote hslash (Nat.not_lt.mp hcontrol) s

/-- A quoted text is read up to its closing quote. -/
theorem stringBody_quote (s rest : List Char) :
    stringBody (s.flatMap escape ++ '"' :: rest) = some (s, rest) := by
  induction s with
  | nil => exact stringBody.eq_2 rest
  | cons c s ih => rw [List.flatMap_cons, List.append_assoc, stringBody_escape, ih]; rfl

/-! ### Numbers -/

/-- A text that does not prolong a number before it. -/
def EndsNumber (rest : List Char) : Prop :=
  ∀ c ∈ rest.head?, ¬ c.isDigit ∧ c ≠ '.' ∧ c ≠ 'e' ∧ c ≠ 'E'

/-- The digits of a fraction after their point, or nothing. -/
inductive IsFraction : List Char → Prop
  | nil : IsFraction []
  | point {ds : List Char} (hne : ds ≠ []) (hds : ∀ c ∈ ds, c.isDigit) : IsFraction ('.' :: ds)

/-- The digits of an exponent after their mark and a minus that may stand there, or nothing. -/
inductive IsExponent : List Char → Prop
  | nil : IsExponent []
  | plus {ds : List Char} (hne : ds ≠ []) (hds : ∀ c ∈ ds, c.isDigit) : IsExponent ('e' :: ds)
  | minus {ds : List Char} (hne : ds ≠ []) (hds : ∀ c ∈ ds, c.isDigit) :
      IsExponent ('e' :: '-' :: ds)

/-- Digits of which the first one is a zero only if it is the only one. -/
structure IsWhole (ds : List Char) : Prop where
  ne_nil : ds ≠ []
  isDigit : ∀ c ∈ ds, c.isDigit
  head : ds.head? = some '0' → ds.length ≤ 1

theorem isWhole_toString (n : ℕ) : IsWhole (toString n).toList := by
  refine ⟨Text.toString_ne_nil n, fun c => Text.isDigit_of_mem_toString, fun hhead => ?_⟩
  rw [Text.head?_toString hhead]
  decide

/-- The longest run of digits ends where no digit follows. -/
theorem takeWhile_digits {ds rest : List Char} (hds : ∀ c ∈ ds, c.isDigit)
    (hrest : ∀ c ∈ rest.head?, ¬ c.isDigit) :
    (ds ++ rest).takeWhile Char.isDigit = ds ∧ (ds ++ rest).drop ds.length = rest :=
  ⟨Text.takeWhile_append_of_head? hds hrest, List.drop_left⟩

theorem isDigit_of_sign {c : Char} (h : c.isDigit) : (c == '+' || c == '-') = false := by
  rcases eq_or_ne c '+' with rfl | hplus
  · exact absurd h (by decide)
  · rcases eq_or_ne c '-' with rfl | hminus
    · exact absurd h (by decide)
    · simp [hplus, hminus]

theorem exponent_append {exp rest : List Char} (hexp : IsExponent exp) (hrest : EndsNumber rest) :
    exponent (exp ++ rest) = some (exp, rest) := by
  have hdigits {ds : List Char} (hds : ∀ c ∈ ds, c.isDigit) :=
    takeWhile_digits hds fun c hc => (hrest c hc).1
  cases hexp with
  | nil =>
    cases rest with
    | nil => rfl
    | cons c rest =>
      obtain ⟨-, -, he, hE⟩ := hrest c rfl
      simp [exponent, he, hE]
  | @plus ds hne hds =>
    obtain ⟨htake, hdrop⟩ := hdigits hds
    obtain ⟨d, ds, rfl⟩ := List.exists_cons_of_ne_nil hne
    have hsign : ((d :: ds ++ rest).takeWhile fun c => c == '+' || c == '-') = [] :=
      List.takeWhile_cons_of_neg (ne_true_of_eq_false (isDigit_of_sign (hds d List.mem_cons_self)))
    simp only [exponent, List.cons_append, true_or, if_true] at hsign htake hdrop ⊢
    simp only [hsign, List.length_nil, List.drop_zero, htake, hdrop]
    simp
  | @minus ds hne hds =>
    obtain ⟨htake, hdrop⟩ := hdigits hds
    obtain ⟨d, ds, rfl⟩ := List.exists_cons_of_ne_nil hne
    have hsign : (('-' :: d :: ds ++ rest).takeWhile fun c => c == '+' || c == '-') = ['-'] := by
      rw [List.cons_append, List.takeWhile_cons_of_pos (by rfl)]
      exact congrArg _ (List.takeWhile_cons_of_neg
        (ne_true_of_eq_false (isDigit_of_sign (hds d List.mem_cons_self))))
    simp only [exponent, List.cons_append, true_or, if_true] at hsign htake hdrop ⊢
    simp only [hsign, List.length_singleton, List.drop_one, List.tail_cons, htake, hdrop]
    simp

theorem fraction_append {frac rest : List Char} (hfrac : IsFraction frac)
    (hdigit : ∀ c ∈ rest.head?, ¬ c.isDigit) (hpoint : ∀ c ∈ rest.head?, c ≠ '.') :
    fraction (frac ++ rest) = some (frac, rest) := by
  cases hfrac with
  | nil =>
    cases rest with
    | nil => rfl
    | cons c rest =>
      have hc : c ≠ '.' := hpoint c rfl
      simp [fraction, hc]
  | @point ds hne hds =>
    obtain ⟨htake, hdrop⟩ := takeWhile_digits hds hdigit
    simp only [fraction, List.cons_append, htake, hdrop]
    simp [hne]

/-- What follows the digits before the point starts with no digit. -/
theorem head?_fraction_append {frac exp rest : List Char} (hfrac : IsFraction frac)
    (hexp : IsExponent exp) (hrest : EndsNumber rest) :
    (∀ c ∈ (frac ++ (exp ++ rest)).head?, ¬ c.isDigit) ∧
      (∀ c ∈ (exp ++ rest).head?, ¬ c.isDigit) ∧ ∀ c ∈ (exp ++ rest).head?, c ≠ '.' := by
  have hexp' : (∀ c ∈ (exp ++ rest).head?, ¬ c.isDigit) ∧ ∀ c ∈ (exp ++ rest).head?, c ≠ '.' := by
    cases hexp with
    | nil => exact ⟨fun c hc => (hrest c hc).1, fun c hc => (hrest c hc).2.1⟩
    | plus | minus =>
      constructor
      all_goals
        rintro c ⟨⟩
        decide
  refine ⟨?_, hexp'⟩
  cases hfrac with
  | nil => exact hexp'.1
  | point =>
    rintro c ⟨⟩
    decide

/-- A number is read to its end. -/
theorem number_append {sign whole frac exp rest : List Char} (hsign : sign = [] ∨ sign = ['-'])
    (hwhole : IsWhole whole) (hfrac : IsFraction frac) (hexp : IsExponent exp)
    (hrest : EndsNumber rest) :
    number (sign ++ (whole ++ (frac ++ (exp ++ rest)))) =
      if frac.isEmpty ∧ exp.isEmpty ∧ ¬ (sign = ['-'] ∧ Text.numberOf 10 whole = 0) then
        some (integer (if sign.isEmpty then Text.numberOf 10 whole else -Text.numberOf 10 whole),
          rest)
      else some (decimal (String.ofList (sign ++ whole ++ frac ++ exp)), rest) := by
  obtain ⟨hdigit, hdigit', hpoint⟩ := head?_fraction_append hfrac hexp hrest
  obtain ⟨htake, hdrop⟩ := takeWhile_digits hwhole.isDigit hdigit
  have hguard : ¬ (whole.isEmpty = true ∨ whole.head? = some '0' ∧ 1 < whole.length) := by
    rintro (hempty | ⟨hzero, hlength⟩)
    · exact hwhole.ne_nil (List.isEmpty_iff.mp hempty)
    · exact absurd (hwhole.head hzero) (Nat.not_le.mpr hlength)
  have hminus : ∀ t, whole ++ (frac ++ (exp ++ rest)) ≠ '-' :: t := by
    obtain ⟨d, ds, rfl⟩ := List.exists_cons_of_ne_nil hwhole.ne_nil
    rintro t h
    obtain rfl : d = '-' := (List.cons.inj h).1
    exact absurd (hwhole.isDigit _ List.mem_cons_self) (by decide)
  unfold number
  split
  rename_i sign' unsigned hcut
  obtain ⟨rfl, rfl⟩ : sign = sign' ∧ whole ++ (frac ++ (exp ++ rest)) = unsigned := by
    rcases hsign with rfl | rfl
    · split at hcut
      · exact absurd ‹_› (hminus _)
      · exact Prod.mk.inj hcut
    · exact Prod.mk.inj hcut
  simp only [htake, hdrop, if_neg hguard, fraction_append hfrac hdigit' hpoint,
    exponent_append hexp hrest, Option.bind_eq_bind, Option.bind_some]
  rfl

/-! ### Values -/

attribute [local simp] value items members

/-- Blanks that may stand between the parts of a value. -/
def IsSpace (s : List Char) : Prop :=
  ∀ c ∈ s, isSpace c

theorem skip_append {blanks : List Char} (h : IsSpace blanks) (s : List Char) :
    skip (blanks ++ s) = skip s :=
  List.dropWhile_append_of_pos h

theorem skip_cons {c : Char} (h : isSpace c = false) (s : List Char) : skip (c :: s) = c :: s :=
  List.dropWhile_cons_of_neg (ne_true_of_eq_false h)

/-- A mark after blanks is what a reader meets first. -/
theorem skip_append_cons {blanks : List Char} (h : IsSpace blanks) {c : Char}
    (hc : isSpace c = false) (s : List Char) : skip (blanks ++ c :: s) = c :: s := by
  rw [skip_append h, skip_cons hc]

/-- A text writes a value if the reader takes the value from it. Its bound on the depth of calls
need only be greater than the length of the text. -/
def Writes (v : Json) (text : List Char) : Prop :=
  ∀ fuel rest, text.length < fuel → EndsNumber rest → value fuel (text ++ rest) = some (v, rest)

/-- A text before a closing bracket writes the items of an array. -/
def WritesItems (items' : List Json) (text : List Char) : Prop :=
  ∀ fuel rest, text.length + 1 < fuel → items fuel (text ++ ']' :: rest) = some (items', rest)

/-- A text before a closing brace writes the members of an object. -/
def WritesMembers (members' : List (String × Json)) (text : List Char) : Prop :=
  ∀ fuel rest, text.length + 1 < fuel →
    members fuel (text ++ '\x7d' :: rest) = some (members', rest)

theorem value_append {blanks : List Char} (h : IsSpace blanks) (fuel : ℕ) (s : List Char) :
    value fuel (blanks ++ s) = value fuel s := by
  cases fuel with
  | zero => rfl
  | succ fuel => rw [value, value, skip_append h]

theorem endsNumber_mark {c : Char} (hc : c = ',' ∨ c = ']' ∨ c = '\x7d') (rest : List Char) :
    EndsNumber (c :: rest) := by
  rintro d ⟨⟩
  rcases hc with rfl | rfl | rfl <;> decide

theorem EndsNumber.append {blanks rest : List Char} (hrest : EndsNumber rest)
    (hblanks : IsSpace blanks) : EndsNumber (blanks ++ rest) := by
  cases blanks with
  | nil => exact hrest
  | cons c blanks =>
    rintro d ⟨⟩
    have hspace : c = ' ' ∨ c = '\t' ∨ c = '\n' ∨ c = '\r' := by
      simpa [isSpace, or_assoc] using hblanks c List.mem_cons_self
    rcases hspace with rfl | rfl | rfl | rfl <;> decide

theorem writes_null : Writes null "null".toList := by
  intro fuel rest hfuel _
  obtain ⟨fuel, rfl⟩ := Nat.exists_eq_add_one_of_ne_zero (Nat.ne_of_gt (Nat.zero_lt_of_lt hfuel))
  simp [skip, isSpace, word?]

theorem writes_bool (b : Bool) : Writes (bool b) (if b then "true" else "false").toList := by
  intro fuel rest hfuel _
  obtain ⟨fuel, rfl⟩ := Nat.exists_eq_add_one_of_ne_zero (Nat.ne_of_gt (Nat.zero_lt_of_lt hfuel))
  cases b <;> simp [skip, isSpace, word?]

theorem writes_string (s : String) : Writes (string s) (quote s) := by
  intro fuel rest hfuel _
  obtain ⟨fuel, rfl⟩ := Nat.exists_eq_add_one_of_ne_zero (Nat.ne_of_gt (Nat.zero_lt_of_lt hfuel))
  have hskip : skip (quote s ++ rest) = '"' :: (s.toList.flatMap escape ++ '"' :: rest) := by
    rw [quote, List.append_assoc, List.cons_append]
    exact skip_cons (by decide) _
  rw [value, hskip]
  simp only [stringBody_quote, Option.map_some, String.ofList_toList]

/-- What starts with a sign or a digit is read as a number. -/
theorem value_eq_number {c : Char} (hc : c = '-' ∨ c.isDigit) (fuel : ℕ) (s : List Char) :
    value (fuel + 1) (c :: s) = number (c :: s) := by
  have hne {d : Char} (hd : d ≠ '-' ∧ ¬ d.isDigit) : c ≠ d := by
    rintro rfl
    exact hc.elim hd.1 hd.2
  have hspace : isSpace c = false := by
    simp [isSpace, hne (d := ' ') (by decide), hne (d := '\t') (by decide),
      hne (d := '\n') (by decide), hne (d := '\r') (by decide)]
  rw [value, skip_cons hspace]
  split
  any_goals
    rename_i h
    exact absurd (List.cons.inj h).1 (hne (by decide))
  rfl

theorem writes_number {v : Json} {sign whole frac exp : List Char}
    (hsign : sign = [] ∨ sign = ['-']) (hwhole : IsWhole whole)
    (hnumber : ∀ rest, EndsNumber rest →
      number (sign ++ (whole ++ (frac ++ (exp ++ rest)))) = some (v, rest)) :
    Writes v (sign ++ whole ++ frac ++ exp) := by
  intro fuel rest hfuel hrest
  obtain ⟨fuel, rfl⟩ := Nat.exists_eq_add_one_of_ne_zero (Nat.ne_of_gt (Nat.zero_lt_of_lt hfuel))
  obtain ⟨d, ds, rfl⟩ := List.exists_cons_of_ne_nil hwhole.ne_nil
  simp only [List.append_assoc, ← hnumber rest hrest]
  rcases hsign with rfl | rfl
  · exact value_eq_number (.inr (hwhole.isDigit d List.mem_cons_self)) fuel _
  · exact value_eq_number (.inl rfl) fuel _

theorem integerText_eq (n : Int) :
    integerText n = (if n < 0 then ['-'] else []) ++ (toString n.natAbs).toList := by
  rw [integerText, Int.toString_eq_repr, Int.repr_eq_if]
  rcases Int.lt_or_le n 0 with hn | hn
  · have habs : (-n).toNat = n.natAbs := by omega
    rw [if_neg (Int.not_le.mpr hn), if_pos hn, habs, String.toList_append]
    rfl
  · have habs : n.toNat = n.natAbs := by omega
    rw [if_pos hn, if_neg (Int.not_lt.mpr hn), habs]
    rfl

theorem writes_integer (n : Int) : Writes (integer n) (integerText n) := by
  have hsign : (if n < 0 then ['-'] else []) = [] ∨ (if n < 0 then ['-'] else []) = ['-'] := by
    split_ifs <;> simp
  have hwhole := isWhole_toString n.natAbs
  have hnumber : ∀ rest, EndsNumber rest →
      number ((if n < 0 then ['-'] else []) ++ ((toString n.natAbs).toList ++ ([] ++ ([] ++ rest))))
        = some (integer n, rest) := by
    intro rest hrest
    rw [number_append hsign hwhole .nil .nil hrest, Text.numberOf_toString]
    rcases Int.lt_or_le n 0 with hn | hn
    · have hzero : n.natAbs ≠ 0 := by omega
      have habs : -(n.natAbs : Int) = n := by omega
      rw [if_pos hn, if_pos ⟨rfl, rfl, fun h => hzero h.2⟩]
      simp only [List.isEmpty_cons, Bool.false_eq_true, if_false, habs]
    · have habs : (n.natAbs : Int) = n := by omega
      simp [Int.not_lt.mpr hn, habs]
  have htext := writes_number hsign hwhole hnumber
  rwa [List.append_nil, List.append_nil, ← integerText_eq] at htext

/-- The text of a number that has a fraction or an exponent. -/
def IsDecimal (text : String) : Prop :=
  ∃ sign whole frac exp, (sign = [] ∨ sign = ['-']) ∧ IsWhole whole ∧ IsFraction frac ∧
    IsExponent exp ∧ ¬ (frac = [] ∧ exp = []) ∧ text.toList = sign ++ whole ++ frac ++ exp

theorem writes_decimal {text : String} (h : IsDecimal text) :
    Writes (decimal text) text.toList := by
  obtain ⟨sign, whole, frac, exp, hsign, hwhole, hfrac, hexp, hne, htext⟩ := h
  rw [htext]
  refine writes_number hsign hwhole fun rest hrest => ?_
  rw [number_append hsign hwhole hfrac hexp hrest, if_neg, ← htext, String.ofList_toList]
  rintro ⟨hfrac, hexp, -⟩
  exact hne ⟨List.isEmpty_iff.mp hfrac, List.isEmpty_iff.mp hexp⟩

/-! ### Arrays and objects -/

/-- A closing bracket is no item. -/
theorem items_eq_none {s rest : List Char} (h : skip s = ']' :: rest) (fuel : ℕ) :
    items fuel s = none := by
  cases fuel with
  | zero => rfl
  | succ fuel =>
    have hvalue : value fuel s = none := by
      cases fuel with
      | zero => rfl
      | succ fuel =>
        rw [value, h]
        rfl
    rw [items, hvalue]

theorem writes_array_nil : Writes (array []) ['[', ']'] := by
  intro fuel rest hfuel _
  obtain ⟨fuel, rfl⟩ := Nat.exists_eq_add_one_of_ne_zero (Nat.ne_of_gt (Nat.zero_lt_of_lt hfuel))
  simp [skip, isSpace]

theorem WritesItems.writes_array {vs : List Json} {text : List Char} (h : WritesItems vs text) :
    Writes (array vs) ('[' :: text ++ [']']) := by
  intro fuel rest hfuel _
  obtain ⟨fuel, rfl⟩ := Nat.exists_eq_add_one_of_ne_zero (Nat.ne_of_gt (Nat.zero_lt_of_lt hfuel))
  have hlength : text.length + 1 < fuel := by
    simp only [List.length_append, List.length_cons, List.length_nil] at hfuel
    omega
  have hitems := h fuel rest hlength
  have htext : '[' :: text ++ [']'] ++ rest = '[' :: (text ++ ']' :: rest) := by simp
  rw [htext, value, skip_cons (by decide)]
  simp only
  split
  · rename_i hskip
    rw [items_eq_none hskip] at hitems
    cases hitems
  · rw [hitems]
    rfl

theorem WritesItems.single {v : Json} {s before after : List Char} (hbefore : IsSpace before)
    (h : Writes v s) (hafter : IsSpace after) : WritesItems [v] (before ++ s ++ after) := by
  intro fuel rest hfuel
  obtain ⟨fuel, rfl⟩ := Nat.exists_eq_add_one_of_ne_zero (Nat.ne_of_gt (Nat.zero_lt_of_lt hfuel))
  have hlength : s.length < fuel := by
    simp only [List.length_append] at hfuel
    omega
  have hends : EndsNumber (after ++ ']' :: rest) := (endsNumber_mark (by simp) rest).append hafter
  rw [items, List.append_assoc, List.append_assoc, value_append hbefore, h fuel _ hlength hends]
  simp only [skip_append_cons hafter (c := ']') (by decide)]

theorem WritesItems.cons {v : Json} {vs : List Json} {s before text : List Char}
    (hbefore : IsSpace before) (h : Writes v s) (htext : WritesItems vs text) :
    WritesItems (v :: vs) (before ++ s ++ ',' :: text) := by
  intro fuel rest hfuel
  obtain ⟨fuel, rfl⟩ := Nat.exists_eq_add_one_of_ne_zero (Nat.ne_of_gt (Nat.zero_lt_of_lt hfuel))
  have hlength : s.length < fuel ∧ text.length + 1 < fuel := by
    simp only [List.length_append, List.length_cons] at hfuel
    omega
  rw [items, List.append_assoc, List.append_assoc, value_append hbefore, List.cons_append,
    h fuel _ hlength.1 (endsNumber_mark (by simp) _)]
  simp only [skip_cons (c := ',') (by decide), htext fuel rest hlength.2, Option.map_some]

/-- A closing brace is no member. -/
theorem members_eq_none {s rest : List Char} (h : skip s = '\x7d' :: rest) (fuel : ℕ) :
    members fuel s = none := by
  cases fuel with
  | zero => rfl
  | succ fuel => rw [members, h]; rfl

theorem writes_object_nil : Writes (object []) ['\x7b', '\x7d'] := by
  intro fuel rest hfuel _
  obtain ⟨fuel, rfl⟩ := Nat.exists_eq_add_one_of_ne_zero (Nat.ne_of_gt (Nat.zero_lt_of_lt hfuel))
  simp [skip, isSpace]

theorem WritesMembers.writes_object {ms : List (String × Json)} {text : List Char}
    (h : WritesMembers ms text) : Writes (object ms) ('\x7b' :: text ++ ['\x7d']) := by
  intro fuel rest hfuel _
  obtain ⟨fuel, rfl⟩ := Nat.exists_eq_add_one_of_ne_zero (Nat.ne_of_gt (Nat.zero_lt_of_lt hfuel))
  have hlength : text.length + 1 < fuel := by
    simp only [List.length_append, List.length_cons, List.length_nil] at hfuel
    omega
  have hmembers := h fuel rest hlength
  have htext : '\x7b' :: text ++ ['\x7d'] ++ rest = '\x7b' :: (text ++ '\x7d' :: rest) := by simp
  rw [htext, value, skip_cons (by decide)]
  simp only
  split
  · rename_i hskip
    rw [members_eq_none hskip] at hmembers
    cases hmembers
  · rw [hmembers]
    rfl

/-- The name of a member starts after the blanks. -/
theorem skip_quote {before : List Char} (hbefore : IsSpace before) (name : String)
    (rest : List Char) :
    skip (before ++ (quote name ++ rest)) =
      '"' :: (name.toList.flatMap escape ++ '"' :: rest) := by
  rw [quote, List.append_assoc, List.cons_append, List.cons_append, List.nil_append]
  exact skip_append_cons hbefore (by decide) _

theorem WritesMembers.single (name : String) {v : Json} {s before between after : List Char}
    (hbefore : IsSpace before) (hbetween : IsSpace between) (h : Writes v s)
    (hafter : IsSpace after) :
    WritesMembers [(name, v)] (before ++ quote name ++ ':' :: (between ++ s) ++ after) := by
  intro fuel rest hfuel
  obtain ⟨fuel, rfl⟩ := Nat.exists_eq_add_one_of_ne_zero (Nat.ne_of_gt (Nat.zero_lt_of_lt hfuel))
  have hlength : s.length < fuel := by
    simp only [List.length_append, List.length_cons] at hfuel
    omega
  have hends : EndsNumber (after ++ '\x7d' :: rest) :=
    (endsNumber_mark (by simp) rest).append hafter
  simp only [List.append_assoc, List.cons_append]
  rw [members, skip_quote hbefore]
  simp only [stringBody_quote, skip_cons (c := ':') (by decide), value_append hbetween,
    h fuel _ hlength hends, skip_append_cons hafter (c := '\x7d') (by decide),
    String.ofList_toList]

theorem WritesMembers.cons (name : String) {v : Json} {ms : List (String × Json)}
    {s before between text : List Char} (hbefore : IsSpace before) (hbetween : IsSpace between)
    (h : Writes v s) (htext : WritesMembers ms text) :
    WritesMembers ((name, v) :: ms)
      (before ++ quote name ++ ':' :: (between ++ s) ++ ',' :: text) := by
  intro fuel rest hfuel
  obtain ⟨fuel, rfl⟩ := Nat.exists_eq_add_one_of_ne_zero (Nat.ne_of_gt (Nat.zero_lt_of_lt hfuel))
  have hlength : s.length < fuel ∧ text.length + 1 < fuel := by
    simp only [List.length_append, List.length_cons] at hfuel
    omega
  have hends : EndsNumber (',' :: (text ++ '\x7d' :: rest)) := endsNumber_mark (by simp) _
  simp only [List.append_assoc, List.cons_append]
  rw [members, skip_quote hbefore]
  simp only [stringBody_quote, skip_cons (c := ':') (by decide), value_append hbetween,
    h fuel _ hlength.1 hends, skip_cons (c := ',') (by decide),
    htext fuel rest hlength.2, Option.map_some, String.ofList_toList]

end DocSite.Json
