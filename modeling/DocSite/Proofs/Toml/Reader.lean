import DocSite.Proofs.Toml.Number
import DocSite.Proofs.Toml.Quoted
import DocSite.Settings.Toml

/-!
# Written lines are read back

* `value?_written`, `value?_toString` and `value?_arrayText`: strings, counts and lists of strings
  are read as the values they write.
* `takes_header` and `takes_entry`: the line of a header opens its table, and the line of an entry
  adds its value. Texts of lines are put together by `Takes.append`, and `readDocument?_of_takes` is
  the document that they make.
-/

namespace DocSite.Toml

open Settings (arrayText entryText headerText)

/-! ### Blanks -/

/-- A character at which no blank, comment or line end starts. -/
structure IsSolid (c : Char) : Prop where
  ne_blank : c ≠ ' '
  ne_tab : c ≠ '\t'
  ne_comment : c ≠ '#'
  ne_line : c ≠ '\n'
  ne_return : c ≠ '\r'

namespace IsSolid

variable {c : Char} (h : IsSolid c) (s : List Char)
include h

theorem skipBlanks_cons : skipBlanks (c :: s) = c :: s := by
  refine List.dropWhile_cons_of_neg ?_
  simp [isBlank, h.ne_blank, h.ne_tab]

theorem skipComment_cons : skipComment (c :: s) = c :: s :=
  skipComment.eq_2 _ fun _ hs => h.ne_comment (List.cons.inj hs).1

theorem lineEnd?_cons : lineEnd? (c :: s) = none :=
  lineEnd?.eq_3 _ (fun _ hs => h.ne_line (List.cons.inj hs).1)
    fun _ hs => h.ne_return (List.cons.inj hs).1

theorem skipLines_cons (fuel : ℕ) : skipLines (fuel + 1) (c :: s) = c :: s := by
  rw [skipLines, h.skipBlanks_cons, h.skipComment_cons, h.lineEnd?_cons]

/-- The margin of a line is skipped. -/
theorem skipLines_margin (fuel k : ℕ) :
    skipLines (fuel + 2) ('\n' :: (List.replicate k ' ' ++ c :: s)) = c :: s := by
  have hmargin : skipBlanks (List.replicate k ' ' ++ c :: s) = c :: s := by
    rw [skipBlanks, List.dropWhile_append_of_pos]
    · exact h.skipBlanks_cons s
    · intro b hb
      rw [List.eq_of_mem_replicate hb]
      rfl
  have hline : lineEnd? (skipComment (skipBlanks ('\n' :: (List.replicate k ' ' ++ c :: s)))) =
      some (List.replicate k ' ' ++ c :: s) := rfl
  rw [skipLines, hline]
  simp only
  rw [skipLines, hmargin, h.skipComment_cons, h.lineEnd?_cons]

end IsSolid

/-! ### Values -/

/-- A written text starts with a quote. -/
theorem exists_written_eq_cons (s : List Char) :
    ∃ q t, written s = q :: t ∧ (q = '"' ∨ q = '\'') := by
  rw [written]
  obtain ⟨literal, multiline⟩ := StringForm.best s
  cases literal <;> cases multiline
  all_goals
    simp only [StringForm.quotes, StringForm.quote]
    exact ⟨_, _, rfl, by decide⟩

theorem isSolid_of_quote {q : Char} (h : q = '"' ∨ q = '\'') : IsSolid q := by
  rcases h with rfl | rfl
  all_goals constructor <;> decide

/-- A text that starts with no quote. -/
def EndsString (rest : List Char) : Prop :=
  rest.head? ≠ some '"' ∧ rest.head? ≠ some '\''

theorem value?_written (depth : ℕ) (s : List Char) {rest : List Char} (hrest : EndsString rest) :
    value? depth (written s ++ rest) = some (.string (String.ofList s), rest) := by
  have hread := read?_written s hrest.1 hrest.2
  obtain ⟨q, t, hs, hq⟩ := exists_written_eq_cons s
  rw [hs, List.cons_append] at hread ⊢
  rw [value?.eq_def]
  simp only [if_pos hq, hread, Option.map_some]

theorem value?_toString (depth : ℕ) {n : ℕ} (hn : n < Nat.pow 2 63) (rest : List Char) :
    value? depth ((toString n).toList ++ '\n' :: rest) = some (.integer n, '\n' :: rest) := by
  have hread := number?_toString rest hn
  obtain ⟨c, ds, hds⟩ := List.exists_cons_of_ne_nil (Text.toString_ne_nil n)
  have hc : c.isDigit := Text.isDigit_of_mem_toString (by rw [hds]; exact List.mem_cons_self)
  have hne {d : Char} (hd : d.isDigit = false) : c ≠ d := by
    rintro rfl
    rw [hc] at hd
    cases hd
  have hquote : ¬ (c = '"' ∨ c = '\'') := not_or.mpr ⟨hne rfl, hne rfl⟩
  rw [hds, List.cons_append] at hread ⊢
  rw [value?.eq_def]
  simp only [if_neg hquote, if_neg (hne (d := '[') rfl), if_neg (hne (d := '\x7b') rfl),
    word?_eq_none hc (w := "true") rfl rfl, word?_eq_none hc (w := "false") rfl rfl, hread]
  rfl

/-! ### Lists of texts -/

theorem endsString_cons {c : Char} (h : c ≠ '"' ∧ c ≠ '\'') (s : List Char) :
    EndsString (c :: s) :=
  ⟨fun hs => h.1 (Option.some.inj hs), fun hs => h.2 (Option.some.inj hs)⟩

theorem isSolid_mark {c : Char} (h : c = ',' ∨ c = ']') : IsSolid c := by
  rcases h with rfl | rfl
  all_goals constructor <;> decide

/-- One text of a list is read up to the mark after it. -/
theorem arrayItems?_written {depth fuel : ℕ} {s margin rest : List Char} {c : Char}
    (hc : c = ',' ∨ c = ']')
    (hmargin : skipLines ((margin ++ (written s ++ c :: rest)).length + 1)
      (margin ++ (written s ++ c :: rest)) = written s ++ c :: rest) :
    arrayItems? (value? depth) (fuel + 1) (margin ++ (written s ++ c :: rest)) =
      if c = ']' then some ([.string (String.ofList s)], rest)
      else (arrayItems? (value? depth) fuel rest).map fun (vs, rest) =>
        (.string (String.ofList s) :: vs, rest) := by
  obtain ⟨q, t, hs, hq⟩ := exists_written_eq_cons s
  have hbracket : ∀ u, written s ++ c :: rest ≠ ']' :: u := by
    intro u hu
    rw [hs] at hu
    obtain rfl := (List.cons.inj hu).1
    exact absurd hq (by decide)
  have hends : EndsString (c :: rest) := by
    rcases hc with rfl | rfl
    all_goals exact endsString_cons (by decide) rest
  rw [arrayItems?, hmargin]
  split
  · exact absurd ‹_› (hbracket _)
  · simp only [value?_written depth s hends, Option.bind_eq_bind, Option.bind_some,
      (isSolid_mark hc).skipLines_cons]
    rcases hc with rfl | rfl
    · rw [if_neg (by decide), Option.map_eq_bind]
      rfl
    · rfl

/-- A list of texts of which each stands on a line of its own. -/
def linesText (names : List (List Char)) : List Char :=
  names.flatMap fun s => "    ".toList ++ written s ++ [',', '\n']

theorem length_le_linesText (names : List (List Char)) :
    names.length ≤ (linesText names).length := by
  rw [linesText, List.length_flatMap]
  induction names with
  | nil => exact Nat.le_refl 0
  | cons s names ih =>
    rw [List.map_cons, List.sum_cons, List.length_cons, List.length_append]
    simp only [List.length_cons]
    omega

theorem arrayItems?_linesText (depth : ℕ) {fuel : ℕ} {names : List (List Char)}
    (hfuel : names.length < fuel) (rest : List Char) :
    arrayItems? (value? depth) fuel ('\n' :: (linesText names ++ ']' :: rest)) =
      some (names.map fun s => .string (String.ofList s), rest) := by
  induction names generalizing fuel with
  | nil =>
    obtain ⟨fuel, rfl⟩ := Nat.exists_eq_add_one_of_ne_zero (Nat.ne_of_gt hfuel)
    have hmargin : skipLines (('\n' :: ']' :: rest).length + 1) ('\n' :: ']' :: rest) =
        ']' :: rest :=
      (isSolid_mark (.inr rfl)).skipLines_margin rest _ 0
    rw [linesText, List.flatMap_nil, List.nil_append, arrayItems?, hmargin]
    rfl
  | cons s names ih =>
    obtain ⟨fuel, rfl⟩ := Nat.exists_eq_add_one_of_ne_zero (Nat.ne_of_gt (Nat.zero_lt_of_lt hfuel))
    have htext : '\n' :: (linesText (s :: names) ++ ']' :: rest) = ('\n' :: List.replicate 4 ' ') ++
        (written s ++ ',' :: '\n' :: (linesText names ++ ']' :: rest)) := by
      simp [linesText]
    have hlength : names.length < fuel := by
      rw [List.length_cons] at hfuel
      omega
    rw [htext, arrayItems?_written (.inl rfl), if_neg (by decide), ih hlength]
    · rfl
    · obtain ⟨q, t, hs, hq⟩ := exists_written_eq_cons s
      rw [hs]
      exact (isSolid_of_quote hq).skipLines_margin _ _ 4

/-- A list of texts is read as it was, however many there are. -/
theorem value?_arrayText (depth : ℕ) (names : List (List Char)) (rest : List Char) :
    value? (depth + 1) (arrayText (names.map written) ++ rest) =
      some (.array (names.map fun s => .string (String.ofList s)), rest) := by
  have hvalue {items s : List Char} (hread : arrayItems? (value? depth) (items.length + 1) items =
      some (names.map fun s => .string (String.ofList s), s)) :
      value? (depth + 1) ('[' :: items) =
        some (.array (names.map fun s => .string (String.ofList s)), s) := by
    rw [value?.eq_def]
    simp only [if_neg (show ¬ ('[' = '"' ∨ '[' = '\'') by decide), if_true, hread,
      Option.map_some]
  match names with
  | [] =>
    have htext : arrayText (([] : List (List Char)).map written) ++ rest = '[' :: ']' :: rest := rfl
    rw [htext]
    refine hvalue ?_
    rw [arrayItems?, (isSolid_mark (.inr rfl)).skipLines_cons]
    rfl
  | [s] =>
    have htext : arrayText ([s].map written) ++ rest =
        '[' :: ([] ++ (written s ++ ']' :: rest)) := by
      simp [arrayText]
    rw [htext]
    refine hvalue ?_
    rw [arrayItems?_written (.inr rfl), if_pos rfl]
    · rfl
    · obtain ⟨q, t, hs, hq⟩ := exists_written_eq_cons s
      rw [hs]
      exact (isSolid_of_quote hq).skipLines_cons _ _
  | s :: s' :: names =>
    have htext : arrayText ((s :: s' :: names).map written) ++ rest =
        '[' :: '\n' :: (linesText (s :: s' :: names) ++ ']' :: rest) := by
      simp [arrayText, linesText, List.flatMap_map]
    rw [htext]
    refine hvalue (arrayItems?_linesText depth ?_ rest)
    have hlength := length_le_linesText (s :: s' :: names)
    simp only [List.length_cons, List.length_append] at hlength ⊢
    omega

/-! ### Keys -/

/-- A name that is a key without quotes. -/
structure IsBareKey (name : String) : Prop where
  ne_nil : name.toList ≠ []
  isKeyChar : ∀ c ∈ name.toList, isKeyChar c

instance (name : String) : Decidable (IsBareKey name) :=
  decidable_of_iff (name.toList ≠ [] ∧ name.toList.all isKeyChar)
    ⟨fun h => ⟨h.1, List.all_eq_true.mp h.2⟩, fun h => ⟨h.1, List.all_eq_true.mpr h.2⟩⟩

/-- A character of a key is no quote, bracket or blank, and starts no comment. -/
theorem isSolid_of_isKeyChar {c : Char} (h : isKeyChar c) :
    IsSolid c ∧ c ≠ '"' ∧ c ≠ '\'' ∧ c ≠ '[' := by
  have hne {d : Char} (hd : isKeyChar d = false) : c ≠ d := by
    rintro rfl
    rw [h] at hd
    cases hd
  exact ⟨⟨hne rfl, hne rfl, hne rfl, hne rfl, hne rfl⟩, hne rfl, hne rfl, hne rfl⟩

/-- The name of a key is read up to a mark that is no part of it. -/
theorem key?_append {name : String} (hname : IsBareKey name) {blanks : List Char} {c : Char}
    (hblanks : ∀ b ∈ blanks, isBlank b) (hc : IsSolid c) (hkey : isKeyChar c = false)
    (hdot : c ≠ '.') (rest : List Char) :
    key? (name.toList ++ (blanks ++ c :: rest)) = some (([], name), c :: rest) := by
  have hend : ∀ b ∈ (blanks ++ c :: rest).head?, ¬ isKeyChar b := by
    intro b hb
    cases blanks with
    | nil =>
      obtain rfl : c = b := Option.some.inj hb
      simp [hkey]
    | cons a blanks =>
      obtain rfl : a = b := Option.some.inj hb
      intro hkey
      have ha := hblanks a List.mem_cons_self
      have hsolid := (isSolid_of_isKeyChar hkey).1
      simp [isBlank, hsolid.ne_blank, hsolid.ne_tab] at ha
  have htake : (name.toList ++ (blanks ++ c :: rest)).takeWhile isKeyChar = name.toList :=
    Text.takeWhile_append_of_head? hname.isKeyChar hend
  have hskip : skipBlanks (blanks ++ c :: rest) = c :: rest := by
    rw [skipBlanks, List.dropWhile_append_of_pos hblanks]
    exact hc.skipBlanks_cons rest
  obtain ⟨d, ds, hds⟩ := List.exists_cons_of_ne_nil hname.ne_nil
  obtain ⟨hd, hdouble, hsingle, -⟩ :=
    isSolid_of_isKeyChar (hname.isKeyChar d (by rw [hds]; exact List.mem_cons_self))
  have hstart : skipBlanks (name.toList ++ (blanks ++ c :: rest)) =
      name.toList ++ (blanks ++ c :: rest) := by
    rw [hds, List.cons_append]
    exact hd.skipBlanks_cons _
  have hline : readLine? (name.toList ++ (blanks ++ c :: rest)) = none := by
    rw [hds, List.cons_append]
    exact readLine?.eq_3 _ (fun _ h => hdouble (List.cons.inj h).1)
      fun _ h => hsingle (List.cons.inj h).1
  have hsimple : simpleKey? (name.toList ++ (blanks ++ c :: rest)) =
      some (name, blanks ++ c :: rest) := by
    rw [simpleKey?, hline]
    simp [htake, hname.ne_nil]
  have hnames : keyNames? maxDepth (name.toList ++ (blanks ++ c :: rest)) =
      some ([name], c :: rest) := by
    rw [maxDepth, keyNames?, hstart, hsimple]
    simp only [Option.bind_eq_bind, Option.bind_some, hskip]
    split
    · exact absurd (List.cons.inj ‹_›).1 hdot
    · rfl
  rw [key?, hnames]
  rfl

/-! ### Lines -/

/-- A text of whole lines takes the reader from one state to another. -/
def Takes (r : Reading) (text : List Char) (r' : Reading) : Prop :=
  ∃ lines ≤ text.length, ∀ fuel rest, lines? (lines + fuel) r (text ++ rest) = lines? fuel r' rest

theorem Takes.append {r r' r'' : Reading} {text text' : List Char} (h : Takes r text r')
    (h' : Takes r' text' r'') : Takes r (text ++ text') r'' := by
  obtain ⟨n, hn, hread⟩ := h
  obtain ⟨n', hn', hread'⟩ := h'
  refine ⟨n + n', ?_, fun fuel rest => ?_⟩
  · rw [List.length_append]
    omega
  · rw [List.append_assoc, Nat.add_assoc, hread, hread']

theorem takes_blankLine (r : Reading) : Takes r ['\n'] r := by
  refine ⟨1, Nat.le_refl 1, fun fuel rest => ?_⟩
  rw [Nat.add_comm, lines?]
  rfl

/-- A line that is not blank takes the reader where it leads. -/
theorem takes_line {r r' : Reading} {c : Char} {text : List Char} (hc : IsSolid c)
    (h : ∀ rest, line? r (c :: text ++ rest) = some (r', rest)) : Takes r (c :: text) r' := by
  refine ⟨1, Nat.succ_le_succ (Nat.zero_le _), fun fuel rest => ?_⟩
  have hline := h rest
  rw [List.cons_append] at hline ⊢
  rw [Nat.add_comm, lines?, hc.skipBlanks_cons, hc.skipComment_cons]
  simp only [hc.lineEnd?_cons, hline]

theorem takes_header {r : Reading} {name : String} (hname : IsBareKey name) {root : Table}
    (hroot : openTable [] name r.root = some root) :
    Takes r (headerText name) ⟨root, [name]⟩ := by
  have hbracket : IsSolid '[' := by constructor <;> decide
  obtain ⟨d, ds, hds⟩ := List.exists_cons_of_ne_nil hname.ne_nil
  obtain ⟨-, -, -, hd⟩ :=
    isSolid_of_isKeyChar (hname.isKeyChar d (by rw [hds]; exact List.mem_cons_self))
  have hline (rest : List Char) :
      line? r ('[' :: (name.toList ++ [']', '\n']) ++ rest) = some (⟨root, [name]⟩, rest) := by
    have htext : '[' :: (name.toList ++ [']', '\n']) ++ rest =
        '[' :: (name.toList ++ ([] ++ ']' :: '\n' :: rest)) := by simp
    have hone : ∀ t, name.toList ++ ([] ++ ']' :: '\n' :: rest) = '[' :: t → False := by
      intro t ht
      rw [hds] at ht
      exact hd (List.cons.inj ht).1
    have hkey := key?_append hname (List.forall_mem_nil _) (isSolid_mark (.inr rfl)) rfl
      (by decide) ('\n' :: rest)
    rw [htext, line?.eq_2 r _ hone, headerLine?, hkey]
    simp only [Option.bind_eq_bind, Option.bind_some, Bool.false_eq_true, if_false, hroot]
    rfl
  exact takes_line hbracket hline

theorem takes_entry {r : Reading} {name : String} (hname : IsBareKey name) {value : List Char}
    {v : Toml} {c : Char} {cs : List Char} (hcons : value = c :: cs) (hc : IsSolid c)
    (hvalue : ∀ rest, value? maxDepth (value ++ '\n' :: rest) = some (v, '\n' :: rest))
    {root : Table}
    (hroot : updateAt false (fun kind t => insertValue [] name v kind t) r.header .header r.root =
      some root) :
    Takes r (entryText name value) { r with root } := by
  obtain ⟨d, ds, hds⟩ := List.exists_cons_of_ne_nil hname.ne_nil
  obtain ⟨hsolid, -, -, hd⟩ :=
    isSolid_of_isKeyChar (hname.isKeyChar d (by rw [hds]; exact List.mem_cons_self))
  have hequals : IsSolid '=' := by constructor <;> decide
  have hline (rest : List Char) :
      line? r (entryText name value ++ rest) = some ({ r with root }, rest) := by
    have htext : entryText name value ++ rest =
        name.toList ++ ([' '] ++ '=' :: ' ' :: (value ++ '\n' :: rest)) := by
      simp [entryText]
    have hblank : ∀ b ∈ [' '], isBlank b := by
      intro b hb
      rw [List.mem_singleton.mp hb]
      rfl
    have hskip : skipBlanks (' ' :: (value ++ '\n' :: rest)) = value ++ '\n' :: rest := by
      rw [skipBlanks, List.dropWhile_cons_of_pos rfl, hcons, List.cons_append]
      exact hc.skipBlanks_cons _
    have hkey := key?_append hname hblank hequals rfl (by decide)
      (' ' :: (value ++ '\n' :: rest))
    have hentry : line? r (name.toList ++ ([' '] ++ '=' :: ' ' :: (value ++ '\n' :: rest))) =
        entryLine? r (name.toList ++ ([' '] ++ '=' :: ' ' :: (value ++ '\n' :: rest))) := by
      rw [hds]
      exact line?.eq_3 r _ (fun _ h => hd (List.cons.inj h).1) fun _ h => hd (List.cons.inj h).1
    rw [htext, hentry, entryLine?, hkey]
    simp only [Option.bind_eq_bind, Option.bind_some, hskip, hvalue, hroot]
    rfl
  have htext : entryText name value = d :: (ds ++ " = ".toList ++ value ++ ['\n']) := by
    rw [entryText, hds]
    rfl
  rw [htext] at hline ⊢
  exact takes_line hsolid hline

/-- A document of whole lines is read as the table they lead to. -/
theorem readDocument?_of_takes {text : List Char} {r : Reading} (h : Takes {} text r)
    (hmark : text.head? ≠ some '\ufeff') :
    readDocument? (String.ofList text) = some r.root := by
  obtain ⟨n, hn, hread⟩ := h
  have hdrop : dropMark text = text := by
    refine dropMark.eq_2 text fun rest htext => hmark ?_
    rw [htext]
    rfl
  have hlines : lines? (text.length + 1) {} text = some r := by
    obtain ⟨k, hk⟩ := Nat.exists_eq_add_of_le hn
    have hfuel : text.length + 1 = n + (k + 1) := by omega
    have hend := hread (k + 1) []
    rw [List.append_nil] at hend
    rw [hfuel, hend, lines?]
    rfl
  rw [readDocument?, String.toList_ofList, hdrop, hlines, Option.map_some]

end DocSite.Toml
