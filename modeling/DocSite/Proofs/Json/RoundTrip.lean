import DocSite.Proofs.Json.Reading

/-!
# Printed JSON is read back

Both printers write a value in a text from which the reader takes the same value (`writes_compact`,
`writes_prettyAt`), if numbers that are kept by their text have one that a number can have
(`IsReadable`). A text between blanks that writes a value is read as it (`read?_of_writes`).
-/

namespace DocSite.Json

/-- A value in which every number that is kept by its text has a fraction or an exponent there. -/
inductive IsReadable : Json → Prop
  | null : IsReadable null
  | bool (b : Bool) : IsReadable (bool b)
  | integer (n : Int) : IsReadable (integer n)
  | decimal {text : String} (h : IsDecimal text) : IsReadable (decimal text)
  | string (s : String) : IsReadable (string s)
  | array {items : List Json} (h : ∀ v ∈ items, IsReadable v) : IsReadable (array items)
  | object {members : List (String × Json)} (h : ∀ m ∈ members, IsReadable m.2) :
      IsReadable (object members)

theorem isReadable_ofString? (s : Option String) : IsReadable (ofString? s) := by
  cases s with
  | none => exact .null
  | some s => exact .string s

/-! ### The printer on one line -/

theorem isSpace_nil : IsSpace [] :=
  List.forall_mem_nil _

theorem writesItems_compactItems {vs : List Json} (hne : vs ≠ [])
    (h : ∀ v ∈ vs, Writes v (compact v)) : WritesItems vs (compactItems vs) := by
  induction vs with
  | nil => exact absurd rfl hne
  | cons v vs ih =>
    obtain ⟨hv, hvs⟩ := List.forall_mem_cons.mp h
    cases vs with
    | nil =>
      have hsingle := WritesItems.single isSpace_nil hv isSpace_nil
      rwa [List.append_nil] at hsingle
    | cons w vs => exact .cons isSpace_nil hv (ih (List.cons_ne_nil w vs) hvs)

theorem writesMembers_compactMembers {ms : List (String × Json)} (hne : ms ≠ [])
    (h : ∀ m ∈ ms, Writes m.2 (compact m.2)) : WritesMembers ms (compactMembers ms) := by
  induction ms with
  | nil => exact absurd rfl hne
  | cons m ms ih =>
    obtain ⟨hm, hms⟩ := List.forall_mem_cons.mp h
    cases ms with
    | nil =>
      have hsingle := WritesMembers.single m.1 isSpace_nil isSpace_nil hm isSpace_nil
      rwa [List.append_nil] at hsingle
    | cons n ms => exact .cons m.1 isSpace_nil isSpace_nil hm (ih (List.cons_ne_nil n ms) hms)

/-- The text of a value on one line writes it. -/
theorem writes_compact {v : Json} (h : IsReadable v) : Writes v (compact v) := by
  induction h with
  | null => exact writes_null
  | bool b => exact writes_bool b
  | integer n => exact writes_integer n
  | decimal h => exact writes_decimal h
  | string s => exact writes_string s
  | @array vs _ ih =>
    cases vs with
    | nil => exact writes_array_nil
    | cons v vs => exact (writesItems_compactItems (List.cons_ne_nil v vs) ih).writes_array
  | @object ms _ ih =>
    cases ms with
    | nil => exact writes_object_nil
    | cons m ms => exact (writesMembers_compactMembers (List.cons_ne_nil m ms) ih).writes_object

/-! ### The printer on several lines -/

theorem isSpace_newline (depth : ℕ) : IsSpace (newline depth) := by
  intro c hc
  rcases List.mem_cons.mp hc with rfl | hc
  · rfl
  · rw [List.eq_of_mem_replicate hc]
    rfl

theorem isSpace_blank : IsSpace [' '] := by
  intro c hc
  rw [List.mem_singleton.mp hc]
  rfl

theorem writesItems_prettyItems {v : Json} {vs : List Json} {depth : ℕ} {before after : List Char}
    (hbefore : IsSpace before) (hafter : IsSpace after)
    (h : ∀ w ∈ v :: vs, Writes w (prettyAt depth w)) :
    WritesItems (v :: vs) (before ++ prettyAt depth v ++ prettyItems depth vs ++ after) := by
  induction vs generalizing v before with
  | nil =>
    rw [prettyItems, List.append_nil]
    exact .single hbefore (h v List.mem_cons_self) hafter
  | cons w vs ih =>
    obtain ⟨hv, hvs⟩ := List.forall_mem_cons.mp h
    have hrest := WritesItems.cons hbefore hv (ih (isSpace_newline depth) hvs)
    rw [prettyItems]
    simpa only [List.append_assoc, List.cons_append] using hrest

theorem writesMembers_prettyMembers (name : String) {v : Json} {ms : List (String × Json)}
    {depth : ℕ} {before after : List Char} (hbefore : IsSpace before) (hafter : IsSpace after)
    (hv : Writes v (prettyAt depth v)) (hms : ∀ m ∈ ms, Writes m.2 (prettyAt depth m.2)) :
    WritesMembers ((name, v) :: ms)
      (before ++ quote name ++ ':' :: ' ' :: prettyAt depth v ++ prettyMembers depth ms
        ++ after) := by
  induction ms generalizing name v before with
  | nil =>
    rw [prettyMembers, List.append_nil]
    exact .single name hbefore isSpace_blank hv hafter
  | cons m ms ih =>
    obtain ⟨hm, hms⟩ := List.forall_mem_cons.mp hms
    have hrest := WritesMembers.cons name hbefore isSpace_blank hv
      (ih m.1 (isSpace_newline depth) hm hms)
    rw [prettyMembers]
    simpa only [List.append_assoc, List.cons_append, List.nil_append] using hrest

/-- The text of a value at any depth writes it. -/
theorem writes_prettyAt {v : Json} (h : IsReadable v) (depth : ℕ) :
    Writes v (prettyAt depth v) := by
  induction h generalizing depth with
  | null => exact writes_null
  | bool b => exact writes_bool b
  | integer n => exact writes_integer n
  | decimal h => exact writes_decimal h
  | string s => exact writes_string s
  | @array vs _ ih =>
    cases vs with
    | nil => exact writes_array_nil
    | cons v vs =>
      have hitems := writesItems_prettyItems (isSpace_newline (depth + 1)) (isSpace_newline depth)
        fun w hw => ih w hw (depth + 1)
      rw [prettyAt]
      simpa only [List.append_assoc, List.cons_append] using hitems.writes_array
  | @object ms _ ih =>
    cases ms with
    | nil => exact writes_object_nil
    | cons m ms =>
      obtain ⟨hm, hms⟩ := List.forall_mem_cons.mp ih
      have hmembers := writesMembers_prettyMembers m.1 (isSpace_newline (depth + 1))
        (isSpace_newline depth) (hm (depth + 1)) fun n hn => hms n hn (depth + 1)
      rw [prettyAt]
      simpa only [List.append_assoc, List.cons_append] using hmembers.writes_object

/-! ### Whole texts -/

/-- A text that writes a value is read as it, also with blanks at its end. -/
theorem read?_of_writes {v : Json} {text blanks : List Char} (h : Writes v text)
    (hblanks : IsSpace blanks) : read? (String.ofList (text ++ blanks)) = some v := by
  have hends : EndsNumber blanks := by
    have hnil : EndsNumber [] := fun c hc => nomatch hc
    simpa using hnil.append hblanks
  have hlength : text.length < (String.ofList (text ++ blanks)).length + 1 := by
    rw [String.length_ofList, List.length_append]
    omega
  have hskip : skip blanks = [] := by
    rw [← List.append_nil blanks, skip_append hblanks]
    rfl
  rw [read?, String.toList_ofList, h _ _ hlength hends]
  simp only [hskip, List.isEmpty_nil, if_true]

theorem read?_text {v : Json} (h : IsReadable v) : read? v.text = some v := by
  rw [text, ← List.append_nil (compact v)]
  exact read?_of_writes (writes_compact h) isSpace_nil

theorem read?_pretty {v : Json} (h : IsReadable v) : read? v.pretty = some v := by
  rw [pretty, ← List.append_nil (prettyAt 0 v)]
  exact read?_of_writes (writes_prettyAt h 0) isSpace_nil

/-- The text on several lines is read back with the end of its last line. -/
theorem read?_pretty_append_line {v : Json} (h : IsReadable v) :
    read? (v.pretty ++ "\n") = some v := by
  have hline : v.pretty ++ "\n" = String.ofList (prettyAt 0 v ++ ['\n']) := by
    rw [pretty, String.ofList_append]
  rw [hline]
  exact read?_of_writes (writes_prettyAt h 0) (isSpace_newline 0)

end DocSite.Json
