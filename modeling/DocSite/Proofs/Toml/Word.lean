import DocSite.Proofs.Entries
import DocSite.Toml.Reader

/-!
# The integers of a document are words

A value that is read holds no integer but those from `-2^63` below `2^63` (`HasWords`). Numbers are
checked where they are read (`hasWords_of_number?`), and what a line does to the tables of a
document puts values into them and changes none (`HasWords.updateAt`), so a whole document has only
words (`hasWords_of_readDocument?`).
-/

namespace DocSite.Toml

/-- A value all of whose integers are words. -/
inductive HasWords : Toml → Prop
  | string (s : String) : HasWords (string s)
  | integer {n : Int} (h : isWord n) : HasWords (integer n)
  | float (text : String) : HasWords (float text)
  | boolean (b : Bool) : HasWords (boolean b)
  | time (text : String) : HasWords (time text)
  | array {items : List Toml} (h : ∀ v ∈ items, HasWords v) : HasWords (array items)
  | table {kind : TableKind} {entries : Table} (h : ∀ e ∈ entries, HasWords e.2) :
      HasWords (table kind entries)
  | tables {items : List Toml} (h : ∀ v ∈ items, HasWords v) : HasWords (tables items)

/-- A table all of whose integers are words. -/
def Table.HasWords (t : Table) : Prop :=
  ∀ e ∈ t, e.2.HasWords

/-! ### Tables -/

namespace Table.HasWords

variable {t : Table} {name : String} {v : Toml}

theorem nil : Table.HasWords [] :=
  List.forall_mem_nil _

theorem concat (h : Table.HasWords t) (hv : v.HasWords) : Table.HasWords (t ++ [(name, v)]) :=
  List.forall_mem_append.mpr ⟨h, List.forall_mem_singleton.mpr hv⟩

theorem set (h : Table.HasWords t) (hv : v.HasWords) : Table.HasWords (Entries.set name v t) := by
  intro e he
  rcases Entries.eq_or_mem_of_mem_set he with rfl | he
  · exact hv
  · exact h e he

theorem lookup (h : Table.HasWords t) (hv : t.lookup name = some v) : v.HasWords :=
  h _ (Entries.mem_of_lookup hv)

end Table.HasWords

theorem HasWords.entries {kind : TableKind} {t : Table} (h : (Toml.table kind t).HasWords) :
    Table.HasWords t := by
  cases h with
  | table h => exact h

theorem HasWords.items {items : List Toml} (h : (Toml.tables items).HasWords) :
    ∀ v ∈ items, v.HasWords := by
  cases h with
  | tables h => exact h

/-- What changes one table and keeps it to words does so below any path. -/
theorem Table.HasWords.updateAt {dotted : Bool} {f : TableKind → Table → Option Table}
    (hf : ∀ {kind t t'}, Table.HasWords t → f kind t = some t' → Table.HasWords t')
    {path : List String} {kind : TableKind} {t t' : Table} (ht : Table.HasWords t)
    (h : Toml.updateAt dotted f path kind t = some t') : Table.HasWords t' := by
  induction path generalizing kind t t' with
  | nil => exact hf ht h
  | cons name rest ih =>
    rw [Toml.updateAt] at h
    split at h
    · -- A table is made.
      obtain ⟨new, hnew, rfl⟩ := Option.map_eq_some_iff.mp h
      exact ht.concat (.table (ih .nil hnew))
    · rename_i kind inner hlookup
      split_ifs at h
      obtain ⟨new, hnew, rfl⟩ := Option.map_eq_some_iff.mp h
      exact ht.set (.table (ih (ht.lookup hlookup).entries hnew))
    · -- The last one of several tables is meant.
      rename_i items hlookup
      have hitems := (ht.lookup hlookup).items
      split at h
      · rename_i kind inner before hreverse
        obtain ⟨new, hnew, rfl⟩ := Option.map_eq_some_iff.mp h
        have hmem : ∀ v ∈ Toml.table kind inner :: before, v.HasWords := by
          intro v hv
          rw [← hreverse] at hv
          exact hitems v (List.mem_reverse.mp hv)
        obtain ⟨hlast, hbefore⟩ := List.forall_mem_cons.mp hmem
        refine ht.set (.tables (List.forall_mem_append.mpr ⟨fun v hv => ?_, ?_⟩))
        · exact hbefore v (List.mem_reverse.mp hv)
        · exact List.forall_mem_singleton.mpr (.table (ih hlast.entries hnew))
      · cases h
    · cases h

theorem Table.HasWords.insertValue {path : List String} {key : String} {v : Toml}
    {kind : TableKind} {t t' : Table} (ht : Table.HasWords t) (hv : v.HasWords)
    (h : Toml.insertValue path key v kind t = some t') : Table.HasWords t' := by
  refine Table.HasWords.updateAt (fun {kind t t'} ht h => ?_) ht h
  split_ifs at h
  obtain rfl := Option.some.inj h
  exact ht.concat hv

theorem Table.HasWords.openTable {path : List String} {key : String} {t t' : Table}
    (ht : Table.HasWords t) (h : Toml.openTable path key t = some t') : Table.HasWords t' := by
  refine Table.HasWords.updateAt (fun {kind t t'} ht h => ?_) ht h
  split at h
  · obtain rfl := Option.some.inj h
    exact ht.concat (.table Table.HasWords.nil)
  · rename_i inner hlookup
    obtain rfl := Option.some.inj h
    exact ht.set (.table (ht.lookup hlookup).entries)
  · cases h

theorem Table.HasWords.appendTable {path : List String} {key : String} {t t' : Table}
    (ht : Table.HasWords t) (h : Toml.appendTable path key t = some t') : Table.HasWords t' := by
  refine Table.HasWords.updateAt (fun {kind t t'} ht h => ?_) ht h
  have hempty : ∀ v ∈ [Toml.table .header []], v.HasWords :=
    List.forall_mem_singleton.mpr (.table Table.HasWords.nil)
  split at h
  · obtain rfl := Option.some.inj h
    exact ht.concat (.tables hempty)
  · rename_i items hlookup
    obtain rfl := Option.some.inj h
    exact ht.set (.tables (List.forall_mem_append.mpr ⟨(ht.lookup hlookup).items, hempty⟩))
  · cases h

/-! ### Values -/

theorem isWord_of_integer? {s rest : List Char} {n : Int} (h : integer? s = some (n, rest)) :
    isWord n := by
  -- Whatever the base, the number is checked after it is read.
  have hcheck {r : Option (Int × List Char)}
      (hr : (r.bind fun read => if isWord read.1 then some read else none) = some (n, rest)) :
      isWord n := by
    obtain ⟨read, -, hr⟩ := Option.bind_eq_some_iff.mp hr
    split_ifs at hr with hn
    cases hr
    exact hn
  unfold integer? at h
  split at h
  · exact hcheck h
  · exact hcheck h
  · exact hcheck h
  · exact hcheck h

theorem hasWords_of_number? {s rest : List Char} {v : Toml} (h : number? s = some (v, rest)) :
    v.HasWords := by
  simp only [number?, Option.orElse_eq_orElse, Option.orElse_eq_or, Option.or_eq_some_iff,
    Option.map_eq_some_iff, Prod.exists] at h
  rcases h with ⟨text, _, -, heq⟩ | ⟨-, ⟨text, _, -, heq⟩ | ⟨-, n, _, hn, heq⟩⟩
  · cases heq
    exact .time text
  · cases heq
    exact .float text
  · cases heq
    exact .integer (isWord_of_integer? hn)

variable {readValue? : List Char → Option (Toml × List Char)}

/-- A reader whose values have only words. -/
def ReadsWords (readValue? : List Char → Option (Toml × List Char)) : Prop :=
  ∀ {s v rest}, readValue? s = some (v, rest) → v.HasWords

theorem ReadsWords.arrayItems? (h : ReadsWords readValue?) {fuel : ℕ} {s rest : List Char}
    {vs : List Toml} (hread : Toml.arrayItems? readValue? fuel s = some (vs, rest)) :
    ∀ v ∈ vs, v.HasWords := by
  induction fuel generalizing s rest vs with
  | zero => cases hread
  | succ fuel ih =>
    rw [Toml.arrayItems?] at hread
    split at hread
    · cases hread
      exact List.forall_mem_nil _
    · obtain ⟨⟨v, rest'⟩, hv, hread⟩ := Option.bind_eq_some_iff.mp hread
      simp only at hread
      split at hread
      · cases hread
        exact List.forall_mem_singleton.mpr (h hv)
      · obtain ⟨⟨vs', rest''⟩, hvs, hread⟩ := Option.bind_eq_some_iff.mp hread
        cases hread
        exact List.forall_mem_cons.mpr ⟨h hv, ih hvs⟩
      · cases hread

theorem ReadsWords.inlineEntries? (h : ReadsWords readValue?) {fuel : ℕ} {t t' : Table}
    {s rest : List Char} (ht : Table.HasWords t)
    (hread : Toml.inlineEntries? readValue? fuel t s = some (t', rest)) : Table.HasWords t' := by
  induction fuel generalizing t s with
  | zero => cases hread
  | succ fuel ih =>
    rw [Toml.inlineEntries?] at hread
    obtain ⟨⟨⟨path, key⟩, rest'⟩, -, hread⟩ := Option.bind_eq_some_iff.mp hread
    simp only at hread
    split at hread
    · obtain ⟨⟨v, rest''⟩, hv, hread⟩ := Option.bind_eq_some_iff.mp hread
      obtain ⟨t'', ht'', hread⟩ := Option.bind_eq_some_iff.mp hread
      have hwords := ht.insertValue (h hv) ht''
      simp only at hread
      split at hread
      · cases hread
        exact hwords
      · exact ih hwords hread
      · cases hread
    · cases hread

theorem ReadsWords.inlineTable? (h : ReadsWords readValue?) {t : Table} {s rest : List Char}
    (hread : Toml.inlineTable? readValue? s = some (t, rest)) : Table.HasWords t := by
  rw [Toml.inlineTable?] at hread
  split at hread
  · cases hread
    exact .nil
  · exact h.inlineEntries? .nil hread

/-- What a value that is read can be. -/
theorem value?_cases {depth : ℕ} {s rest : List Char} {v : Toml}
    (h : value? depth s = some (v, rest)) :
    (∃ text, v = .string text) ∨ (∃ b, v = .boolean b) ∨ number? s = some (v, rest) ∨
      ∃ below, depth = below + 1 ∧
        ((∃ vs fuel s', v = .array vs ∧ arrayItems? (value? below) fuel s' = some (vs, rest)) ∨
          ∃ t s', v = .table .inline t ∧ inlineTable? (value? below) s' = some (t, rest)) := by
  rw [value?.eq_def] at h
  cases s with
  | nil => cases h
  | cons c s =>
    simp only at h
    split_ifs at h
    · obtain ⟨⟨text, rest'⟩, -, heq⟩ := Option.map_eq_some_iff.mp h
      cases heq
      exact .inl ⟨_, rfl⟩
    · cases depth with
      | zero => cases h
      | succ below =>
        obtain ⟨⟨vs, rest'⟩, hvs, heq⟩ := Option.map_eq_some_iff.mp h
        cases heq
        exact .inr (.inr (.inr ⟨below, rfl, .inl ⟨vs, _, _, rfl, hvs⟩⟩))
    · cases depth with
      | zero => cases h
      | succ below =>
        obtain ⟨⟨t, rest'⟩, ht, heq⟩ := Option.map_eq_some_iff.mp h
        cases heq
        exact .inr (.inr (.inr ⟨below, rfl, .inr ⟨t, _, rfl, ht⟩⟩))
    · simp only [Option.orElse_eq_orElse, Option.orElse_eq_or, Option.or_eq_some_iff,
        Option.map_eq_some_iff] at h
      rcases h with ⟨rest', -, heq⟩ | ⟨-, ⟨rest', -, heq⟩ | ⟨-, hnumber⟩⟩
      · cases heq
        exact .inr (.inl ⟨true, rfl⟩)
      · cases heq
        exact .inr (.inl ⟨false, rfl⟩)
      · exact .inr (.inr (.inl hnumber))

/-- The values that are read have only words, however deep they are. -/
theorem readsWords_value? (depth : ℕ) : ReadsWords (value? depth) := by
  induction depth with
  | zero =>
    intro s v rest h
    rcases value?_cases h with ⟨text, rfl⟩ | ⟨b, rfl⟩ | hnumber | ⟨below, hbelow, -⟩
    · exact .string text
    · exact .boolean b
    · exact hasWords_of_number? hnumber
    · cases hbelow
  | succ depth ih =>
    intro s v rest h
    rcases value?_cases h with ⟨text, rfl⟩ | ⟨b, rfl⟩ | hnumber | ⟨below, hbelow, hnested⟩
    · exact .string text
    · exact .boolean b
    · exact hasWords_of_number? hnumber
    · cases hbelow
      rcases hnested with ⟨vs, fuel, s', rfl, hvs⟩ | ⟨t, s', rfl, ht⟩
      · exact .array (ih.arrayItems? hvs)
      · exact .table (ih.inlineTable? ht)

/-! ### Documents -/

theorem hasWords_of_headerLine? {r r' : Reading} {several : Bool} {s rest : List Char}
    (hr : Table.HasWords r.root) (h : headerLine? r several s = some (r', rest)) :
    Table.HasWords r'.root := by
  rw [headerLine?] at h
  obtain ⟨⟨⟨path, key⟩, s₁⟩, -, h⟩ := Option.bind_eq_some_iff.mp h
  cases several with
  | true =>
    obtain ⟨root, hroot, h⟩ := Option.bind_eq_some_iff.mp h
    obtain ⟨s₂, -, h⟩ := Option.bind_eq_some_iff.mp h
    obtain ⟨s₃, -, h⟩ := Option.bind_eq_some_iff.mp h
    cases h
    exact hr.appendTable hroot
  | false =>
    obtain ⟨root, hroot, h⟩ := Option.bind_eq_some_iff.mp h
    obtain ⟨s₂, -, h⟩ := Option.bind_eq_some_iff.mp h
    obtain ⟨s₃, -, h⟩ := Option.bind_eq_some_iff.mp h
    cases h
    exact hr.openTable hroot

theorem hasWords_of_entryLine? {r r' : Reading} {s rest : List Char}
    (hr : Table.HasWords r.root) (h : entryLine? r s = some (r', rest)) :
    Table.HasWords r'.root := by
  rw [entryLine?] at h
  obtain ⟨⟨⟨path, key⟩, s₁⟩, -, h⟩ := Option.bind_eq_some_iff.mp h
  simp only at h
  split at h
  · obtain ⟨⟨v, s₂⟩, hv, h⟩ := Option.bind_eq_some_iff.mp h
    obtain ⟨s₃, -, h⟩ := Option.bind_eq_some_iff.mp h
    obtain ⟨root, hroot, h⟩ := Option.bind_eq_some_iff.mp h
    cases h
    exact hr.updateAt (fun ht hinsert => ht.insertValue (readsWords_value? _ hv) hinsert) hroot
  · cases h

theorem hasWords_of_line? {r r' : Reading} {s rest : List Char} (hr : Table.HasWords r.root)
    (h : line? r s = some (r', rest)) : Table.HasWords r'.root := by
  unfold line? at h
  split at h
  · exact hasWords_of_headerLine? hr h
  · exact hasWords_of_headerLine? hr h
  · exact hasWords_of_entryLine? hr h

theorem hasWords_of_lines? {fuel : ℕ} {r r' : Reading} {s : List Char}
    (hr : Table.HasWords r.root) (h : lines? fuel r s = some r') : Table.HasWords r'.root := by
  induction fuel generalizing r s with
  | zero => cases h
  | succ fuel ih =>
    rw [lines?] at h
    split at h
    · cases h
      exact hr
    · split at h
      · exact ih hr h
      · split at h
        · rename_i hline
          exact ih (hasWords_of_line? hr hline) h
        · cases h

/-- All integers of a document are words. -/
theorem hasWords_of_readDocument? {text : String} {root : Table}
    (h : readDocument? text = some root) : Table.HasWords root := by
  obtain ⟨r, hr, rfl⟩ := Option.map_eq_some_iff.mp h
  exact hasWords_of_lines? .nil hr

end DocSite.Toml
