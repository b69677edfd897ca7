import DocSite.Proofs.Entries
import DocSite.Proofs.Toml.Reader
import DocSite.Proofs.Toml.Word
import DocSite.Settings.Toml

/-!
# Written settings are read back

Settings whose counts are below `2 ^ 63` (`ListingSettings.IsWritable`) are written as a document of
two tables (`takes_contentText`, `exists_listingText`), from which the same settings are read
(`exists_toml`). Settings that were read from a document are of this kind
(`isWritable_of_readToml?`).
-/

namespace DocSite

open Toml

/-! ### Tables of a document -/

namespace Toml

/-- The reader in the last table of a document. -/
def Reading.inTable (before : Table) (name : String) (entries : Table) : Reading :=
  ⟨before ++ [(name, .table .header entries)], [name]⟩

section InTable

variable {before : Table} {header : String} (hheader : before.lookup header = none)
include hheader

/-- An entry is added to the table that the reader is in. -/
theorem takes_entry_inTable {entries : Table} {name : String} (hname : IsBareKey name)
    (hentries : entries.lookup name = none) {value cs : List Char} {v : Toml} {c : Char}
    (hcons : value = c :: cs) (hc : IsSolid c)
    (hvalue : ∀ rest, value? maxDepth (value ++ '\n' :: rest) = some (v, '\n' :: rest)) :
    Takes (.inTable before header entries) (Settings.entryText name value)
      (.inTable before header (entries ++ [(name, v)])) := by
  refine takes_entry hname hcons hc hvalue ?_
  simp [Reading.inTable, updateAt, Entries.lookup_append_singleton hheader, insertValue, hentries,
    Entries.set_append_singleton hheader]

end InTable

/-- A header opens a table after those that are there. -/
theorem takes_header_inTable {r : Reading} {name : String} (hname : IsBareKey name)
    (hroot : r.root.lookup name = none) :
    Takes r (Settings.headerText name) (.inTable r.root name []) := by
  refine takes_header hname ?_
  simp [openTable, updateAt, hroot]

theorem endsString_line (rest : List Char) : EndsString ('\n' :: rest) :=
  endsString_cons (by decide) rest

/-- An entry with a text. -/
theorem takes_text {before entries : Table} {header name : String}
    (hheader : before.lookup header = none) (hname : IsBareKey name)
    (hentries : entries.lookup name = none) (s : String) :
    Takes (.inTable before header entries) (Settings.entryText name (written s.toList))
      (.inTable before header (entries ++ [(name, .string s)])) := by
  obtain ⟨q, t, hs, hq⟩ := exists_written_eq_cons s.toList
  refine takes_entry_inTable hheader hname hentries hs (isSolid_of_quote hq) fun rest => ?_
  rw [value?_written maxDepth s.toList (endsString_line rest), String.ofList_toList]

/-- An entry with a list of texts. -/
theorem takes_texts {before entries : Table} {header name : String}
    (hheader : before.lookup header = none) (hname : IsBareKey name)
    (hentries : entries.lookup name = none) (names : List String) :
    Takes (.inTable before header entries)
      (Settings.entryText name (Settings.arrayText (names.map fun s => written s.toList)))
      (.inTable before header (entries ++ [(name, .array (names.map .string))])) := by
  have hbracket : IsSolid '[' := by constructor <;> decide
  have hvalue (rest : List Char) :
      value? maxDepth (Settings.arrayText (names.map fun s => written s.toList) ++ '\n' :: rest) =
        some (.array (names.map .string), '\n' :: rest) := by
    have hread := value?_arrayText 78 (names.map String.toList) ('\n' :: rest)
    rw [List.map_map, List.map_map] at hread
    simpa [Function.comp_def, maxDepth] using hread
  have hcons : ∃ cs, Settings.arrayText (names.map fun s => written s.toList) = '[' :: cs := by
    rcases names with _ | ⟨s, _ | ⟨s', names⟩⟩
    · exact ⟨[']'], rfl⟩
    · exact ⟨_, rfl⟩
    · exact ⟨_, rfl⟩
  obtain ⟨cs, hcs⟩ := hcons
  exact takes_entry_inTable hheader hname hentries hcs hbracket hvalue

/-- An entry with a count. -/
theorem takes_count {before entries : Table} {header name : String}
    (hheader : before.lookup header = none) (hname : IsBareKey name)
    (hentries : entries.lookup name = none) {n : ℕ} (hn : n < Nat.pow 2 63) :
    Takes (.inTable before header entries) (Settings.entryText name (toString n).toList)
      (.inTable before header (entries ++ [(name, .integer n)])) := by
  obtain ⟨c, ds, hds⟩ := List.exists_cons_of_ne_nil (Text.toString_ne_nil n)
  have hc : isKeyChar c := by
    have hdigit : c.isDigit := Text.isDigit_of_mem_toString (by rw [hds]; exact List.mem_cons_self)
    simp [isKeyChar, Char.isAlphanum, hdigit]
  exact takes_entry_inTable hheader hname hentries hds (isSolid_of_isKeyChar hc).1
    fun rest => value?_toString maxDepth hn rest

end Toml

/-! ### The two parts -/

/-- Counts that the file format has. -/
structure ListingSettings.IsWritable (l : ListingSettings) : Prop where
  pageSize : l.pageSize < Nat.pow 2 63
  relatedCount : l.relatedCount < Nat.pow 2 63
  latestCount : l.latestCount < Nat.pow 2 63

/-- The table of the settings of the content. -/
def ContentSettings.table (c : ContentSettings) : Table :=
  [("dir", .string c.dir), ("route_prefix", .string c.routePrefix),
    ("category_order", .array (c.categoryOrder.map .string))]

/-- The table of the settings of lists. -/
def ListingSettings.table (l : ListingSettings) : Table :=
  [("page_size", .integer l.pageSize), ("related_count", .integer l.relatedCount),
    ("latest_count", .integer l.latestCount)]

namespace Settings

theorem takes_contentText (c : ContentSettings) :
    Takes {} (contentText c) (.inTable [] "content" c.table) :=
  (((takes_header_inTable (by decide) rfl).append
    (takes_text rfl (by decide) rfl c.dir)).append
      (takes_text rfl (by decide) rfl c.routePrefix)).append
        (takes_texts rfl (by decide) rfl c.categoryOrder)

theorem exists_listingText {l : ListingSettings} (h : l.IsWritable) {r : Toml.Reading}
    (hr : r.root.lookup "listing" = none) :
    ∃ text, listingText? l = some text ∧ Takes r text (.inTable r.root "listing" l.table) := by
  refine ⟨_, ?_, (((takes_header_inTable (by decide) hr).append
    (takes_count hr (by decide) rfl h.pageSize)).append
      (takes_count hr (by decide) rfl h.relatedCount)).append
        (takes_count hr (by decide) rfl h.latestCount)⟩
  simp only [listingText?, countText?, if_pos h.pageSize, if_pos h.relatedCount,
    if_pos h.latestCount]
  rfl

theorem ofToml?_contentTable (c : ContentSettings) :
    ContentSettings.ofToml? (.table .header c.table) = some c := by
  have horder : Toml.list Toml.string? (.array (c.categoryOrder.map .string)) =
      some c.categoryOrder := by
    have hmapM := List.mapM_pure (m := Option) (f := id) (l := c.categoryOrder)
    rw [List.map_id] at hmapM
    rw [Toml.list, Toml.items?, Option.bind_some, List.mapM_map]
    exact hmapM
  have hdir : c.table.lookup "dir" = some (.string c.dir) := by
    simp [ContentSettings.table]
  have hroute : c.table.lookup "route_prefix" = some (.string c.routePrefix) := by
    simp [ContentSettings.table, List.lookup_cons]
  have hnames : c.table.lookup "category_order" =
      some (.array (c.categoryOrder.map .string)) := by
    simp [ContentSettings.table, List.lookup_cons]
  simp only [ContentSettings.ofToml?, Toml.fields?, Option.bind_eq_bind, Option.bind_some, hdir,
    hroute, hnames, Toml.withDefault, Toml.string?, horder]
  rfl

theorem ofToml?_listingTable (l : ListingSettings) :
    ListingSettings.ofToml? (.table .header l.table) = some l := by
  have hpage : l.table.lookup "page_size" = some (.integer l.pageSize) := by
    simp [ListingSettings.table]
  have hrelated : l.table.lookup "related_count" = some (.integer l.relatedCount) := by
    simp [ListingSettings.table, List.lookup_cons]
  have hlatest : l.table.lookup "latest_count" = some (.integer l.latestCount) := by
    simp [ListingSettings.table, List.lookup_cons]
  have hnatural (n : ℕ) : Toml.natural? (.integer n) = some n := by
    rw [Toml.natural?, if_pos (Int.natCast_nonneg n), Int.toNat_natCast]
  simp only [ListingSettings.ofToml?, Toml.fields?, Option.bind_eq_bind, Option.bind_some, hpage,
    hrelated, hlatest, Toml.withDefault, hnatural]
  rfl

/-- The settings that the two tables hold. -/
theorem ofToml?_tables (s : Settings) :
    ofToml? (.table .header [("content", .table .header s.content.table),
      ("listing", .table .header s.listing.table)]) = some s := by
  simp [ofToml?, Toml.fields?, Toml.withDefault, List.lookup_cons, ofToml?_contentTable,
    ofToml?_listingTable]

/-- A text whose lines make the two tables is read as the settings. -/
theorem readToml?_of_takes {s : Settings} {text : List Char}
    (h : Takes {} text (.inTable [("content", .table .header s.content.table)] "listing"
      s.listing.table)) (hmark : text.head? ≠ some '\ufeff') :
    readToml? (String.ofList text) = some s := by
  rw [readToml?, readDocument?_of_takes h hmark]
  exact ofToml?_tables s

/-- Settings that can be written are written in a text that is read as the same settings, also when
one more line end follows it. -/
theorem exists_toml {s : Settings} (h : s.listing.IsWritable) :
    ∃ text, s.toml? = some text ∧ readToml? text = some s ∧ readToml? (text ++ "\n") = some s := by
  obtain ⟨listing, hlisting, htakes⟩ := exists_listingText h
    (r := .inTable [] "content" s.content.table) rfl
  have hcontent := (takes_contentText s.content).append (takes_blankLine _)
  have hall := hcontent.append htakes
  have htext : contentText s.content ++ ['\n'] ++ listing =
      contentText s.content ++ '\n' :: listing := by simp
  rw [htext] at hall
  have hmark {more : List Char} :
      (contentText s.content ++ '\n' :: listing ++ more).head? ≠ some '\ufeff' := by
    intro hhead
    exact absurd (Option.some.inj hhead) (by decide)
  refine ⟨_, by rw [toml?, hlisting, Option.map_some], ?_, ?_⟩
  · refine readToml?_of_takes hall ?_
    rw [← List.append_nil (_ ++ _)]
    exact hmark
  · have hline := hall.append (takes_blankLine _)
    have hread := readToml?_of_takes hline hmark
    rwa [String.ofList_append] at hread

end Settings

/-! ### What is read can be written -/

/-- A field of a value that has only words has only words. -/
theorem Toml.HasWords.field {names : List String} {name : String} {v w : Toml}
    {field : String → Option Toml} (hv : v.HasWords) (h : v.fields? names = some field)
    (hw : field name = some w) : w.HasWords := by
  have hitem {items : List Toml} (hitems : ∀ v ∈ items, v.HasWords)
      (hlookup : (names.zip items).lookup name = some w) : w.HasWords :=
    hitems w (List.of_mem_zip (Entries.mem_of_lookup hlookup)).2
  cases hv with
  | table hentries =>
    cases h
    exact Table.HasWords.lookup hentries hw
  | time text =>
    cases h
    cases hw
  | array hitems | tables hitems =>
    cases h
    exact hitem hitems hw
  | string | integer | float | boolean => cases h

theorem Toml.HasWords.natural?_lt {v : Toml} (hv : v.HasWords) {n : ℕ}
    (h : v.natural? = some n) : n < Nat.pow 2 63 := by
  cases hv with
  | @integer m hm =>
    rw [natural?] at h
    split_ifs at h with hnonneg
    obtain rfl := Option.some.inj h
    rw [isWord] at hm
    generalize Nat.pow 2 63 = bound at hm ⊢
    simp only [Bool.and_eq_true, decide_eq_true_eq] at hm
    omega
  | string | float | boolean | time | array | table | tables => cases h

/-- A count that is read, or its default, can be written. -/
theorem lt_of_withDefault {default n : ℕ} (hdefault : default < Nat.pow 2 63)
    {field : Option Toml} (hfield : ∀ w, field = some w → w.HasWords)
    (h : Toml.withDefault default Toml.natural? field = some n) : n < Nat.pow 2 63 := by
  cases field with
  | none =>
    obtain rfl := Option.some.inj h
    exact hdefault
  | some w => exact (hfield w rfl).natural?_lt h

theorem ListingSettings.isWritable_default : ({} : ListingSettings).IsWritable := by
  constructor <;> decide

theorem ListingSettings.isWritable_of_ofToml? {v : Toml} (hv : v.HasWords) {l : ListingSettings}
    (h : ofToml? v = some l) : l.IsWritable := by
  obtain ⟨field, hfield, h⟩ := Option.bind_eq_some_iff.mp h
  obtain ⟨pageSize, hpage, h⟩ := Option.bind_eq_some_iff.mp h
  obtain ⟨relatedCount, hrelated, h⟩ := Option.bind_eq_some_iff.mp h
  obtain ⟨latestCount, hlatest, h⟩ := Option.bind_eq_some_iff.mp h
  obtain rfl := Option.some.inj h
  have hwords {name : String} : ∀ w, field name = some w → w.HasWords :=
    fun w hw => hv.field hfield hw
  exact ⟨lt_of_withDefault isWritable_default.pageSize hwords hpage,
    lt_of_withDefault isWritable_default.relatedCount hwords hrelated,
    lt_of_withDefault isWritable_default.latestCount hwords hlatest⟩

namespace Settings

theorem isWritable_of_ofToml? {v : Toml} (hv : v.HasWords) {s : Settings}
    (h : ofToml? v = some s) : s.listing.IsWritable := by
  obtain ⟨field, hfield, h⟩ := Option.bind_eq_some_iff.mp h
  obtain ⟨content, -, h⟩ := Option.bind_eq_some_iff.mp h
  obtain ⟨listing, hlisting, h⟩ := Option.bind_eq_some_iff.mp h
  obtain rfl := Option.some.inj h
  cases hpart : field "listing" with
  | none =>
    rw [hpart] at hlisting
    obtain rfl := Option.some.inj hlisting
    exact ListingSettings.isWritable_default
  | some w =>
    rw [hpart] at hlisting
    exact ListingSettings.isWritable_of_ofToml? (hv.field hfield hpart) hlisting

/-- The counts of a document that is read can be written again. -/
theorem isWritable_of_readToml? {text : String} {s : Settings} (h : readToml? text = some s) :
    s.listing.IsWritable := by
  obtain ⟨root, hroot, h⟩ := Option.bind_eq_some_iff.mp h
  exact isWritable_of_ofToml? (.table (hasWords_of_readDocument? hroot)) h

end Settings

end DocSite
