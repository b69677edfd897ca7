import DocSite.Proofs.Text.Bytes

/-!
# The order of texts is the order of their bytes

Texts are compared character by character. `compare_eq_lt_iff` says that this is the lexicographic
order of their UTF-8 bytes.

A smaller character has an encoding that differs from the greater one's at some byte and has the
smaller byte there (`differsBelow_encode`): with fewer bytes the first byte is smaller, and with as
many bytes the first group of six bits that differs decides.
-/

namespace DocSite.Text

/-! ### Sequences of bytes that differ -/

/-- Two sequences of bytes agree up to a place at which the first one has the smaller byte. -/
def DiffersBelow (a b : List UInt8) : Prop :=
  ∃ p x y s t, x < y ∧ a = p ++ x :: s ∧ b = p ++ y :: t

namespace DiffersBelow

theorem of_lt {m n : ℕ} (hmn : m < n) (hn : n < 256) (a b : List UInt8) :
    DiffersBelow (.ofNat m :: a) (.ofNat n :: b) := by
  refine ⟨[], .ofNat m, .ofNat n, a, b, ?_, rfl, rfl⟩
  rw [UInt8.lt_iff_toNat_lt, UInt8.toNat_ofNat', UInt8.toNat_ofNat']
  omega

theorem of_le {m n : ℕ} {a b : List UInt8} (hmn : m ≤ n) (hn : n < 256)
    (h : m = n → DiffersBelow a b) : DiffersBelow (.ofNat m :: a) (.ofNat n :: b) := by
  rcases Nat.lt_or_eq_of_le hmn with hlt | rfl
  · exact of_lt hlt hn a b
  · obtain ⟨p, x, y, s, t, hlt, rfl, rfl⟩ := h rfl
    exact ⟨.ofNat m :: p, x, y, s, t, hlt, rfl, rfl⟩

/-- Whatever follows two sequences that differ, the order is decided before it. -/
theorem lex_append {a b : List UInt8} (h : DiffersBelow a b) (s t : List UInt8) :
    List.Lex (· < ·) (a ++ s) (b ++ t) := by
  obtain ⟨p, x, y, u, v, hlt, rfl, rfl⟩ := h
  induction p with
  | nil => exact .rel hlt
  | cons z p ih => exact .cons ih

end DiffersBelow

/-! ### Characters -/

/-- A smaller character's bytes differ below those of a greater one. -/
theorem differsBelow_encode {c d : Char} (h : c < d) :
    DiffersBelow (String.utf8EncodeChar c) (String.utf8EncodeChar d) := by
  have hlt : c.val.toNat < d.val.toNat := h
  have hd : d.val.toNat < 0x110000 := by
    rcases d.valid with h | h
    · exact Nat.lt_trans h (by decide)
    · exact h.2
  unfold String.utf8EncodeChar
  generalize c.val.toNat = v at *
  generalize d.val.toNat = w at *
  dsimp only
  split_ifs
  -- A character that needs more bytes is greater.
  all_goals try omega
  -- One byte against one, two, three and four.
  · exact .of_lt (by omega) (by omega) _ _
  · exact .of_lt (by omega) (by omega) _ _
  · exact .of_lt (by omega) (by omega) _ _
  · exact .of_lt (by omega) (by omega) _ _
  -- Two bytes against two, three and four.
  · exact .of_le (by omega) (by omega) fun _ => .of_lt (by omega) (by omega) _ _
  · exact .of_lt (by omega) (by omega) _ _
  · exact .of_lt (by omega) (by omega) _ _
  -- Three bytes against three and four, then four against four.
  · exact .of_le (by omega) (by omega) fun _ => .of_le (by omega) (by omega) fun _ =>
      .of_lt (by omega) (by omega) _ _
  · exact .of_lt (by omega) (by omega) _ _
  · exact .of_le (by omega) (by omega) fun _ => .of_le (by omega) (by omega) fun _ =>
      .of_le (by omega) (by omega) fun _ => .of_lt (by omega) (by omega) _ _

/-! ### Texts -/

theorem lex_flatMap_encode {s t : List Char} (h : List.Lex (· < ·) s t) :
    List.Lex (· < ·) (s.flatMap String.utf8EncodeChar) (t.flatMap String.utf8EncodeChar) := by
  induction h with
  | @nil c t =>
    -- Every character has a first byte.
    obtain ⟨b, bs, hb⟩ : ∃ b bs, String.utf8EncodeChar c = b :: bs := by
      apply List.exists_cons_of_length_pos
      rw [String.length_utf8EncodeChar]
      exact Char.utf8Size_pos c
    rw [List.flatMap_nil, List.flatMap_cons, hb]
    exact .nil
  | rel hlt =>
    rw [List.flatMap_cons, List.flatMap_cons]
    exact (differsBelow_encode hlt).lex_append _ _
  | @cons c s t _ ih =>
    rw [List.flatMap_cons, List.flatMap_cons]
    induction String.utf8EncodeChar c with
    | nil => exact ih
    | cons b bs ihb => exact .cons ihb

/-- The comparison of texts answers "less" exactly when the bytes are lexicographically less. -/
theorem compare_eq_lt_iff (s t : String) :
    Ord.compare s t = .lt ↔ List.Lex (· < ·) (utf8 s) (utf8 t) := by
  have forward : ∀ s t : String, Ord.compare s t = .lt → List.Lex (· < ·) (utf8 s) (utf8 t) := by
    intro s t h
    rw [utf8_eq_flatMap, utf8_eq_flatMap]
    exact lex_flatMap_encode (String.lt_iff.mp (compareOfLessAndEq_eq_lt.mp h))
  refine ⟨forward s t, fun h => ?_⟩
  cases hst : Ord.compare s t with
  | lt => rfl
  | eq =>
    obtain rfl := Std.LawfulEqOrd.eq_of_compare hst
    exact absurd h (List.lex_irrefl (fun x => UInt8.lt_irrefl x) _)
  | gt =>
    have h' := forward t s (Std.OrientedCmp.gt_iff_lt.mp hst)
    exact absurd h (List.lex_asymm (fun hxy => UInt8.lt_asymm hxy) h')

end DocSite.Text
