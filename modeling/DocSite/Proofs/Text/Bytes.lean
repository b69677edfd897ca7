import DocSite.Text.Bytes
import Mathlib.Data.List.Basic
import Mathlib.Tactic.Common

/-!
# Texts and their bytes

* `utf8_append` and `utf8_inj`: the bytes of texts in a row are in a row, and they determine the
  text.
* `decode_encode_append`: the bytes of a character are decoded to this character, whatever follows.
* `lossy_utf8`: so the text of the bytes of a text is this text.
* `lossy_append_of_ascii`: bytes are decoded part by part where a part begins with a byte that is a
  character of its own, such as a dot or a slash.
-/

namespace DocSite.Text

/-! ### Bytes of texts -/

/-- The bytes of a text are those of its characters in a row. -/
theorem utf8_eq_flatMap (s : String) : utf8 s = s.toList.flatMap String.utf8EncodeChar := by
  rw [utf8, String.toUTF8_eq_toByteArray, ← String.utf8Encode_toList]
  simp [List.utf8Encode]

theorem utf8_append (s t : String) : utf8 (s ++ t) = utf8 s ++ utf8 t := by
  rw [utf8_eq_flatMap, utf8_eq_flatMap, utf8_eq_flatMap, String.toList_append, List.flatMap_append]

theorem utf8_intercalate (separator : String) (parts : List String) :
    utf8 (separator.intercalate parts) = (utf8 separator).intercalate (parts.map utf8) := by
  induction parts with
  | nil => rfl
  | cons s rest ih =>
    cases rest with
    | nil => simp
    | cons t more =>
      rw [String.intercalate_cons_cons, utf8_append, utf8_append, ih, List.map_cons, List.map_cons]
      exact List.intercalate_cons_cons.symm

/-! ### Decoding -/

/-- A byte of ASCII is decoded by itself. What is begun before it is no character. -/
theorem decode_cons_of_ascii {b : UInt8} (hb : b.toNat < 0x80) (begun : Option Begun)
    (rest : Bytes) :
    decode begun (b :: rest) = decode begun [] ++ Char.ofNat b.toNat :: decode none rest := by
  have hfirst : firstByte b.toNat = ([Char.ofNat b.toNat], none) := if_pos hb
  cases begun with
  | none => simp [decode, nextByte, hfirst]
  | some p =>
    have hout : ¬ p.low ≤ b.toNat := by
      have hlow := p.le_low
      omega
    simp [decode, nextByte, hfirst, hout]

theorem decode_append_of_ascii {b : UInt8} (hb : b.toNat < 0x80) (begun : Option Begun)
    (before rest : Bytes) :
    decode begun (before ++ b :: rest) = decode begun before ++ decode none (b :: rest) := by
  have hrest : decode none (b :: rest) = Char.ofNat b.toNat :: decode none rest :=
    decode_cons_of_ascii hb none rest
  induction before generalizing begun with
  | nil => rw [List.nil_append, decode_cons_of_ascii hb, hrest]
  | cons x before ih => rw [List.cons_append, decode, decode, ih, List.append_assoc]

/-- Bytes are decoded part by part where a part begins with a byte of ASCII. -/
theorem lossy_append_of_ascii {b : UInt8} (hb : b.toNat < 0x80) (before rest : Bytes) :
    lossy (before ++ b :: rest) = lossy before ++ lossy (b :: rest) := by
  rw [lossy, decode_append_of_ascii hb, String.ofList_append, lossy, lossy]

/-! ### Characters -/

theorem firstByte_of_two {n : ℕ} (hlow : 2 ≤ n) (hhigh : n < 32) :
    firstByte (n + 192) = ([], some { bits := n, missing := 1 }) := by
  rw [firstByte, if_neg (by omega), if_pos (by simp; omega), Nat.add_sub_cancel]

theorem firstByte_of_three {n : ℕ} (hhigh : n < 16) :
    ∃ p, firstByte (n + 224) = ([], some p) ∧ p.bits = n ∧ p.missing = 2 ∧
      p.low = (if n = 0 then 0xa0 else 0x80) ∧ p.high = (if n = 13 then 0x9f else 0xbf) := by
  rw [firstByte, if_neg (by omega), if_neg (by simp), if_pos (by simp; omega)]
  exact ⟨_, rfl, Nat.add_sub_cancel n 224, rfl, by simp, by simp⟩

theorem firstByte_of_four {n : ℕ} (hhigh : n ≤ 4) :
    ∃ p, firstByte (n + 240) = ([], some p) ∧ p.bits = n ∧ p.missing = 3 ∧
      p.low = (if n = 0 then 0x90 else 0x80) ∧ p.high = (if n = 4 then 0x8f else 0xbf) := by
  rw [firstByte, if_neg (by omega), if_neg (by simp), if_neg (by simp),
    if_pos (by simp; omega)]
  exact ⟨_, rfl, Nat.add_sub_cancel n 240, rfl, by simp, by simp⟩

/-- A byte within the bounds completes a character that lacks no other. -/
theorem decode_cons_of_last {p : Begun} {n : ℕ} (hn : n < 64) (hlow : p.low ≤ n + 128)
    (hhigh : n + 128 ≤ p.high) (hmissing : p.missing = 1) (rest : Bytes) :
    decode (some p) (.ofNat (n + 128) :: rest) =
      Char.ofNat (p.bits * 64 + n) :: decode none rest := by
  have hbyte : (UInt8.ofNat (n + 128)).toNat = n + 128 := by
    rw [UInt8.toNat_ofNat', Nat.mod_eq_of_lt (by omega)]
  have hnext : nextByte (some p) (n + 128) = ([Char.ofNat (p.bits * 64 + n)], none) := by
    simp [nextByte, hlow, hhigh, hmissing]
  rw [decode, hbyte, hnext]
  rfl

/-- A byte within the bounds is one byte less that is missing. -/
theorem decode_cons_of_more {p : Begun} {n : ℕ} (hn : n < 64) (hlow : p.low ≤ n + 128)
    (hhigh : n + 128 ≤ p.high) (hmissing : 1 < p.missing) (rest : Bytes) :
    decode (some p) (.ofNat (n + 128) :: rest) =
      decode (some { bits := p.bits * 64 + n, missing := p.missing - 1 }) rest := by
  have hbyte : (UInt8.ofNat (n + 128)).toNat = n + 128 := by
    rw [UInt8.toNat_ofNat', Nat.mod_eq_of_lt (by omega)]
  have hnext : nextByte (some p) (n + 128) =
      ([], some { bits := p.bits * 64 + n, missing := p.missing - 1 }) := by
    simp [nextByte, hlow, hhigh, Nat.not_le_of_lt hmissing]
  rw [decode, hbyte, hnext]
  rfl

theorem decode_cons_of_first {n : ℕ} (hn : n < 256) {p : Begun} (h : firstByte n = ([], some p))
    (rest : Bytes) : decode none (.ofNat n :: rest) = decode (some p) rest := by
  rw [decode, UInt8.toNat_ofNat', Nat.mod_eq_of_lt hn, nextByte, h]
  rfl

/-- The bytes of a character are decoded to it. -/
theorem decode_encode_append (c : Char) (rest : Bytes) :
    decode none (String.utf8EncodeChar c ++ rest) = c :: decode none rest := by
  have hvalid : c.val.toNat < 0xd800 ∨ 0xdfff < c.val.toNat ∧ c.val.toNat < 0x110000 := c.valid
  have hc : Char.ofNat c.val.toNat = c := Char.ofNat_toNat c
  unfold String.utf8EncodeChar
  generalize c.val.toNat = v at *
  dsimp only
  -- The bits of the bytes put together are the code point, and no byte is out of its bounds.
  split_ifs with h₁ h₂ h₃
  · have hv : (UInt8.ofNat v).toNat = v := by
      rw [UInt8.toNat_ofNat', Nat.mod_eq_of_lt (by omega)]
    rw [List.singleton_append, decode_cons_of_ascii (by omega), hv, hc]
    rfl
  · rw [List.cons_append, List.singleton_append,
      decode_cons_of_first (by omega) (firstByte_of_two (by omega) (by omega)),
      decode_cons_of_last (by omega) (by simp) (by simp; omega) rfl, ← hc]
    congr 2
    simp only
    omega
  · obtain ⟨p, hp, hbits, hmissing, hlow, hhigh⟩ :=
      firstByte_of_three (n := v / 4096 % 16) (by omega)
    rw [List.cons_append, List.cons_append, List.singleton_append,
      decode_cons_of_first (by omega) hp,
      decode_cons_of_more (by omega) (by split_ifs at hlow <;> omega)
        (by split_ifs at hhigh <;> omega) (by omega),
      decode_cons_of_last (by omega) (by simp) (by simp; omega) (by simp [hmissing]), ← hc]
    congr 2
    simp only
    omega
  · obtain ⟨p, hp, hbits, hmissing, hlow, hhigh⟩ :=
      firstByte_of_four (n := v / 262144 % 8) (by omega)
    rw [List.cons_append, List.cons_append, List.cons_append, List.singleton_append,
      decode_cons_of_first (by omega) hp,
      decode_cons_of_more (by omega) (by split_ifs at hlow <;> omega)
        (by split_ifs at hhigh <;> omega) (by omega),
      decode_cons_of_more (by omega) (by simp) (by simp; omega) (by simp [hmissing]),
      decode_cons_of_last (by omega) (by simp) (by simp; omega) (by simp [hmissing]), ← hc]
    congr 2
    simp only
    omega

/-! ### Texts -/

/-- The text of the bytes of a text is this text. -/
theorem lossy_utf8 (s : String) : lossy (utf8 s) = s := by
  have hchars (chars : List Char) : decode none (chars.flatMap String.utf8EncodeChar) = chars := by
    induction chars with
    | nil => rfl
    | cons c rest ih => rw [List.flatMap_cons, decode_encode_append, ih]
  rw [lossy, utf8_eq_flatMap, hchars, String.ofList_toList]

theorem utf8_injective : Function.Injective utf8 :=
  Function.LeftInverse.injective lossy_utf8

@[simp]
theorem utf8_inj {s t : String} : utf8 s = utf8 t ↔ s = t :=
  utf8_injective.eq_iff

/-- Bytes are those of a text. -/
def IsText (bytes : Bytes) : Prop :=
  utf8 (lossy bytes) = bytes

instance (bytes : Bytes) : Decidable (IsText bytes) :=
  inferInstanceAs (Decidable (utf8 (lossy bytes) = bytes))

theorem isText_iff {bytes : Bytes} : IsText bytes ↔ ∃ s : String, utf8 s = bytes := by
  constructor
  · exact fun h => ⟨_, h⟩
  · rintro ⟨s, rfl⟩
    rw [IsText, lossy_utf8]

end DocSite.Text
