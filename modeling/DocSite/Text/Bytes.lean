/-!
# Bytes

File names and paths are bytes, which need not be those of a text.

* `Text.utf8` are the bytes of a text.
* `Text.lossy` is the text of bytes. Where they are those of no character, the replacement character
  stands once for as many of them as could have begun one.
-/

namespace DocSite

/-- Bytes, such as those of a name or a path. -/
abbrev Bytes := List UInt8

namespace Text

/-- The UTF-8 bytes of a text. -/
def utf8 (s : String) : Bytes :=
  s.toUTF8.data.toList

instance : Coe String Bytes := ⟨utf8⟩

/-! ### Bytes that may be no text -/

/-- The character that stands for bytes that are those of none. -/
def replacement : Char := '\ufffd'

/-- A character of which bytes are missing: the bits that are known, how many bytes are missing, and
between which values the next one must be. -/
structure Begun where
  bits : Nat
  missing : Nat
  low : Nat := 0x80
  high : Nat := 0xbf
  le_low : 0x80 ≤ low := by decide

/-- What a byte gives after which no character is left begun: characters, and what it begins. The
next byte is bounded where a shorter encoding, a surrogate or too great a code point would
result. -/
def firstByte (b : Nat) : List Char × Option Begun :=
  if b < 0x80 then ([Char.ofNat b], none)
  else if 0xc2 ≤ b && b ≤ 0xdf then ([], some { bits := b - 0xc0, missing := 1 })
  else if 0xe0 ≤ b && b ≤ 0xef then
    ([], some {
      bits := b - 0xe0
      missing := 2
      low := if b = 0xe0 then 0xa0 else 0x80
      high := if b = 0xed then 0x9f else 0xbf
      le_low := by split <;> decide })
  else if 0xf0 ≤ b && b ≤ 0xf4 then
    ([], some {
      bits := b - 0xf0
      missing := 3
      low := if b = 0xf0 then 0x90 else 0x80
      high := if b = 0xf4 then 0x8f else 0xbf
      le_low := by split <;> decide })
  else ([replacement], none)

/-- What one more byte gives: characters, and what is begun after it. -/
def nextByte : Option Begun → Nat → List Char × Option Begun
  | none, b => firstByte b
  | some p, b =>
    if p.low ≤ b && b ≤ p.high then
      let bits := p.bits * 0x40 + (b - 0x80)
      if p.missing ≤ 1 then ([Char.ofNat bits], none)
      else ([], some { bits, missing := p.missing - 1 })
    else (replacement :: (firstByte b).1, (firstByte b).2)

/-- The characters of bytes, given what is begun before them. -/
def decode (begun : Option Begun) : Bytes → List Char
  | [] => if begun.isSome then [replacement] else []
  | b :: rest => (nextByte begun b.toNat).1 ++ decode (nextByte begun b.toNat).2 rest

/-- The text of bytes. -/
def lossy (bytes : Bytes) : String :=
  String.ofList (decode none bytes)

end Text

end DocSite
