/-
  TokenPilot.Library.EncodedLength — how long a text is in base64url, and a string in JSON.

  Of `n` bytes base64url writes four characters for three, and no padding (`base64urlEncode_length`).
  A string of JSON takes two quotes and, for each code point, an escape of two or six characters
  or its own UTF-8 (`quote_bytes`), so at most six bytes for each UTF-16 unit (`stringBytes_le`).
-/

import Mathlib.Algebra.Ring.Nat
import TokenPilot.Library.Bytes
import TokenPilot.Library.Utf16

namespace TokenPilot.Library

/-! ## base64url -/

theorem sextets_length (bytes : List UInt8) : (sextets bytes).length = (4 * bytes.length + 2) / 3 := by
  induction bytes using sextets.induct with
  | case1 a b c rest ih =>
    rw [sextets]
    simp only [List.length_cons, ih]
    omega
  | case2 a b => simp [sextets]
  | case3 a => simp [sextets]
  | case4 => simp [sextets]

theorem base64urlEncode_length (bytes : List UInt8) : (base64urlEncode bytes).length = (4 * bytes.length + 2) / 3 := by
  unfold base64urlEncode
  rw [List.length_map, sextets_length]

/-- `[A-Za-z0-9_-]` -/
def base64urlChar (c : Char) : Bool := c.isAlphanum || c = '_' || c = '-'

theorem base64urlDigit_char {n : Nat} (h : n < 64) : base64urlChar (base64urlDigit n) = true := by
  have hall : ∀ n < 64, base64urlChar (base64urlDigit n) = true := by decide
  exact hall n h

theorem base64urlEncode_chars (bytes : List UInt8) : ∀ c ∈ base64urlEncode bytes, base64urlChar c = true := by
  intro c hc
  obtain ⟨n, hn, rfl⟩ := List.mem_map.mp hc
  exact base64urlDigit_char (sextets_lt bytes n hn)

/-! ## Strings -/

theorem utf8Encode_append (s t : List Char) : utf8Encode (s ++ t) = utf8Encode s ++ utf8Encode t := List.flatMap_append

/-- The bytes that a code point takes in a string of JSON. -/
def pointBytes (n : Nat) : Nat :=
  if n = 8 ∨ n = 9 ∨ n = 10 ∨ n = 12 ∨ n = 13 ∨ n = 34 ∨ n = 92 then 2
  else if n < 32 ∨ isHigh n ∨ isLow n then 6
  else if n < 0x80 then 1
  else if n < 0x800 then 2
  else if n < 0x10000 then 3
  else 4

def stringBytes (s : Units) : Nat := 2 + ((Text.points s).map pointBytes).sum

theorem hexDigit_bytes {n : Nat} (h : n < 16) : (String.utf8EncodeChar (hexDigit n)).length = 1 := by
  have hall : ∀ n < 16, (String.utf8EncodeChar (hexDigit n)).length = 1 := by decide
  exact hall n h

theorem unicodeEscape_bytes {n : Nat} (h : n < 0x10000) : (utf8Encode (unicodeEscape n)).length = 6 := by
  unfold utf8Encode unicodeEscape
  simp only [List.flatMap_cons, List.flatMap_nil, List.length_append, List.length_nil, hexDigit_bytes (show n / 0x1000 < 16 by omega),
    hexDigit_bytes (show n / 0x100 % 0x10 < 16 by omega), hexDigit_bytes (show n / 0x10 % 0x10 < 16 by omega),
    hexDigit_bytes (show n % 0x10 < 16 by omega)]
  rfl

theorem char_bytes {n : Nat} (h : n < 0x110000) (hhigh : ¬ isHigh n) (hlow : ¬ isLow n) :
    (utf8Encode [Char.ofNat n]).length =
      if n < 0x80 then 1 else if n < 0x800 then 2 else if n < 0x10000 then 3 else 4 := by
  have hvalid : n.isValidChar := by
    unfold isHigh at hhigh
    unfold isLow at hlow
    unfold Nat.isValidChar
    omega
  have hnat : (Char.ofNat n).val.toNat = n := by
    rw [Char.ofNat, dif_pos hvalid]
    rfl
  unfold utf8Encode
  rw [List.flatMap_singleton, String.length_utf8EncodeChar, Char.utf8Size]
  simp only [UInt32.le_iff_toNat_le, hnat]
  split_ifs <;> first | rfl | (simp at *; omega)

theorem quotePoint_bytes {n : Nat} (h : n < 0x110000) : (utf8Encode (quotePoint n)).length = pointBytes n := by
  by_cases hshort : n = 8 ∨ n = 9 ∨ n = 10 ∨ n = 12 ∨ n = 13 ∨ n = 34 ∨ n = 92
  · rcases hshort with rfl | rfl | rfl | rfl | rfl | rfl | rfl <;> rfl
  · unfold pointBytes
    rw [if_neg hshort]
    simp only [not_or] at hshort
    obtain ⟨h8, h9, h10, h12, h13, h34, h92⟩ := hshort
    unfold quotePoint
    rw [if_neg h8, if_neg h9, if_neg h10, if_neg h12, if_neg h13, if_neg h34, if_neg h92]
    by_cases hescape : n < 32 ∨ isHigh n ∨ isLow n
    · rw [if_pos hescape, if_pos hescape]
      apply unicodeEscape_bytes
      unfold isHigh isLow at hescape
      omega
    · rw [if_neg hescape, if_neg hescape]
      exact char_bytes h (fun hhigh => hescape (.inr (.inl hhigh))) fun hlow => hescape (.inr (.inr hlow))

theorem flatMap_quotePoint_bytes {points : List Nat} (h : ∀ n ∈ points, n < 0x110000) :
    (utf8Encode (points.flatMap quotePoint)).length = (points.map pointBytes).sum := by
  induction points with
  | nil => rfl
  | cons n points ih =>
    rw [List.flatMap_cons, utf8Encode_append, List.length_append, quotePoint_bytes (h n (by simp)), List.map_cons,
      List.sum_cons, ih fun m hm => h m (by simp [hm])]

theorem quote_bytes (s : Units) : (utf8Encode (quote s)).length = stringBytes s := by
  have hquote : utf8Encode ['"'] = [34] := by decide
  have hsplit : quote s = ['"'] ++ (Text.points s).flatMap quotePoint ++ ['"'] := rfl
  unfold stringBytes
  rw [hsplit, utf8Encode_append, utf8Encode_append, hquote, List.length_append, List.length_append,
    flatMap_quotePoint_bytes (Text.points_lt s), List.length_singleton]
  omega

theorem pointBytes_le (n : Nat) : pointBytes n ≤ 6 := by
  unfold pointBytes
  split_ifs <;> omega

theorem codePoints_length (units : List Nat) : (codePoints units).length ≤ units.length := by
  induction units using codePoints.induct with
  | case1 => simp [codePoints]
  | case2 u => simp [codePoints]
  | case3 u v rest hpair ih =>
    rw [codePoints, if_pos hpair]
    simp only [List.length_cons]
    omega
  | case4 u v rest hpair ih =>
    rw [codePoints, if_neg hpair]
    simp only [List.length_cons] at ih ⊢
    omega

theorem stringBytes_le (s : Units) : stringBytes s ≤ 2 + 6 * s.length := by
  have hsum (points : List Nat) : (points.map pointBytes).sum ≤ 6 * points.length := by
    induction points with
    | nil => simp
    | cons n points ih =>
      have := pointBytes_le n
      rw [List.map_cons, List.sum_cons, List.length_cons]
      omega
  have hpoints : (Text.points s).length ≤ s.length := by
    have := codePoints_length (s.map UInt16.toNat)
    rwa [List.length_map] at this
  have := hsum (Text.points s)
  unfold stringBytes
  omega

end TokenPilot.Library
