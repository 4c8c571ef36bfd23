/-
  TokenPilot.Library.Bytes — texts of bytes: UTF-8 and base64url.

  `utf8Decode` replaces what is not UTF-8 as a decoder that reports no errors does: one
  replacement character for a byte that begins nothing and for a sequence that breaks off.
  `base64urlDecode` is as lenient as such decoders are: it takes both alphabets, passes over
  every other character, stops at a padding, and ignores the bits that are left over.

  What was encoded is read back (`utf8Decode_encode`, `base64urlDecode_encode`). The
  converse does not hold for base64url, where every text is read as some bytes; the one text of
  the bytes is the `Canonical` one.
-/

import Mathlib.Data.List.Basic
import Mathlib.Data.Nat.Notation
import Mathlib.Tactic.Common

namespace TokenPilot.Library

/-! ## UTF-8 -/

/-- A sequence that is not over: how many bytes are missing, what the next one may be, and the
    bits so far. -/
structure Utf8Pending where
  needed : Nat
  lower : Nat
  upper : Nat
  point : Nat
  deriving DecidableEq, Repr

def replacement : Char := Char.ofNat 0xFFFD

/-- A byte where a sequence begins. -/
def utf8First (b : Nat) : List Char × Option Utf8Pending :=
  if b ≤ 0x7F then ([Char.ofNat b], none)
  else if 0xC2 ≤ b ∧ b ≤ 0xDF then ([], some ⟨1, 0x80, 0xBF, b % 32⟩)
  else if 0xE0 ≤ b ∧ b ≤ 0xEF then
    ([], some ⟨2, if b = 0xE0 then 0xA0 else 0x80, if b = 0xED then 0x9F else 0xBF, b % 16⟩)
  else if 0xF0 ≤ b ∧ b ≤ 0xF4 then
    ([], some ⟨3, if b = 0xF0 then 0x90 else 0x80, if b = 0xF4 then 0x8F else 0xBF, b % 8⟩)
  else ([replacement], none)

/-- A byte, which may go on with a sequence. -/
def utf8Step (pending : Option Utf8Pending) (b : Nat) : List Char × Option Utf8Pending :=
  match pending with
  | none => utf8First b
  | some ⟨needed, lower, upper, point⟩ =>
    if lower ≤ b ∧ b ≤ upper then
      if needed = 1 then ([Char.ofNat (point * 64 + b % 64)], none)
      else ([], some ⟨needed - 1, 0x80, 0xBF, point * 64 + b % 64⟩)
    else (replacement :: (utf8First b).1, (utf8First b).2)

def utf8DecodeFrom (pending : Option Utf8Pending) : List UInt8 → List Char
  | [] => if pending.isSome then [replacement] else []
  | b :: rest => (utf8Step pending b.toNat).1 ++ utf8DecodeFrom (utf8Step pending b.toNat).2 rest

def utf8Decode (bytes : List UInt8) : List Char := utf8DecodeFrom none bytes

def utf8Encode (s : List Char) : List UInt8 := s.flatMap String.utf8EncodeChar

theorem utf8DecodeFrom_char (c : Char) (rest : List UInt8) :
    utf8DecodeFrom none (String.utf8EncodeChar c ++ rest) = c :: utf8DecodeFrom none rest := by
  have hpoint : Char.ofNat c.val.toNat = c := Char.ofNat_toNat c
  have hvalid : c.val.toNat < 0xD800 ∨ 0xDFFF < c.val.toNat ∧ c.val.toNat < 0x110000 := c.valid
  generalize hn : c.val.toNat = n at hpoint hvalid
  have hbyte (m : Nat) (h : m < 256) : (UInt8.ofNat m).toNat = m := by
    rw [UInt8.toNat_ofNat', Nat.mod_eq_of_lt h]
  unfold String.utf8EncodeChar
  dsimp only
  rw [hn]
  split_ifs with h1 h2 h3
  · rw [List.singleton_append, utf8DecodeFrom, hbyte n (by omega)]
    simp only [utf8Step, utf8First]
    rw [if_pos h1, hpoint]
    rfl
  · rw [List.cons_append, List.singleton_append, utf8DecodeFrom, utf8DecodeFrom, hbyte _ (by omega), hbyte _ (by omega)]
    simp only [utf8Step, utf8First]
    rw [if_neg (by omega), if_pos (by omega)]
    simp only
    rw [if_pos (by omega), if_pos trivial]
    simp only [List.nil_append, List.singleton_append]
    have hvalue : (n / 64 % 32 + 192) % 32 * 64 + (n % 64 + 128) % 64 = n := by omega
    rw [hvalue, hpoint]
  · rw [List.cons_append, List.cons_append, List.singleton_append, utf8DecodeFrom, utf8DecodeFrom, utf8DecodeFrom,
      hbyte _ (by omega), hbyte _ (by omega), hbyte _ (by omega)]
    simp only [utf8Step, utf8First]
    rw [if_neg (by omega), if_neg (by omega), if_pos (by omega)]
    simp only
    rw [if_pos (by split_ifs <;> omega), if_neg (by decide)]
    simp only
    rw [if_pos (by omega), if_pos trivial]
    simp only [List.nil_append, List.singleton_append]
    have hvalue : ((n / 4096 % 16 + 224) % 16 * 64 + (n / 64 % 64 + 128) % 64) * 64 + (n % 64 + 128) % 64 = n := by omega
    rw [hvalue, hpoint]
  · rw [List.cons_append, List.cons_append, List.cons_append, List.singleton_append, utf8DecodeFrom, utf8DecodeFrom,
      utf8DecodeFrom, utf8DecodeFrom, hbyte _ (by omega), hbyte _ (by omega), hbyte _ (by omega), hbyte _ (by omega)]
    simp only [utf8Step, utf8First]
    rw [if_neg (by omega), if_neg (by omega), if_neg (by omega), if_pos (by omega)]
    simp only
    rw [if_pos (by split_ifs <;> omega), if_neg (by decide)]
    simp only
    rw [if_pos (by omega), if_neg (by decide)]
    simp only
    rw [if_pos (by omega), if_pos trivial]
    simp only [List.nil_append, List.singleton_append]
    have hvalue : (((n / 262144 % 8 + 240) % 8 * 64 + (n / 4096 % 64 + 128) % 64) * 64 + (n / 64 % 64 + 128) % 64) * 64 +
        (n % 64 + 128) % 64 = n := by omega
    rw [hvalue, hpoint]

theorem utf8Decode_encode (s : List Char) : utf8Decode (utf8Encode s) = s := by
  unfold utf8Decode utf8Encode
  induction s with
  | nil => rfl
  | cons c s ih => rw [List.flatMap_cons, utf8DecodeFrom_char, ih]

/-! ## base64url -/

def base64urlDigit (n : Nat) : Char :=
  if n < 26 then Char.ofNat (65 + n)
  else if n < 52 then Char.ofNat (71 + n)
  else if n < 62 then Char.ofNat (n - 4)
  else if n = 62 then '-'
  else '_'

/-- The bits of a character, of either alphabet. -/
def base64Value (c : Char) : Option Nat :=
  let n := c.toNat
  if 65 ≤ n ∧ n ≤ 90 then some (n - 65)
  else if 97 ≤ n ∧ n ≤ 122 then some (n - 71)
  else if 48 ≤ n ∧ n ≤ 57 then some (n + 4)
  else if c = '-' ∨ c = '+' then some 62
  else if c = '_' ∨ c = '/' then some 63
  else none

/-- The bits of bytes, six at a time. -/
def sextets : List UInt8 → List Nat
  | a :: b :: c :: rest =>
    a.toNat / 4 :: (a.toNat % 4 * 16 + b.toNat / 16) :: (b.toNat % 16 * 4 + c.toNat / 64) :: c.toNat % 64 :: sextets rest
  | [a, b] => [a.toNat / 4, a.toNat % 4 * 16 + b.toNat / 16, b.toNat % 16 * 4]
  | [a] => [a.toNat / 4, a.toNat % 4 * 16]
  | [] => []

/-- The bytes of sextets; what is left over is dropped. -/
def octets : List Nat → List UInt8
  | w :: x :: y :: z :: rest =>
    UInt8.ofNat (w * 4 + x / 16) :: UInt8.ofNat (x % 16 * 16 + y / 4) :: UInt8.ofNat (y % 4 * 64 + z) :: octets rest
  | [w, x, y] => [UInt8.ofNat (w * 4 + x / 16), UInt8.ofNat (x % 16 * 16 + y / 4)]
  | [w, x] => [UInt8.ofNat (w * 4 + x / 16)]
  | _ => []

/-- `toString("base64url")` -/
def base64urlEncode (bytes : List UInt8) : List Char := (sextets bytes).map base64urlDigit

/-- `Buffer.from(text, "base64url")` -/
def base64urlDecode (text : List Char) : List UInt8 := octets ((text.takeWhile (· ≠ '=')).filterMap base64Value)

attribute [local simp] sextets octets

theorem sextets_lt (bytes : List UInt8) : ∀ n ∈ sextets bytes, n < 64 := by
  induction bytes using sextets.induct with
  | case1 a b c rest ih =>
    have ha := a.toNat_lt
    have hb := b.toNat_lt
    have hc := c.toNat_lt
    intro n hn
    simp only [sextets, List.mem_cons] at hn
    rcases hn with rfl | rfl | rfl | rfl | hn
    · omega
    · omega
    · omega
    · omega
    · exact ih n hn
  | case2 a b =>
    have ha := a.toNat_lt
    have hb := b.toNat_lt
    intro n hn
    simp only [sextets, List.mem_cons, List.not_mem_nil, or_false] at hn
    omega
  | case3 a =>
    have ha := a.toNat_lt
    intro n hn
    simp only [sextets, List.mem_cons, List.not_mem_nil, or_false] at hn
    omega
  | case4 => simp

theorem octets_sextets (bytes : List UInt8) : octets (sextets bytes) = bytes := by
  have hbyte {n : Nat} {b : UInt8} (h : n = b.toNat) : UInt8.ofNat n = b := by rw [h, UInt8.ofNat_toNat]
  induction bytes using sextets.induct with
  | case1 a b c rest ih =>
    have ha := a.toNat_lt
    have hb := b.toNat_lt
    have hc := c.toNat_lt
    rw [sextets, octets, ih, hbyte (b := a) (by omega), hbyte (b := b) (by omega), hbyte (b := c) (by omega)]
  | case2 a b =>
    have ha := a.toNat_lt
    have hb := b.toNat_lt
    rw [sextets, octets, hbyte (b := a) (by omega), hbyte (b := b) (by omega)]
  | case3 a =>
    have ha := a.toNat_lt
    rw [sextets, octets, hbyte (b := a) (by omega)]
  | case4 => rfl

theorem base64Value_digit {n : Nat} (h : n < 64) : base64Value (base64urlDigit n) = some n ∧ base64urlDigit n ≠ '=' ∧
    base64urlDigit n ≠ '.' := by
  have hall : ∀ n < 64, base64Value (base64urlDigit n) = some n ∧ base64urlDigit n ≠ '=' ∧ base64urlDigit n ≠ '.' := by
    decide
  exact hall n h

/-- A text of the alphabet stands for its digits, with or without a padding. -/
theorem filterMap_digits {l : List Nat} (h : ∀ n ∈ l, n < 64) {padding : List Char} (hpadding : ∀ c ∈ padding.head?, c = '=') :
    ((l.map base64urlDigit ++ padding).takeWhile (· ≠ '=')).filterMap base64Value = l := by
  induction l with
  | nil =>
    cases padding with
    | nil => rfl
    | cons c rest =>
      rw [hpadding c rfl]
      rfl
  | cons n l ih =>
    obtain ⟨hvalue, hdigit, -⟩ := base64Value_digit (h n (by simp))
    rw [List.map_cons, List.cons_append, List.takeWhile_cons, if_pos (by simpa using hdigit), List.filterMap_cons, hvalue]
    simp only
    rw [ih fun m hm => h m (List.mem_cons_of_mem _ hm)]

theorem base64urlDecode_encode (bytes : List UInt8) : base64urlDecode (base64urlEncode bytes) = bytes := by
  unfold base64urlDecode base64urlEncode
  rw [← List.append_nil ((sextets bytes).map base64urlDigit), filterMap_digits (sextets_lt bytes) (by simp), octets_sextets]

/-- A padding changes nothing. -/
theorem base64urlDecode_padded (bytes : List UInt8) : base64urlDecode (base64urlEncode bytes ++ ['=']) = bytes := by
  unfold base64urlDecode base64urlEncode
  rw [filterMap_digits (sextets_lt bytes) (by simp), octets_sextets]

/-- No character of an encoding is a dot. -/
theorem base64urlEncode_no_dot (bytes : List UInt8) : ∀ c ∈ base64urlEncode bytes, c ≠ '.' := by
  intro c hc
  obtain ⟨n, hn, rfl⟩ := List.mem_map.mp hc
  exact (base64Value_digit (sextets_lt bytes n hn)).2.2

/-- The text that encoding writes for the bytes it is read as. -/
def Canonical (text : List Char) : Prop := base64urlEncode (base64urlDecode text) = text

theorem canonical_encode (bytes : List UInt8) : Canonical (base64urlEncode bytes) := by
  unfold Canonical
  rw [base64urlDecode_encode]

end TokenPilot.Library
