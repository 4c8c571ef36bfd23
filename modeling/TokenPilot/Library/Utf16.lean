/-
  TokenPilot.Library.Utf16 — strings as code points, their UTF-16 units and JSON quoting.

  A string type is a `Text`: it lists the code points of a string, surrogates without a
  partner included, and strings with the same UTF-16 units are the same. `String` is one,
  with scalar values only; `Units`, the strings of a language that keeps UTF-16 units, is
  the other, with `codePoints` to pair its surrogates.

  `quote` is QuoteJSONString: the short escapes, `\u00xx` for the other control characters
  and `\udxxx` for an unpaired surrogate. `quote_inj`: a quoted string ends where its
  closing quote stands, and its code points can be read back.
-/

import Mathlib.Data.List.Basic
import Mathlib.Data.Nat.Notation
import Mathlib.Logic.Function.Basic

namespace TokenPilot.Library

/-! ## Code points and units -/

def isHigh (n : Nat) : Prop := 0xD800 ≤ n ∧ n < 0xDC00

def isLow (n : Nat) : Prop := 0xDC00 ≤ n ∧ n < 0xE000

instance : DecidablePred isHigh := fun n => inferInstanceAs (Decidable (0xD800 ≤ n ∧ n < 0xDC00))

instance : DecidablePred isLow := fun n => inferInstanceAs (Decidable (0xDC00 ≤ n ∧ n < 0xE000))

/-- The units of a code point. -/
def utf16 (n : Nat) : List Nat :=
  if n < 0x10000 then [n] else [0xD800 + (n - 0x10000) / 0x400, 0xDC00 + (n - 0x10000) % 0x400]

/-- StringToCodePoints: a high surrogate and the low one after it are one code point. -/
def codePoints : List Nat → List Nat
  | [] => []
  | [u] => [u]
  | u :: v :: rest =>
    if isHigh u ∧ isLow v then (0x10000 + (u - 0xD800) * 0x400 + (v - 0xDC00)) :: codePoints rest
    else u :: codePoints (v :: rest)

theorem utf16_codePoints (units : List Nat) (h : ∀ u ∈ units, u < 0x10000) :
    (codePoints units).flatMap utf16 = units := by
  induction units using codePoints.induct with
  | case1 => rfl
  | case2 u =>
    have hu := h u (by simp)
    simp [codePoints, utf16, hu]
  | case3 u v rest hpair ih =>
    obtain ⟨⟨hu, hu'⟩, hv, hv'⟩ := hpair
    have hhigh : 0xD800 + ((u - 0xD800) * 0x400 + (v - 0xDC00)) / 0x400 = u := by omega
    have hlow : 0xDC00 + ((u - 0xD800) * 0x400 + (v - 0xDC00)) % 0x400 = v := by omega
    have hpoint : 0x10000 + (u - 0xD800) * 0x400 + (v - 0xDC00) - 0x10000 =
        (u - 0xD800) * 0x400 + (v - 0xDC00) := by omega
    have hsize : ¬ 0x10000 + (u - 0xD800) * 0x400 + (v - 0xDC00) < 0x10000 := by omega
    rw [codePoints, if_pos ⟨⟨hu, hu'⟩, hv, hv'⟩, List.flatMap_cons, ih (fun w hw => h w (by simp [hw])), utf16,
      if_neg hsize, hpoint, hhigh, hlow]
    rfl
  | case4 u v rest hpair ih =>
    have hu := h u (by simp)
    rw [codePoints, if_neg hpair, List.flatMap_cons, ih (fun w hw => h w (by simp [hw])), utf16, if_pos hu]
    rfl

/-- Scalar values are read back from their units. -/
theorem codePoints_utf16 (points : List Nat) (h : ∀ n ∈ points, n < 0x110000 ∧ ¬ isHigh n ∧ ¬ isLow n) :
    codePoints (points.flatMap utf16) = points := by
  induction points with
  | nil => rfl
  | cons n rest ih =>
    obtain ⟨hn, hhigh, hlow⟩ := h n (by simp)
    have hrest := ih (fun m hm => h m (by simp [hm]))
    rw [List.flatMap_cons, utf16]
    by_cases hsize : n < 0x10000
    · rw [if_pos hsize, List.singleton_append]
      cases hunits : rest.flatMap utf16 with
      | nil =>
        rw [hunits] at hrest
        rw [← hrest]
        rfl
      | cons v units =>
        rw [codePoints, if_neg (fun hpair => hhigh hpair.1), ← hunits, hrest]
    · have hpair : isHigh (0xD800 + (n - 0x10000) / 0x400) ∧ isLow (0xDC00 + (n - 0x10000) % 0x400) := by
        unfold isHigh isLow
        omega
      have hpoint : 0x10000 + (0xD800 + (n - 0x10000) / 0x400 - 0xD800) * 0x400 +
          (0xDC00 + (n - 0x10000) % 0x400 - 0xDC00) = n := by omega
      rw [if_neg hsize]
      show codePoints (_ :: _ :: rest.flatMap utf16) = _
      rw [codePoints, if_pos hpair, hpoint, hrest]

/-- A type of strings, told apart by their units. -/
class Text (σ : Type) where
  points : σ → List Nat
  points_lt : ∀ s, ∀ n ∈ points s, n < 0x110000
  units_injective : Function.Injective fun s => (points s).flatMap utf16

def Text.units {σ : Type} [Text σ] (s : σ) : List Nat := (Text.points s).flatMap utf16

theorem Text.points_injective {σ : Type} [Text σ] : Function.Injective (Text.points (σ := σ)) :=
  fun _ _ h => Text.units_injective (congrArg (List.flatMap utf16) h)

/-- A string of a language that keeps UTF-16 units. -/
abbrev Units := List UInt16

theorem codePoints_lt (units : List Nat) (h : ∀ u ∈ units, u < 0x10000) : ∀ n ∈ codePoints units, n < 0x110000 := by
  induction units using codePoints.induct with
  | case1 => simp [codePoints]
  | case2 u =>
    intro n hn
    have hu := h u (by simp)
    rw [codePoints, List.mem_singleton] at hn
    omega
  | case3 u v rest hpair ih =>
    intro n hn
    rw [codePoints, if_pos hpair] at hn
    obtain ⟨⟨hu, hu'⟩, hv, hv'⟩ := hpair
    rcases List.mem_cons.mp hn with hn | hn
    · omega
    · exact ih (fun w hw => h w (by simp [hw])) n hn
  | case4 u v rest hpair ih =>
    intro n hn
    rw [codePoints, if_neg hpair] at hn
    rcases List.mem_cons.mp hn with rfl | hn
    · have := h n (by simp)
      omega
    · exact ih (fun w hw => h w (by simp [hw])) n hn

theorem toNat_units_lt (s : Units) : ∀ u ∈ s.map UInt16.toNat, u < 0x10000 := by
  intro u hu
  obtain ⟨w, -, rfl⟩ := List.mem_map.mp hu
  exact w.toNat_lt

instance : Text Units where
  points s := codePoints (s.map UInt16.toNat)
  points_lt s := codePoints_lt _ (toNat_units_lt s)
  units_injective a b h := by
    have hunits : a.map UInt16.toNat = b.map UInt16.toNat := by
      rw [← utf16_codePoints _ (toNat_units_lt a), ← utf16_codePoints _ (toNat_units_lt b)]
      exact h
    exact List.map_injective_iff.mpr (fun _ _ => UInt16.toNat_inj.mp) hunits

theorem toNat_scalar (s : String) : ∀ n ∈ s.toList.map Char.toNat, n < 0x110000 ∧ ¬ isHigh n ∧ ¬ isLow n := by
  intro n hn
  obtain ⟨c, -, rfl⟩ := List.mem_map.mp hn
  have hvalid := c.valid
  unfold isHigh isLow
  simp only [UInt32.isValidChar, Nat.isValidChar] at hvalid
  have : c.toNat = c.val.toNat := rfl
  omega

instance : Text String where
  points s := s.toList.map Char.toNat
  points_lt s n hn := (toNat_scalar s n hn).1
  units_injective a b h := by
    have hpoints : a.toList.map Char.toNat = b.toList.map Char.toNat := by
      rw [← codePoints_utf16 _ (toNat_scalar a), ← codePoints_utf16 _ (toNat_scalar b)]
      exact congrArg codePoints h
    exact String.toList_injective (List.map_injective_iff.mpr (fun _ _ => Char.toNat_inj.mp) hpoints)

instance : Text (List Char) where
  points s := s.map Char.toNat
  points_lt s := by
    have hall := Text.points_lt (String.ofList s)
    rwa [show Text.points (String.ofList s) = (String.ofList s).toList.map Char.toNat from rfl, String.toList_ofList] at hall
  units_injective a b h := by
    have hunits : (Text.points (String.ofList a)).flatMap utf16 = (Text.points (String.ofList b)).flatMap utf16 := by
      simpa [Text.points] using h
    exact String.ofList_injective (Text.units_injective hunits)

/-! ## ASCII -/

theorem bytes_ascii {cs : List Char} (h : ∀ n ∈ (cs.flatMap String.utf8EncodeChar).map UInt8.toNat, n < 128) :
    (cs.flatMap String.utf8EncodeChar).map UInt8.toNat = cs.map Char.toNat := by
  induction cs with
  | nil => rfl
  | cons c rest ih =>
    rw [List.flatMap_cons, List.map_append] at h ⊢
    have hrest := ih fun n hn => h n (List.mem_append_right _ hn)
    have hfirst : ∀ n ∈ (String.utf8EncodeChar c).map UInt8.toNat, n < 128 := fun n hn => h n (List.mem_append_left _ hn)
    have hone : (String.utf8EncodeChar c).map UInt8.toNat = [c.toNat] := by
      by_cases hsmall : c.val.toNat ≤ 127
      · have hencode : String.utf8EncodeChar c = [UInt8.ofNat c.val.toNat] := if_pos hsmall
        rw [hencode, List.map_singleton, UInt8.toNat_ofNat', Nat.mod_eq_of_lt (by omega)]
        rfl
      · -- the first byte of a longer encoding is 192 at least
        exfalso
        unfold String.utf8EncodeChar at hfirst
        dsimp only at hfirst
        rw [if_neg hsmall] at hfirst
        split at hfirst
        · have hbyte := hfirst _ List.mem_cons_self
          rw [UInt8.toNat_ofNat'] at hbyte
          omega
        · split at hfirst
          · have hbyte := hfirst _ List.mem_cons_self
            rw [UInt8.toNat_ofNat'] at hbyte
            omega
          · have hbyte := hfirst _ List.mem_cons_self
            rw [UInt8.toNat_ofNat'] at hbyte
            omega
    rw [hone, hrest]
    rfl

/-- The characters of a string, read off its bytes where they are ASCII. -/
def asciiChars (s : String) : List Char :=
  let bytes := s.toByteArray.data.toList.map UInt8.toNat
  if bytes.all (Nat.blt · 128) then bytes.map Char.ofNat else s.toList

theorem asciiChars_eq (s : String) : asciiChars s = s.toList := by
  unfold asciiChars
  dsimp only
  split
  · rename_i hall
    have hbytes : s.toByteArray.data.toList = s.toList.flatMap String.utf8EncodeChar := by
      rw [← String.utf8Encode_toList, List.utf8Encode, List.toList_data_toByteArray]
    have hsmall : ∀ n ∈ s.toByteArray.data.toList.map UInt8.toNat, n < 128 := by
      intro n hn
      exact Nat.blt_eq.mp (List.all_eq_true.mp hall n hn)
    rw [hbytes] at hsmall ⊢
    rw [bytes_ascii hsmall, List.map_map]
    exact (List.map_congr_left fun c _ => Char.ofNat_toNat c).trans (List.map_id _)
  · rfl

/-! ## Quoting -/

def hexDigit (n : Nat) : Char := if n < 10 then Char.ofNat (48 + n) else Char.ofNat (87 + n)

def unicodeEscape (n : Nat) : List Char :=
  ['\\', 'u', hexDigit (n / 0x1000), hexDigit (n / 0x100 % 0x10), hexDigit (n / 0x10 % 0x10), hexDigit (n % 0x10)]

def quotePoint (n : Nat) : List Char :=
  if n = 8 then ['\\', 'b']
  else if n = 9 then ['\\', 't']
  else if n = 10 then ['\\', 'n']
  else if n = 12 then ['\\', 'f']
  else if n = 13 then ['\\', 'r']
  else if n = 34 then ['\\', '"']
  else if n = 92 then ['\\', '\\']
  else if n < 32 ∨ isHigh n ∨ isLow n then unicodeEscape n
  else [Char.ofNat n]

def quote {σ : Type} [Text σ] (s : σ) : List Char := '"' :: (Text.points s).flatMap quotePoint ++ ['"']

def hexValue (c : Char) : Nat := if c.toNat < 58 then c.toNat - 48 else c.toNat - 87

theorem hexValue_hexDigit (n : Nat) (h : n < 16) : hexValue (hexDigit n) = n := by
  have hall : ∀ n < 16, hexValue (hexDigit n) = n := by decide
  exact hall n h

/-- The first code point of a quoted text with what follows it, `none` at the closing quote. -/
def readPoint : List Char → Option (Nat × List Char)
  | '\\' :: 'u' :: a :: b :: c :: d :: rest =>
    some (hexValue a * 0x1000 + hexValue b * 0x100 + hexValue c * 0x10 + hexValue d, rest)
  | '\\' :: 'b' :: rest => some (8, rest)
  | '\\' :: 't' :: rest => some (9, rest)
  | '\\' :: 'n' :: rest => some (10, rest)
  | '\\' :: 'f' :: rest => some (12, rest)
  | '\\' :: 'r' :: rest => some (13, rest)
  | '\\' :: '"' :: rest => some (34, rest)
  | '\\' :: '\\' :: rest => some (92, rest)
  | '"' :: _ => none
  | c :: rest => some (c.toNat, rest)
  | [] => none

theorem readPoint_unicodeEscape (n : Nat) (h : n < 0x10000) (rest : List Char) :
    readPoint (unicodeEscape n ++ rest) = some (n, rest) := by
  have hvalue : n / 0x1000 * 0x1000 + n / 0x100 % 0x10 * 0x100 + n / 0x10 % 0x10 * 0x10 + n % 0x10 = n := by omega
  show some (_ * 0x1000 + _ * 0x100 + _ * 0x10 + _, rest) = _
  rw [hexValue_hexDigit _ (by omega), hexValue_hexDigit _ (by omega), hexValue_hexDigit _ (by omega),
    hexValue_hexDigit _ (by omega), hvalue]

theorem readPoint_char (c : Char) (rest : List Char) (hslash : c ≠ '\\') (hquote : c ≠ '"') :
    readPoint (c :: rest) = some (c.toNat, rest) := by
  unfold readPoint
  split <;> simp_all

theorem readPoint_quotePoint (n : Nat) (h : n < 0x110000) (rest : List Char) :
    readPoint (quotePoint n ++ rest) = some (n, rest) := by
  unfold quotePoint
  split_ifs with h8 h9 h10 h12 h13 h34 h92 hescape
  · rw [h8]; rfl
  · rw [h9]; rfl
  · rw [h10]; rfl
  · rw [h12]; rfl
  · rw [h13]; rfl
  · rw [h34]; rfl
  · rw [h92]; rfl
  · apply readPoint_unicodeEscape
    unfold isHigh isLow at hescape
    omega
  · have hvalid : n.isValidChar := by
      unfold isHigh isLow at hescape
      unfold Nat.isValidChar
      omega
    have hnat : (Char.ofNat n).toNat = n := by
      rw [Char.ofNat, dif_pos hvalid]
      rfl
    rw [List.singleton_append, readPoint_char, hnat]
    · intro hc
      exact h92 (by rw [← hnat, hc]; rfl)
    · intro hc
      exact h34 (by rw [← hnat, hc]; rfl)

theorem quotePoints_inj (a b : List Nat) (ha : ∀ n ∈ a, n < 0x110000) (hb : ∀ n ∈ b, n < 0x110000) (x y : List Char)
    (h : a.flatMap quotePoint ++ '"' :: x = b.flatMap quotePoint ++ '"' :: y) : a = b ∧ x = y := by
  induction a generalizing b with
  | nil =>
    cases b with
    | nil => simpa using h
    | cons m b =>
      have hread := congrArg readPoint h
      rw [List.flatMap_cons, List.append_assoc, readPoint_quotePoint m (hb m (by simp))] at hread
      cases hread
  | cons n a ih =>
    have hn := readPoint_quotePoint n (ha n (by simp)) (a.flatMap quotePoint ++ '"' :: x)
    rw [← List.append_assoc, ← List.flatMap_cons, h] at hn
    cases b with
    | nil => cases hn
    | cons m b =>
      rw [List.flatMap_cons, List.append_assoc, readPoint_quotePoint m (hb m (by simp))] at hn
      simp only [Option.some.injEq, Prod.mk.injEq] at hn
      obtain ⟨hpoints, hrest⟩ := ih b (fun k hk => ha k (by simp [hk])) (fun k hk => hb k (by simp [hk])) hn.2.symm
      exact ⟨by rw [hn.1, hpoints], hrest⟩

theorem quote_inj {σ τ : Type} [Text σ] [Text τ] (a : σ) (b : τ) (x y : List Char) (h : quote a ++ x = quote b ++ y) :
    Text.points a = Text.points b ∧ x = y := by
  unfold quote at h
  simp only [List.cons_append, List.append_assoc, List.nil_append, List.cons.injEq, true_and] at h
  exact quotePoints_inj _ _ (Text.points_lt a) (Text.points_lt b) x y h

end TokenPilot.Library
