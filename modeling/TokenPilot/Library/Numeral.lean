/-
  TokenPilot.Library.Numeral — how JavaScript writes a number.

  A number is the shortest decimal that reads back as it, so it is a `Decimal`, written by its
  digits and the place of the point: `fixed` without an exponent, `scientific` with one, and
  `jsNumber` by the size of the number. It reads back as the number it was written for
  (`value_jsNumber`), so the texts of two numbers differ.
-/

import Mathlib.Data.List.Induction
import Mathlib.Tactic.Push
import TokenPilot.Library.Decimal
import TokenPilot.Library.Json

namespace TokenPilot.Library

theorem Decimal.toRat_injective : Function.Injective Decimal.toRat := by
  -- the number with the lower exponent has a coefficient that ends in zeros
  have hle (a b : Decimal) (h : a.toRat = b.toRat) (hexp : a.exponent ≤ b.exponent) : a = b := by
    obtain ⟨m, hm⟩ := Int.le.dest hexp
    have hcoeff : (a.coefficient : ℚ) = b.coefficient * 10 ^ m := by
      have hpow : (10 : ℚ) ^ b.exponent = 10 ^ m * 10 ^ a.exponent := by
        rw [← hm, zpow_add₀ (by norm_num), zpow_natCast, mul_comm]
      unfold Decimal.toRat at h
      rw [hpow, ← mul_assoc] at h
      exact mul_right_cancel₀ (zpow_ne_zero _ (by norm_num)) h
    have hint : a.coefficient = b.coefficient * 10 ^ m := by exact_mod_cast hcoeff
    have hzero : m = 0 ∨ b.coefficient = 0 := by
      rcases Nat.eq_zero_or_pos m with hm0 | hpos
      · exact .inl hm0
      · obtain ⟨k, rfl⟩ := Nat.exists_eq_add_of_lt hpos
        rcases a.normal with ⟨ha, -⟩ | ha
        · rw [ha] at hint
          rcases mul_eq_zero.mp hint.symm with hb | hb
          · exact .inr hb
          · exact absurd hb (pow_ne_zero _ (by norm_num))
        · refine absurd ?_ ha
          rw [hint, zero_add, pow_succ, ← mul_assoc]
          exact Int.mul_emod_left _ _
    rcases hzero with rfl | hb
    · have hcoefficient : a.coefficient = b.coefficient := by simpa using hint
      have hexponent : a.exponent = b.exponent := by omega
      cases a; cases b; simp_all
    · have ha : a.coefficient = 0 := by rw [hint, hb, zero_mul]
      have hexponent (d : Decimal) (hd : d.coefficient = 0) : d.exponent = 0 := by
        rcases d.normal with h | h
        · exact h.2
        · exact absurd (by rw [hd]; rfl) h
      have hea := hexponent a ha
      have heb := hexponent b hb
      cases a; cases b; simp_all
  intro a b h
  rcases le_total a.exponent b.exponent with hexp | hexp
  · exact hle a b h hexp
  · exact (hle b a h.symm hexp).symm

namespace Numeral

/-! ## Writing -/

/-- The digits `s` with the point after the first `n`. -/
def fixed (s : List Char) (n : Int) : List Char :=
  if s.length ≤ n then s ++ List.replicate (n - s.length).toNat '0'
  else if 0 < n then s.take n.toNat ++ '.' :: s.drop n.toNat
  else '0' :: '.' :: List.replicate (-n).toNat '0' ++ s

def pointed : List Char → List Char
  | c :: d :: rest => c :: '.' :: d :: rest
  | s => s

/-- The digits `s` with the point after the first, and an exponent of at least `width` digits. -/
def scientific (width : Nat) (s : List Char) (n : Int) : List Char :=
  let digits := Nat.toDigits 10 (n - 1).natAbs
  pointed s ++ 'e' :: (if n - 1 < 0 then '-' else '+') :: (List.replicate (width - digits.length) '0' ++ digits)

def digits (d : Decimal) : List Char := Nat.toDigits 10 d.coefficient.natAbs

/-- How many digits stand before the point; negative for zeros after it. -/
def place (d : Decimal) : Int := d.exponent + (digits d).length

def signed (d : Decimal) (t : List Char) : List Char := if d.coefficient < 0 then '-' :: t else t

/-- Number::toString. -/
def jsNumber (d : Decimal) : List Char :=
  if d.coefficient = 0 then ['0']
  else signed d (if -6 < place d ∧ place d ≤ 21 then fixed (digits d) (place d) else scientific 0 (digits d) (place d))

/-! ## Reading -/

def readExponent : List Char → Int
  | '-' :: t => -(Nat.ofDigitChars 10 t 0 : Int)
  | _ :: t => Nat.ofDigitChars 10 t 0
  | [] => 0

/-- The value of digits around a point. -/
def mantissa (t : List Char) : ℚ :=
  Nat.ofDigitChars 10 (t.takeWhile (· ≠ '.') ++ (t.dropWhile (· ≠ '.')).tail) 0 *
    10 ^ (-((t.dropWhile (· ≠ '.')).tail.length : Int))

def unsigned (t : List Char) : ℚ :=
  mantissa (t.takeWhile (· ≠ 'e')) * 10 ^ readExponent (t.dropWhile (· ≠ 'e')).tail

def value : List Char → ℚ
  | '-' :: t => -unsigned t
  | t => unsigned t

theorem forall_ne {c : Char} {s : List Char} (h : c ∉ s) : ∀ a ∈ s, decide (a ≠ c) = true := by
  intro a ha
  have hac : a ≠ c := ne_of_mem_of_not_mem ha h
  simpa using hac

theorem takeWhile_ne {c : Char} {s : List Char} (rest : List Char) (h : c ∉ s) :
    (s ++ c :: rest).takeWhile (· ≠ c) = s := by
  rw [List.takeWhile_append_of_pos (forall_ne h), List.takeWhile_cons_of_neg (by simp), List.append_nil]

theorem dropWhile_ne {c : Char} {s : List Char} (rest : List Char) (h : c ∉ s) :
    (s ++ c :: rest).dropWhile (· ≠ c) = c :: rest := by
  rw [List.dropWhile_append_of_pos (forall_ne h), List.dropWhile_cons_of_neg (by simp)]

theorem takeWhile_all {c : Char} {s : List Char} (h : c ∉ s) : s.takeWhile (· ≠ c) = s := by
  have hall : (s ++ []).takeWhile (· ≠ c) = s ++ [].takeWhile (· ≠ c) :=
    List.takeWhile_append_of_pos (forall_ne h)
  simpa using hall

theorem dropWhile_all {c : Char} {s : List Char} (h : c ∉ s) : s.dropWhile (· ≠ c) = [] := by
  have hall : (s ++ []).dropWhile (· ≠ c) = [].dropWhile (· ≠ c) :=
    List.dropWhile_append_of_pos (forall_ne h)
  simpa using hall

theorem mantissa_whole {s : List Char} (h : '.' ∉ s) : mantissa s = Nat.ofDigitChars 10 s 0 := by
  unfold mantissa
  rw [takeWhile_all h, dropWhile_all h]
  simp

theorem mantissa_part {whole : List Char} (part : List Char) (h : '.' ∉ whole) :
    mantissa (whole ++ '.' :: part) = Nat.ofDigitChars 10 (whole ++ part) 0 * 10 ^ (-(part.length : Int)) := by
  unfold mantissa
  rw [takeWhile_ne part h, dropWhile_ne part h, List.tail_cons]

theorem unsigned_plain {s : List Char} (h : 'e' ∉ s) : unsigned s = mantissa s := by
  unfold unsigned
  rw [takeWhile_all h, dropWhile_all h]
  simp [readExponent]

theorem unsigned_exponent {s : List Char} (t : List Char) (h : 'e' ∉ s) :
    unsigned (s ++ 'e' :: t) = mantissa s * 10 ^ readExponent t := by
  unfold unsigned
  rw [takeWhile_ne t h, dropWhile_ne t h, List.tail_cons]

/-! ## The texts read back -/

/-- Digits and nothing else. -/
def Plain (s : List Char) : Prop := ∀ c ∈ s, c.isDigit = true

theorem Plain.not_mem {s : List Char} (h : Plain s) {c : Char} (hc : c.isDigit = false) : c ∉ s := by
  intro hmem
  rw [h c hmem] at hc
  cases hc

theorem plain_toDigits (n : Nat) : Plain (Nat.toDigits 10 n) := fun _ hc =>
  Nat.isDigit_of_mem_toDigits (by decide) (by decide) hc

theorem plain_zeros (n : Nat) : Plain (List.replicate n '0') := by
  intro c hc
  rw [List.eq_of_mem_replicate hc]
  rfl

theorem Plain.append {s t : List Char} (hs : Plain s) (ht : Plain t) : Plain (s ++ t) := by
  intro c hc
  rcases List.mem_append.mp hc with hc | hc
  · exact hs c hc
  · exact ht c hc

theorem value_zeros_append (n : Nat) (s : List Char) :
    Nat.ofDigitChars 10 (List.replicate n '0' ++ s) 0 = Nat.ofDigitChars 10 s 0 := by
  rw [Nat.ofDigitChars_append, Nat.ofDigitChars_replicate_zero, mul_zero]

theorem unsigned_fixed {s : List Char} (h : Plain s) (n : Int) :
    unsigned (fixed s n) = Nat.ofDigitChars 10 s 0 * 10 ^ (n - s.length) := by
  unfold fixed
  split_ifs with hwhole hpoint
  · obtain ⟨m, hm⟩ := Int.eq_ofNat_of_zero_le (by omega : 0 ≤ n - s.length)
    rw [hm, Int.toNat_natCast]
    have hplain := h.append (plain_zeros m)
    rw [unsigned_plain (hplain.not_mem (by decide)), mantissa_whole (hplain.not_mem (by decide)),
      Nat.ofDigitChars_append, Nat.ofDigitChars_replicate_zero, zpow_natCast]
    push_cast
    ring
  · have htake : Plain (s.take n.toNat) := fun c hc => h c (List.mem_of_mem_take hc)
    have hdrop : Plain (s.drop n.toNat) := fun c hc => h c (List.mem_of_mem_drop hc)
    have he : 'e' ∉ s.take n.toNat ++ '.' :: s.drop n.toNat := by
      simp [htake.not_mem (c := 'e') (by decide), hdrop.not_mem (c := 'e') (by decide)]
    have hlength : -((s.drop n.toNat).length : Int) = n - s.length := by
      rw [List.length_drop]
      omega
    rw [unsigned_plain he, mantissa_part _ (htake.not_mem (by decide)), List.take_append_drop, hlength]
  · have hzeros := (plain_zeros (-n).toNat).append h
    have he : 'e' ∉ '0' :: '.' :: List.replicate (-n).toNat '0' ++ s := by
      have := hzeros.not_mem (c := 'e') (by decide)
      simpa using this
    have hlength : -((List.replicate (-n).toNat '0' ++ s).length : Int) = n - s.length := by
      simp
      omega
    rw [unsigned_plain he]
    show mantissa (['0'] ++ '.' :: (List.replicate (-n).toNat '0' ++ s)) = _
    have hvalue : Nat.ofDigitChars 10 (['0'] ++ (List.replicate (-n).toNat '0' ++ s)) 0 = Nat.ofDigitChars 10 s 0 := by
      rw [Nat.ofDigitChars_append, ← value_zeros_append (-n).toNat s]
      rfl
    rw [mantissa_part _ (by decide), hlength, hvalue]

theorem mantissa_pointed {s : List Char} (h : Plain s) (hs : s ≠ []) :
    mantissa (pointed s) = Nat.ofDigitChars 10 s 0 * 10 ^ (1 - (s.length : Int)) := by
  have hdot : '.' ∉ s := h.not_mem (by decide)
  match s, hs with
  | [c], _ =>
    show mantissa [c] = _
    rw [mantissa_whole hdot]
    simp
  | c :: d :: rest, _ =>
    show mantissa ([c] ++ '.' :: (d :: rest)) = _
    rw [mantissa_part _ (by simp_all)]
    have hlength : -(((d :: rest).length : Nat) : Int) = 1 - ((c :: d :: rest).length : Nat) := by
      simp only [List.length_cons]
      omega
    rw [hlength]
    rfl

theorem pointed_no_exponent {s : List Char} (h : Plain s) : 'e' ∉ pointed s := by
  have he : 'e' ∉ s := h.not_mem (by decide)
  match s with
  | [] => simp [pointed]
  | [c] => simpa [pointed] using he
  | c :: d :: rest => simpa [pointed] using he

theorem readExponent_text (width : Nat) (e : Int) :
    readExponent ((if e < 0 then '-' else '+') ::
      (List.replicate (width - (Nat.toDigits 10 e.natAbs).length) '0' ++ Nat.toDigits 10 e.natAbs)) = e := by
  have hvalue := value_zeros_append (width - (Nat.toDigits 10 e.natAbs).length) (Nat.toDigits 10 e.natAbs)
  rw [Nat.ofDigitChars_ten_toDigits] at hvalue
  split
  · show -((Nat.ofDigitChars 10 _ 0 : Nat) : Int) = e
    rw [hvalue]
    omega
  · show ((Nat.ofDigitChars 10 _ 0 : Nat) : Int) = e
    rw [hvalue]
    omega

theorem unsigned_scientific (width : Nat) {s : List Char} (h : Plain s) (hs : s ≠ []) (n : Int) :
    unsigned (scientific width s n) = Nat.ofDigitChars 10 s 0 * 10 ^ (n - s.length) := by
  show unsigned (pointed s ++ 'e' :: _ :: (_ ++ _)) = _
  rw [unsigned_exponent _ (pointed_no_exponent h), readExponent_text, mantissa_pointed h hs, mul_assoc,
    ← zpow_add₀ (by norm_num)]
  congr 2
  omega

theorem fixed_first {s : List Char} (h : Plain s) (hs : s ≠ []) (n : Int) :
    ∃ c rest, fixed s n = c :: rest ∧ c.isDigit = true := by
  obtain ⟨c, rest, rfl⟩ := List.exists_cons_of_ne_nil hs
  unfold fixed
  split_ifs with hwhole hpoint
  · exact ⟨c, _, rfl, h c (by simp)⟩
  · obtain ⟨m, hm⟩ := Nat.exists_eq_succ_of_ne_zero (by omega : n.toNat ≠ 0)
    rw [hm, List.take_succ_cons]
    exact ⟨c, _, rfl, h c (by simp)⟩
  · exact ⟨'0', _, rfl, rfl⟩

theorem scientific_first (width : Nat) {s : List Char} (h : Plain s) (hs : s ≠ []) (n : Int) :
    ∃ c rest, scientific width s n = c :: rest ∧ c.isDigit = true := by
  unfold scientific
  match s, hs with
  | [c], _ => exact ⟨c, _, rfl, h c (by simp)⟩
  | c :: d :: rest, _ => exact ⟨c, _, rfl, h c (by simp)⟩

theorem value_unsigned {t : List Char} (ht : ∃ c rest, t = c :: rest ∧ c.isDigit = true) : value t = unsigned t := by
  obtain ⟨c, rest, rfl, hc⟩ := ht
  have hminus : c ≠ '-' := by
    rintro rfl
    exact absurd hc (by decide)
  unfold value
  split
  · rename_i heq
    exact absurd (List.cons.inj heq).1 hminus
  · rfl

theorem value_signed (d : Decimal) {t : List Char} (ht : ∃ c rest, t = c :: rest ∧ c.isDigit = true) :
    value (signed d t) = if d.coefficient < 0 then -unsigned t else unsigned t := by
  unfold signed
  split
  · rfl
  · exact value_unsigned ht

theorem plain_digits (d : Decimal) : Plain (digits d) := plain_toDigits _

theorem digits_ne_nil (d : Decimal) : digits d ≠ [] := Nat.toDigits_ne_nil

theorem toRat_place (d : Decimal) : d.toRat =
    if d.coefficient < 0 then -((Nat.ofDigitChars 10 (digits d) 0 : ℚ) * 10 ^ (place d - (digits d).length))
    else (Nat.ofDigitChars 10 (digits d) 0 : ℚ) * 10 ^ (place d - (digits d).length) := by
  have hplace : place d - (digits d).length = d.exponent := by
    unfold place
    omega
  rw [hplace, digits, Nat.ofDigitChars_ten_toDigits, Decimal.toRat]
  split
  · have hcoeff : (d.coefficient : ℚ) = -(d.coefficient.natAbs : ℚ) := by
      have hint : d.coefficient = -(d.coefficient.natAbs : Int) := by omega
      rw [← Int.cast_natCast, ← Int.cast_neg, ← hint]
    rw [hcoeff, neg_mul]
  · have hcoeff : (d.coefficient : ℚ) = (d.coefficient.natAbs : ℚ) := by
      have hint : d.coefficient = (d.coefficient.natAbs : Int) := by omega
      rw [← Int.cast_natCast, ← hint]
    rw [hcoeff]

theorem value_fixed (d : Decimal) : value (signed d (fixed (digits d) (place d))) = d.toRat := by
  rw [value_signed d (fixed_first (plain_digits d) (digits_ne_nil d) _), unsigned_fixed (plain_digits d), toRat_place]

theorem value_scientific (d : Decimal) (width : Nat) :
    value (signed d (scientific width (digits d) (place d))) = d.toRat := by
  rw [value_signed d (scientific_first width (plain_digits d) (digits_ne_nil d) _),
    unsigned_scientific width (plain_digits d) (digits_ne_nil d), toRat_place]

theorem value_zero {d : Decimal} (h : d.coefficient = 0) : value ['0'] = d.toRat := by
  rw [Decimal.toRat, h]
  show unsigned ['0'] = _
  have hdigit : Nat.ofDigitChars 10 ['0'] 0 = 0 := rfl
  rw [unsigned_plain (by decide), mantissa_whole (by decide), hdigit]
  simp

theorem value_jsNumber (d : Decimal) : value (jsNumber d) = d.toRat := by
  unfold jsNumber
  split_ifs with hzero hplace
  · exact value_zero hzero
  · exact value_fixed d
  · exact value_scientific d 0

theorem jsNumber_injective : Function.Injective jsNumber := by
  intro a b h
  apply Decimal.toRat_injective
  rw [← value_jsNumber a, h, value_jsNumber]

/-! ## Characters of the texts -/

theorem Plain.numeral {s : List Char} (h : Plain s) : ∀ c ∈ s, Json.numeral c = true := by
  intro c hc
  simp [Json.numeral, h c hc]

theorem fixed_numeral {s : List Char} (h : Plain s) (n : Int) : ∀ c ∈ fixed s n, Json.numeral c = true := by
  unfold fixed
  split_ifs with hwhole hpoint
  · exact (h.append (plain_zeros _)).numeral
  · intro c hc
    simp only [List.mem_append, List.mem_cons] at hc
    rcases hc with hc | rfl | hc
    · exact h.numeral c (List.mem_of_mem_take hc)
    · decide
    · exact h.numeral c (List.mem_of_mem_drop hc)
  · intro c hc
    simp only [List.cons_append, List.mem_cons] at hc
    rcases hc with rfl | rfl | hc
    · decide
    · decide
    · exact ((plain_zeros _).append h).numeral c hc

theorem pointed_numeral {s : List Char} (h : Plain s) : ∀ c ∈ pointed s, Json.numeral c = true := by
  unfold pointed
  split
  · intro c hc
    simp only [List.mem_cons] at hc
    rcases hc with rfl | rfl | rfl | hc
    · exact h.numeral c (by simp)
    · decide
    · exact h.numeral c (by simp)
    · exact h.numeral c (by simp [hc])
  · exact h.numeral

theorem scientific_numeral (width : Nat) {s : List Char} (h : Plain s) (n : Int) :
    ∀ c ∈ scientific width s n, Json.numeral c = true := by
  intro c hc
  rcases List.mem_append.mp hc with hc | hc
  · exact pointed_numeral h c hc
  · rcases List.mem_cons.mp hc with rfl | hc
    · decide
    · rcases List.mem_cons.mp hc with rfl | hc
      · split <;> decide
      · exact ((plain_zeros _).append (plain_toDigits _)).numeral c hc

theorem signed_numeric (d : Decimal) {t : List Char} (h : ∀ c ∈ t, Json.numeral c = true) (ht : t ≠ []) :
    Json.Numeric (signed d t) := by
  unfold signed
  split
  · refine ⟨by simp, ?_⟩
    intro c hc
    rcases List.mem_cons.mp hc with rfl | hc
    · decide
    · exact h c hc
  · exact ⟨ht, h⟩

theorem fixed_numeric (d : Decimal) : Json.Numeric (signed d (fixed (digits d) (place d))) := by
  obtain ⟨c, rest, hfirst, -⟩ := fixed_first (plain_digits d) (digits_ne_nil d) (place d)
  exact signed_numeric d (fixed_numeral (plain_digits d) _) (by simp [hfirst])

theorem scientific_numeric (d : Decimal) (width : Nat) :
    Json.Numeric (signed d (scientific width (digits d) (place d))) := by
  obtain ⟨c, rest, hfirst, -⟩ := scientific_first width (plain_digits d) (digits_ne_nil d) (place d)
  exact signed_numeric d (scientific_numeral width (plain_digits d) _) (by simp [hfirst])

theorem zero_numeric : Json.Numeric ['0'] := by
  refine ⟨by simp, fun c hc => ?_⟩
  rw [List.mem_singleton.mp hc]
  decide

theorem jsNumber_numeric (d : Decimal) : Json.Numeric (jsNumber d) := by
  unfold jsNumber
  split_ifs
  · exact zero_numeric
  · exact fixed_numeric d
  · exact scientific_numeric d 0

/-! ## Where the two languages write the same -/

theorem fixed_no_exponent {s : List Char} (h : Plain s) (n : Int) : 'e' ∉ fixed s n := by
  have he : 'e' ∉ s := h.not_mem (by decide)
  unfold fixed
  split_ifs
  · simp [he]
  · simp [List.mem_append, mt List.mem_of_mem_take he, mt List.mem_of_mem_drop he]
  · simp [he]

end Numeral

/-! ## Natural numbers -/

theorem toList_toString (n : Nat) : (toString n).toList = Nat.toDigits 10 n := by
  rw [Nat.toString_eq_repr, Nat.toList_repr]

theorem toString_inj {m n : Nat} (h : toString m = toString n) : m = n := by
  have hdigits : Nat.toDigits 10 m = Nat.toDigits 10 n := by rw [← toList_toString, ← toList_toString, h]
  rw [← Nat.ofDigitChars_ten_toDigits (n := m), hdigits, Nat.ofDigitChars_ten_toDigits]

namespace Numeral

theorem digitChar_sub {c : Char} (h : c.isDigit = true) : c.toNat - '0'.toNat < 10 ∧ Nat.digitChar (c.toNat - '0'.toNat) = c := by
  have hbounds : 48 ≤ c.toNat ∧ c.toNat ≤ 57 := by
    simpa [Char.isDigit, UInt32.le_iff_toNat_le] using h
  have hall : ∀ n < 10, Nat.digitChar n = Char.ofNat (48 + n) := by decide
  have hzero : '0'.toNat = 48 := rfl
  rw [hzero]
  refine ⟨by omega, ?_⟩
  rw [hall _ (by omega), show 48 + (c.toNat - 48) = c.toNat by omega, Char.ofNat_toNat]

/-- Digits that do not start with a zero are those of the number they stand for. -/
theorem toDigits_ofDigitChars {s : List Char} (h : Plain s) (hs : s ≠ []) (hhead : s.head? ≠ some '0') :
    Nat.toDigits 10 (Nat.ofDigitChars 10 s 0) = s ∧ 0 < Nat.ofDigitChars 10 s 0 := by
  induction s using List.reverseRecOn with
  | nil => exact absurd rfl hs
  | append_singleton front c ih =>
    obtain ⟨hlt, hchar⟩ := digitChar_sub (h c (by simp))
    rw [Nat.ofDigitChars_append, Nat.ofDigitChars_cons, Nat.ofDigitChars_nil]
    by_cases hfront : front = []
    · subst hfront
      rw [Nat.ofDigitChars_nil, Nat.mul_zero, Nat.zero_add, Nat.toDigits_of_lt_base hlt, hchar]
      refine ⟨rfl, Nat.pos_of_ne_zero fun hzero => hhead ?_⟩
      rw [hzero] at hchar
      simp [← hchar, Nat.digitChar]
    · obtain ⟨hdigits, hpos⟩ := ih (fun d hd => h d (by simp [hd])) hfront (by
        rwa [List.head?_append_of_ne_nil _ hfront] at hhead)
      have hquotient : (10 * Nat.ofDigitChars 10 front 0 + (c.toNat - '0'.toNat)) / 10 = Nat.ofDigitChars 10 front 0 := by
        omega
      have hrest : (10 * Nat.ofDigitChars 10 front 0 + (c.toNat - '0'.toNat)) % 10 = c.toNat - '0'.toNat := by
        omega
      rw [Nat.toDigits_of_base_le (by norm_num) (by omega), hquotient, hrest, hdigits, hchar]
      exact ⟨rfl, by omega⟩

theorem head?_toDigits {n : Nat} (h : 0 < n) : (Nat.toDigits 10 n).head? ≠ some '0' := by
  induction n using Nat.strongRecOn with
  | ind n ih =>
    by_cases hn : n < 10
    · have hall : ∀ n < 10, 0 < n → Nat.digitChar n ≠ '0' := by decide
      rw [Nat.toDigits_of_lt_base hn]
      simpa using hall n hn h
    · rw [Nat.toDigits_of_base_le (by norm_num) (by omega), List.head?_append_of_ne_nil _ Nat.toDigits_ne_nil]
      exact ih (n / 10) (by omega) (by omega)

theorem value_toString (n : Nat) : value (toString n).toList = n := by
  have hplain := plain_toDigits n
  have hfirst : ∃ c rest, Nat.toDigits 10 n = c :: rest ∧ c.isDigit = true := by
    obtain ⟨c, rest, hc⟩ := List.exists_cons_of_ne_nil (Nat.toDigits_ne_nil (n := n) (b := 10))
    exact ⟨c, rest, hc, hplain c (by simp [hc])⟩
  rw [toList_toString, value_unsigned hfirst, unsigned_plain (hplain.not_mem (by decide)),
    mantissa_whole (hplain.not_mem (by decide)), Nat.ofDigitChars_ten_toDigits]

theorem value_intToString (n : Int) : value (toString n).toList = n := by
  rw [Int.toString_eq_repr, Int.repr_eq_if]
  by_cases h : 0 ≤ n
  · rw [if_pos h, ← Nat.toString_eq_repr, value_toString]
    exact_mod_cast Int.toNat_of_nonneg h
  · have hplain := plain_toDigits (-n).toNat
    rw [if_neg h, String.toList_append, Nat.toList_repr]
    show -unsigned (Nat.toDigits 10 (-n).toNat) = n
    rw [unsigned_plain (hplain.not_mem (by decide)), mantissa_whole (hplain.not_mem (by decide)),
      Nat.ofDigitChars_ten_toDigits]
    have hback : ((-n).toNat : Int) = -n := Int.toNat_of_nonneg (by omega)
    have hcast : (((-n).toNat : Int) : ℚ) = -(n : ℚ) := by rw [hback, Int.cast_neg]
    rw [show (((-n).toNat : Nat) : ℚ) = (((-n).toNat : Int) : ℚ) from rfl, hcast, neg_neg]

end Numeral

end TokenPilot.Library
