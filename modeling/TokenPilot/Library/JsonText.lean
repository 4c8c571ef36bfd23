/-
  TokenPilot.Library.JsonText — reading JSON texts.

  `parse` reads a text as `JSON.parse` does: blanks may stand between tokens, an escape is
  one UTF-16 unit, and of fields with the same key the last one counts. What the text of a
  number stands for is left open (`number`). Reading is by fuel, of which two a character are
  enough for every text.

  `parse_render`: a value whose objects have distinct keys is read back from its rendering.
-/

import Mathlib.Data.List.TakeWhile
import TokenPilot.Library.Json

namespace TokenPilot.Library.Json

/-! ## Strings -/

def blank (c : Char) : Bool := c = ' ' || c = '\t' || c = '\n' || c = '\r'

def skip (s : List Char) : List Char := s.dropWhile blank

def hexOf (c : Char) : Option Nat :=
  if c.isDigit then some (c.toNat - 48)
  else if 97 ≤ c.toNat ∧ c.toNat ≤ 102 then some (c.toNat - 87)
  else if 65 ≤ c.toNat ∧ c.toNat ≤ 70 then some (c.toNat - 55)
  else none

def shortEscapes : List (Char × Nat) :=
  [('"', 34), ('\\', 92), ('/', 47), ('b', 8), ('f', 12), ('n', 10), ('r', 13), ('t', 9)]

/-- The unit of an escape, after the backslash, and what follows. -/
def readEscape : List Char → Option (Nat × List Char)
  | 'u' :: a :: b :: c :: d :: rest => do
    let a ← hexOf a
    let b ← hexOf b
    let c ← hexOf c
    let d ← hexOf d
    some (a * 0x1000 + b * 0x100 + c * 0x10 + d, rest)
  | c :: rest => (shortEscapes.lookup c).map fun n => (n, rest)
  | [] => none

/-- The units up to the closing quote, and what follows it. -/
def readUnits : Nat → List Char → Option (List Nat × List Char)
  | 0, _ => none
  | _ + 1, [] => none
  | fuel + 1, c :: rest =>
    if c = '"' then some ([], rest)
    else if c = '\\' then
      (readEscape rest).bind fun escape =>
        (readUnits fuel escape.2).map fun read => (escape.1 :: read.1, read.2)
    else if c.toNat < 32 then none
    else (readUnits fuel rest).map fun read => (utf16 c.toNat ++ read.1, read.2)

def readString (s : List Char) : Option (Units × List Char) :=
  (readUnits (s.length + 1) s).map fun read => (read.1.map UInt16.ofNat, read.2)

theorem hexOf_hexDigit {n : Nat} (h : n < 16) : hexOf (hexDigit n) = some n := by
  have hall : ∀ n < 16, hexOf (hexDigit n) = some n := by decide
  exact hall n h

theorem readEscape_unicode {n : Nat} (h : n < 0x10000) (rest : List Char) :
    readEscape ((unicodeEscape n).tail ++ rest) = some (n, rest) := by
  have hvalue : n / 0x1000 * 0x1000 + n / 0x100 % 0x10 * 0x100 + n / 0x10 % 0x10 * 0x10 + n % 0x10 = n := by omega
  unfold unicodeEscape
  simp only [List.tail_cons, List.cons_append, List.nil_append, readEscape]
  rw [hexOf_hexDigit (by omega), hexOf_hexDigit (by omega), hexOf_hexDigit (by omega), hexOf_hexDigit (by omega)]
  simp only [Option.bind_eq_bind, Option.bind_some, hvalue]

/-- A code point that is quoted gives its units. -/
theorem readUnits_quotePoint {n : Nat} (h : n < 0x110000) (fuel : Nat) (rest : List Char) :
    readUnits (fuel + 1) (quotePoint n ++ rest) = (readUnits fuel rest).map fun read => (utf16 n ++ read.1, read.2) := by
  have hshort {c : Char} {m : Nat} (hm : m < 0x10000) (hescape : readEscape (c :: rest) = some (m, rest)) :
      readUnits (fuel + 1) ('\\' :: c :: rest) = (readUnits fuel rest).map fun read => (utf16 m ++ read.1, read.2) := by
    rw [readUnits, if_neg (by decide), if_pos rfl, hescape]
    unfold utf16
    rw [if_pos hm]
    rfl
  unfold quotePoint
  split_ifs with h8 h9 h10 h12 h13 h34 h92 hescape
  · exact h8 ▸ hshort (by decide) rfl
  · exact h9 ▸ hshort (by decide) rfl
  · exact h10 ▸ hshort (by decide) rfl
  · exact h12 ▸ hshort (by decide) rfl
  · exact h13 ▸ hshort (by decide) rfl
  · exact h34 ▸ hshort (by decide) rfl
  · exact h92 ▸ hshort (by decide) rfl
  · have hunit : n < 0x10000 := by
      unfold isHigh isLow at hescape
      omega
    have hsplit : unicodeEscape n ++ rest = '\\' :: ((unicodeEscape n).tail ++ rest) := rfl
    rw [hsplit, readUnits, if_neg (by decide), if_pos rfl, readEscape_unicode hunit]
    unfold utf16
    rw [if_pos hunit]
    rfl
  · have hvalid : n.isValidChar := by
      unfold isHigh isLow at hescape
      unfold Nat.isValidChar
      omega
    have hnat : (Char.ofNat n).toNat = n := by
      rw [Char.ofNat, dif_pos hvalid]
      rfl
    have hquote : Char.ofNat n ≠ '"' := by
      intro hc
      exact h34 (by rw [← hnat, hc]; rfl)
    have hslash : Char.ofNat n ≠ '\\' := by
      intro hc
      exact h92 (by rw [← hnat, hc]; rfl)
    rw [List.singleton_append, readUnits, if_neg hquote, if_neg hslash, hnat, if_neg (by omega)]

theorem readUnits_quoted {points : List Nat} (h : ∀ n ∈ points, n < 0x110000) (rest : List Char) {fuel : Nat}
    (hfuel : points.length < fuel) :
    readUnits fuel (points.flatMap quotePoint ++ '"' :: rest) = some (points.flatMap utf16, rest) := by
  induction points generalizing fuel with
  | nil =>
    obtain ⟨fuel, rfl⟩ := Nat.exists_eq_succ_of_ne_zero (Nat.ne_of_gt hfuel)
    rfl
  | cons n points ih =>
    obtain ⟨fuel, rfl⟩ := Nat.exists_eq_succ_of_ne_zero (show fuel ≠ 0 by omega)
    rw [List.flatMap_cons, List.append_assoc, readUnits_quotePoint (h n (by simp)),
      ih (fun m hm => h m (by simp [hm])) (by simpa using hfuel)]
    rfl

theorem quotePoint_length (n : Nat) : 1 ≤ (quotePoint n).length := by
  unfold quotePoint
  split_ifs <;> simp [unicodeEscape]

theorem flatMap_quotePoint_length (points : List Nat) : points.length ≤ (points.flatMap quotePoint).length := by
  induction points with
  | nil => exact Nat.le_refl _
  | cons n points ih =>
    have hn := quotePoint_length n
    rw [List.flatMap_cons, List.length_append, List.length_cons]
    omega

/-- A quoted string is read back, after its opening quote. -/
theorem readString_quote (s : Units) (rest : List Char) :
    readString ((quote s).tail ++ rest) = some (s, rest) := by
  have hsplit : (quote s).tail ++ rest = (Text.points s).flatMap quotePoint ++ '"' :: rest := by
    unfold quote
    simp
  have hlength := flatMap_quotePoint_length (Text.points s)
  have hunits : (Text.points s).flatMap utf16 = s.map UInt16.toNat := utf16_codePoints _ (toNat_units_lt s)
  have hback : (s.map UInt16.toNat).map UInt16.ofNat = s := by
    rw [List.map_map]
    exact (List.map_congr_left fun u _ => UInt16.ofNat_toNat).trans (List.map_id s)
  unfold readString
  rw [hsplit, readUnits_quoted (Text.points_lt s) rest (by rw [List.length_append]; omega), Option.map_some, hunits, hback]

/-! ## Numbers -/

def numberChar (c : Char) : Bool := c.isDigit || c = '-' || c = '+' || c = '.' || c = 'e' || c = 'E'

def exponentText : List Char → Bool
  | [] => true
  | e :: sign :: rest =>
    (e = 'e' || e = 'E') && (if sign = '+' ∨ sign = '-' then !rest.isEmpty && rest.all (·.isDigit) else (sign :: rest).all (·.isDigit))
  | [_] => false

def fractionText : List Char → Bool
  | '.' :: rest => !(rest.takeWhile (·.isDigit)).isEmpty && exponentText (rest.dropWhile (·.isDigit))
  | s => exponentText s

def unsignedText (s : List Char) : Bool :=
  let whole := s.takeWhile (·.isDigit)
  (whole = ['0'] || whole.head?.any (· ≠ '0')) && fractionText (s.dropWhile (·.isDigit))

/-- The texts of numbers. -/
def numberText : List Char → Bool
  | '-' :: rest => unsignedText rest
  | s => unsignedText s

theorem numberChar_digit {c : Char} (h : c.isDigit = true) : numberChar c = true := by
  unfold numberChar
  rw [h]
  rfl

theorem takeWhile_numberChar (s : List Char) : ∀ c ∈ s.takeWhile (·.isDigit), numberChar c = true :=
  fun _ hc => numberChar_digit (List.mem_takeWhile_imp (p := fun c : Char => c.isDigit) hc)

theorem exponentText_chars {s : List Char} (h : exponentText s = true) : ∀ c ∈ s, numberChar c = true := by
  match s, h with
  | [], _ => simp
  | [_], h => cases h
  | e :: sign :: rest, h =>
    simp only [exponentText, Bool.and_eq_true, Bool.or_eq_true, decide_eq_true_eq] at h
    obtain ⟨he, hrest⟩ := h
    have hfirst : numberChar e = true := by
      rcases he with rfl | rfl <;> decide
    intro c hc
    rcases List.mem_cons.mp hc with rfl | hc
    · exact hfirst
    · split at hrest
      · rename_i hsign
        simp only [Bool.and_eq_true, List.all_eq_true] at hrest
        rcases List.mem_cons.mp hc with rfl | hc
        · rcases hsign with rfl | rfl <;> decide
        · exact numberChar_digit (hrest.2 c hc)
      · exact numberChar_digit (List.all_eq_true.mp hrest c hc)

theorem fractionText_chars {s : List Char} (h : fractionText s = true) : ∀ c ∈ s, numberChar c = true := by
  unfold fractionText at h
  split at h
  · rename_i rest
    rw [Bool.and_eq_true] at h
    intro c hc
    rcases List.mem_cons.mp hc with rfl | hc
    · decide
    · rw [← List.takeWhile_append_dropWhile (p := fun c : Char => c.isDigit) (l := rest)] at hc
      rcases List.mem_append.mp hc with hc | hc
      · exact takeWhile_numberChar rest c hc
      · exact exponentText_chars h.2 c hc
  · exact exponentText_chars h

theorem unsignedText_chars {s : List Char} (h : unsignedText s = true) :
    (∀ c ∈ s, numberChar c = true) ∧ ∃ c ∈ s.head?, c.isDigit = true := by
  unfold unsignedText at h
  dsimp only at h
  rw [Bool.and_eq_true] at h
  obtain ⟨hwhole, hfraction⟩ := h
  constructor
  · intro c hc
    rw [← List.takeWhile_append_dropWhile (p := fun c : Char => c.isDigit) (l := s)] at hc
    rcases List.mem_append.mp hc with hc | hc
    · exact takeWhile_numberChar s c hc
    · exact fractionText_chars hfraction c hc
  · cases s with
    | nil => simp at hwhole
    | cons c rest =>
      refine ⟨c, rfl, ?_⟩
      by_contra hdigit
      rw [List.takeWhile_cons, if_neg (by simpa using hdigit)] at hwhole
      simp at hwhole

/-- A text of a number has its characters, and begins with a digit or a sign. -/
theorem numberText_chars {s : List Char} (h : numberText s = true) :
    (∀ c ∈ s, numberChar c = true) ∧ ∃ c rest, s = c :: rest ∧ (c = '-' ∨ c.isDigit = true) := by
  unfold numberText at h
  split at h
  · rename_i rest
    obtain ⟨hchars, -⟩ := unsignedText_chars h
    refine ⟨?_, '-', rest, rfl, .inl rfl⟩
    intro c hc
    rcases List.mem_cons.mp hc with rfl | hc
    · decide
    · exact hchars c hc
  · obtain ⟨hchars, c, hc, hdigit⟩ := unsignedText_chars h
    cases s with
    | nil => cases hc
    | cons d rest =>
      obtain rfl : d = c := Option.some.inj hc
      exact ⟨hchars, d, rest, rfl, .inr hdigit⟩

/-! ## Values -/

section Values

variable {ν : Type} (number : List Char → ν)

def literals : List (List Char × Json Units ν) :=
  [("null".toList, .null), ("true".toList, .bool true), ("false".toList, .bool false)]

/-- Of fields with the same key the last one counts, at the place of the first. -/
def lastWins (fields : List (Units × Json Units ν)) : List (Units × Json Units ν) :=
  fields.foldl
    (fun kept field =>
      if kept.any (·.1 = field.1) then kept.map fun other => if other.1 = field.1 then field else other
      else kept ++ [field])
    []

mutual

def readValue : Nat → List Char → Option (Json Units ν × List Char)
  | 0, _ => none
  | fuel + 1, s =>
    match skip s with
    | [] => none
    | c :: rest =>
      if c = '"' then (readString rest).map fun read => (.str read.1, read.2)
      else if c = '[' then
        if (skip rest).head? = some ']' then some (.arr [], (skip rest).tail)
        else (readItems fuel rest).map fun read => (.arr read.1, read.2)
      else if c = '{' then
        if (skip rest).head? = some '}' then some (.obj [], (skip rest).tail)
        else (readFields fuel rest).map fun read => (.obj (lastWins read.1), read.2)
      else
        match literals.find? fun literal => literal.1.isPrefixOf (c :: rest) with
        | some literal => some (literal.2, (c :: rest).drop literal.1.length)
        | none =>
          let text := (c :: rest).takeWhile numberChar
          if numberText text then some (.num (number text), (c :: rest).dropWhile numberChar) else none

def readItems : Nat → List Char → Option (List (Json Units ν) × List Char)
  | 0, _ => none
  | fuel + 1, s =>
    (readValue fuel s).bind fun item =>
      match skip item.2 with
      | [] => none
      | c :: rest =>
        if c = ',' then (readItems fuel rest).map fun read => (item.1 :: read.1, read.2)
        else if c = ']' then some ([item.1], rest)
        else none

def readFields : Nat → List Char → Option (List (Units × Json Units ν) × List Char)
  | 0, _ => none
  | fuel + 1, s =>
    if (skip s).head? = some '"' then
      (readString (skip s).tail).bind fun key =>
        if (skip key.2).head? = some ':' then
          (readValue fuel (skip key.2).tail).bind fun value =>
            match skip value.2 with
            | [] => none
            | c :: rest =>
              if c = ',' then (readFields fuel rest).map fun read => ((key.1, value.1) :: read.1, read.2)
              else if c = '}' then some ([(key.1, value.1)], rest)
              else none
        else none
    else none

end

/-- The value of a text, which may have blanks around it. -/
def parse (s : List Char) : Option (Json Units ν) :=
  (readValue number (2 * s.length + 2) s).bind fun read => if skip read.2 = [] then some read.1 else none

end Values

/-! ## Reading what was rendered -/

section Render

variable {ν : Type} {number : List Char → ν} {text : ν → List Char}

/-- What follows a value: no more of a number. -/
def Follows (rest : List Char) : Prop := ∀ c ∈ rest.head?, numberChar c = false

theorem skip_of {c : Char} {s : List Char} (h : blank c = false) : skip (c :: s) = c :: s := by
  unfold skip
  rw [List.dropWhile_cons, if_neg (by rw [h]; decide)]

theorem takeWhile_text {s rest : List Char} (h : ∀ c ∈ s, numberChar c = true) (hrest : Follows rest) :
    (s ++ rest).takeWhile numberChar = s ∧ (s ++ rest).dropWhile numberChar = rest := by
  induction s with
  | nil =>
    cases rest with
    | nil => exact ⟨rfl, rfl⟩
    | cons c rest =>
      have hc := hrest c rfl
      rw [List.nil_append, List.takeWhile_cons, List.dropWhile_cons, if_neg (by rw [hc]; decide),
        if_neg (by rw [hc]; decide)]
      exact ⟨rfl, rfl⟩
  | cons c s ih =>
    obtain ⟨htake, hdrop⟩ := ih fun d hd => h d (List.mem_cons_of_mem _ hd)
    rw [List.cons_append, List.takeWhile_cons, List.dropWhile_cons, if_pos (h c (by simp)), if_pos (h c (by simp)), htake,
      hdrop]
    exact ⟨rfl, rfl⟩

theorem lastWins_of_nodup {fields : List (Units × Json Units ν)} (h : (fields.map Prod.fst).Nodup) :
    lastWins fields = fields := by
  unfold lastWins
  have hfold : ∀ (kept rest : List (Units × Json Units ν)), ((kept ++ rest).map Prod.fst).Nodup →
      rest.foldl (fun kept field =>
        if kept.any (·.1 = field.1) then kept.map fun other => if other.1 = field.1 then field else other
        else kept ++ [field]) kept = kept ++ rest := by
    intro kept rest
    induction rest generalizing kept with
    | nil => simp
    | cons field rest ih =>
      intro hnodup
      have hnew : ¬ kept.any (·.1 = field.1) = true := by
        intro hany
        obtain ⟨other, hother, heq⟩ := List.any_eq_true.mp hany
        rw [List.map_append, List.nodup_append] at hnodup
        exact hnodup.2.2 other.1 (List.mem_map_of_mem hother) field.1 (by simp) (by simpa using heq)
      rw [List.foldl_cons, if_neg hnew, ih _ (by simpa using hnodup)]
      simp
  simpa using hfold [] fields (by simpa using h)

theorem number_head {c : Char} (h : c = '-' ∨ c.isDigit = true) : blank c = false ∧ c ≠ ']' := by
  constructor
  · rw [Bool.eq_false_iff]
    intro hblank
    simp only [blank, Bool.or_eq_true, decide_eq_true_eq] at hblank
    rcases hblank with ((rfl | rfl) | rfl) | rfl <;> revert h <;> decide
  · rintro rfl
    revert h
    decide

theorem readValue_num (hnumber : ∀ n, numberText (text n) = true ∧ number (text n) = n) (n : ν) {fuel : Nat}
    (hfuel : 0 < fuel) {rest : List Char} (hrest : Follows rest) :
    readValue number fuel (text n ++ rest) = some (.num n, rest) := by
  obtain ⟨fuel, rfl⟩ := Nat.exists_eq_succ_of_ne_zero (Nat.ne_of_gt hfuel)
  obtain ⟨htext, hvalue⟩ := hnumber n
  obtain ⟨hchars, c, s, hfirst, hc⟩ := numberText_chars htext
  obtain ⟨htake, hdrop⟩ := takeWhile_text hchars hrest
  obtain ⟨hblank, -⟩ := number_head hc
  have hne {d : Char} (hd : d ≠ '-') (hdigit : d.isDigit = false) : c ≠ d := by
    rintro rfl
    rcases hc with rfl | hc
    · exact hd rfl
    · rw [hdigit] at hc
      cases hc
  have hliteral : (literals (ν := ν)).find? (fun literal => literal.1.isPrefixOf (c :: (s ++ rest))) = none := by
    rw [List.find?_eq_none]
    intro literal hmem
    have hhead : ∀ literal ∈ literals (ν := ν), ∃ d tail, literal.1 = d :: tail ∧ d ≠ '-' ∧ d.isDigit = false := by
      intro literal hmem
      simp only [literals, List.mem_cons, List.not_mem_nil, or_false] at hmem
      rcases hmem with rfl | rfl | rfl
      · exact ⟨'n', _, rfl, by decide, by decide⟩
      · exact ⟨'t', _, rfl, by decide, by decide⟩
      · exact ⟨'f', _, rfl, by decide, by decide⟩
    obtain ⟨d, tail, heq, hd, hdigit⟩ := hhead literal hmem
    rw [heq, List.isPrefixOf_cons_cons]
    simp [(hne hd hdigit).symm]
  rw [hfirst, List.cons_append] at htake hdrop ⊢
  rw [readValue, skip_of hblank]
  simp only
  rw [if_neg (hne (by decide) (by decide)), if_neg (hne (by decide) (by decide)), if_neg (hne (by decide) (by decide)),
    hliteral]
  simp only
  rw [htake, hdrop, ← hfirst, if_pos htext, hvalue]

theorem follows_of {c : Char} {rest : List Char} (h : numberChar c = false) : Follows (c :: rest) := by
  intro d hd
  rwa [← Option.some.inj hd]

theorem readValue_str (s : Units) {fuel : Nat} (hfuel : 0 < fuel) (rest : List Char) :
    readValue number fuel (quote s ++ rest) = some (.str s, rest) := by
  obtain ⟨fuel, rfl⟩ := Nat.exists_eq_succ_of_ne_zero (Nat.ne_of_gt hfuel)
  have hsplit : quote s ++ rest = '"' :: ((quote s).tail ++ rest) := rfl
  rw [hsplit, readValue, skip_of (by decide)]
  simp only [↓reduceIte]
  rw [readString_quote, Option.map_some]

/-- A value is read back, whatever follows that is no more of a number. -/
def Reads (number : List Char → ν) (text : ν → List Char) (a : Json Units ν) : Prop :=
  ∀ (fuel : Nat) (rest : List Char), 2 * (render text a).length ≤ fuel → Follows rest →
    readValue number fuel (render text a ++ rest) = some (a, rest)

theorem joined_length (p : List Char) (rest : List (List Char)) :
    p.length ≤ ([','].intercalate (p :: rest)).length ∧
      ([','].intercalate rest).length ≤ ([','].intercalate (p :: rest)).length := by
  cases rest with
  | nil => simp [List.intercalate]
  | cons q rest =>
    rw [List.intercalate_cons_cons]
    simp only [List.length_append]
    omega

theorem render_length (hnumber : ∀ n, numberText (text n) = true ∧ number (text n) = n) (a : Json Units ν) :
    1 ≤ (render text a).length := by
  cases a with
  | num n =>
    obtain ⟨-, c, s, hfirst, -⟩ := numberText_chars (hnumber n).1
    rw [render, hfirst]
    simp
  | bool b => cases b <;> simp [render]
  | null => simp [render]
  | str s => simp [render, quote]
  | arr items => simp [render]
  | obj fields => simp [render]

theorem render_head (hnumber : ∀ n, numberText (text n) = true ∧ number (text n) = n) (a : Json Units ν) :
    ∃ c s, render text a = c :: s ∧ blank c = false ∧ c ≠ ']' := by
  cases a with
  | num n =>
    obtain ⟨-, c, s, hfirst, hc⟩ := numberText_chars (hnumber n).1
    exact ⟨c, s, hfirst, number_head hc⟩
  | bool b =>
    cases b
    · exact ⟨'f', _, rfl, by decide, by decide⟩
    · exact ⟨'t', _, rfl, by decide, by decide⟩
  | null => exact ⟨'n', _, rfl, by decide, by decide⟩
  | str s => exact ⟨'"', _, rfl, by decide, by decide⟩
  | arr items => exact ⟨'[', _, rfl, by decide, by decide⟩
  | obj fields => exact ⟨'{', _, rfl, by decide, by decide⟩

theorem readItems_render {items : List (Json Units ν)} (hreads : ∀ a ∈ items, Reads number text a) (hitems : items ≠ [])
    {fuel : Nat} (hfuel : 2 * ([','].intercalate (items.map (render text))).length < fuel) (rest : List Char) :
    readItems number fuel ([','].intercalate (items.map (render text)) ++ ']' :: rest) = some (items, rest) := by
  induction items generalizing fuel with
  | nil => exact absurd rfl hitems
  | cons a items ih =>
    obtain ⟨fuel, rfl⟩ := Nat.exists_eq_succ_of_ne_zero (show fuel ≠ 0 by omega)
    have hbounds := joined_length (render text a) (items.map (render text))
    rw [List.map_cons] at hfuel ⊢
    rw [readItems]
    cases items with
    | nil =>
      rw [List.map_nil, List.intercalate_singleton] at hfuel ⊢
      rw [hreads a (by simp) fuel _ (by omega) (follows_of (by decide)), Option.bind_some, skip_of (by decide)]
      rfl
    | cons b items =>
      rw [List.map_cons] at hbounds hfuel ⊢
      rw [List.intercalate_cons_cons] at hfuel hbounds ⊢
      simp only [List.length_append, List.length_singleton] at hfuel
      have hrest : readItems number fuel ([','].intercalate ((b :: items).map (render text)) ++ ']' :: rest) =
          some (b :: items, rest) :=
        ih (fun x hx => hreads x (List.mem_cons_of_mem _ hx)) (by simp) (by rw [List.map_cons]; omega)
      rw [List.map_cons] at hrest
      rw [List.append_assoc, List.append_assoc, List.singleton_append,
        hreads a (by simp) fuel _ (by omega) (follows_of (by decide)), Option.bind_some]
      simp only
      rw [skip_of (by decide)]
      simp only [↓reduceIte]
      rw [hrest, Option.map_some]

def renderField (text : ν → List Char) (field : Units × Json Units ν) : List Char :=
  quote field.1 ++ ':' :: render text field.2

theorem readFields_render {fields : List (Units × Json Units ν)} (hreads : ∀ f ∈ fields, Reads number text f.2)
    (hfields : fields ≠ []) {fuel : Nat} (hfuel : 2 * ([','].intercalate (fields.map (renderField text))).length < fuel)
    (rest : List Char) :
    readFields number fuel ([','].intercalate (fields.map (renderField text)) ++ '}' :: rest) = some (fields, rest) := by
  induction fields generalizing fuel with
  | nil => exact absurd rfl hfields
  | cons f fields ih =>
    obtain ⟨fuel, rfl⟩ := Nat.exists_eq_succ_of_ne_zero (show fuel ≠ 0 by omega)
    have hbounds := joined_length (renderField text f) (fields.map (renderField text))
    have hfield : (render text f.2).length < (renderField text f).length := by
      simp [renderField, quote]
      omega
    have hkey (follows : List Char) : renderField text f ++ follows =
        '"' :: ((quote f.1).tail ++ ':' :: (render text f.2 ++ follows)) := by
      unfold renderField
      rw [List.append_assoc]
      rfl
    rw [List.map_cons] at hfuel ⊢
    rw [readFields]
    cases fields with
    | nil =>
      rw [List.map_nil, List.intercalate_singleton] at hfuel ⊢
      rw [hkey, skip_of (by decide), List.head?_cons, if_pos rfl, List.tail_cons, readString_quote, Option.bind_some]
      simp only
      rw [skip_of (by decide), List.head?_cons, if_pos rfl, List.tail_cons,
        hreads f (by simp) fuel _ (by omega) (follows_of (by decide)), Option.bind_some]
      simp only
      rw [skip_of (by decide)]
      rfl
    | cons g fields =>
      rw [List.map_cons] at hbounds hfuel ⊢
      rw [List.intercalate_cons_cons] at hfuel hbounds ⊢
      simp only [List.length_append, List.length_singleton] at hfuel
      have hrest : readFields number fuel ([','].intercalate ((g :: fields).map (renderField text)) ++ '}' :: rest) =
          some (g :: fields, rest) :=
        ih (fun x hx => hreads x (List.mem_cons_of_mem _ hx)) (by simp) (by rw [List.map_cons]; omega)
      rw [List.map_cons] at hrest
      rw [List.append_assoc, List.append_assoc, List.singleton_append, hkey, skip_of (by decide), List.head?_cons,
        if_pos rfl, List.tail_cons, readString_quote, Option.bind_some]
      simp only
      rw [skip_of (by decide), List.head?_cons, if_pos rfl, List.tail_cons,
        hreads f (by simp) fuel _ (by omega) (follows_of (by decide)), Option.bind_some]
      simp only
      rw [skip_of (by decide)]
      simp only [↓reduceIte]
      rw [hrest, Option.map_some]

theorem reads_render (hnumber : ∀ n, numberText (text n) = true ∧ number (text n) = n) (a : Json Units ν)
    (hdistinct : Distinct a) : Reads number text a := by
  induction a using Json.induction with
  | null =>
    intro fuel rest hfuel _
    obtain ⟨fuel, rfl⟩ := Nat.exists_eq_succ_of_ne_zero (show fuel ≠ 0 by simp [render] at hfuel; omega)
    rfl
  | bool b =>
    intro fuel rest hfuel _
    have hpositive := render_length hnumber (.bool b)
    obtain ⟨fuel, rfl⟩ := Nat.exists_eq_succ_of_ne_zero (show fuel ≠ 0 by omega)
    cases b <;> rfl
  | num n =>
    intro fuel rest hfuel hrest
    have hpositive := render_length hnumber (.num n)
    exact readValue_num hnumber n (by omega) hrest
  | str s =>
    intro fuel rest hfuel _
    have hpositive := render_length hnumber (.str s)
    exact readValue_str s (by omega) rest
  | arr items ih =>
    intro fuel rest hfuel _
    have hreads : ∀ a ∈ items, Reads number text a := fun a ha => ih a ha ((distinctItems_iff items).mp hdistinct a ha)
    rw [render, renderItems_eq] at hfuel ⊢
    obtain ⟨fuel, rfl⟩ := Nat.exists_eq_succ_of_ne_zero (show fuel ≠ 0 by simp at hfuel; omega)
    rw [List.cons_append, List.cons_append, List.append_assoc, readValue, skip_of (by decide)]
    simp only [show ('[' : Char) ≠ '"' by decide, ↓reduceIte]
    cases items with
    | nil => rfl
    | cons a items =>
      obtain ⟨c, s, hfirst, hblank, hclose⟩ := render_head hnumber a
      have hopen : (skip ([','].intercalate ((a :: items).map (render text)) ++ ([']'] ++ rest))).head? ≠ some ']' := by
        rw [List.map_cons]
        cases items with
        | nil =>
          rw [List.map_nil, List.intercalate_singleton, hfirst, List.cons_append, skip_of hblank]
          simpa using hclose
        | cons b items =>
          rw [List.map_cons, List.intercalate_cons_cons, hfirst, List.cons_append, List.cons_append, List.cons_append,
            skip_of hblank]
          simpa using hclose
      rw [if_neg hopen]
      simp only [List.length_cons, List.length_append] at hfuel
      rw [List.singleton_append, readItems_render hreads (by simp) (by omega), Option.map_some]
  | obj fields ih =>
    intro fuel rest hfuel _
    obtain ⟨hnodup, hvalues⟩ := hdistinct
    have hreads : ∀ f ∈ fields, Reads number text f.2 := fun f hf => ih f hf ((distinctFields_iff fields).mp hvalues f hf)
    have htexts : fields.map (fun f => quote f.1 ++ ':' :: render text f.2) = fields.map (renderField text) := rfl
    rw [render, renderFields_eq, htexts] at hfuel ⊢
    obtain ⟨fuel, rfl⟩ := Nat.exists_eq_succ_of_ne_zero (show fuel ≠ 0 by simp at hfuel; omega)
    rw [List.cons_append, List.cons_append, List.append_assoc, readValue, skip_of (by decide)]
    simp only [show ('{' : Char) ≠ '"' by decide, show ('{' : Char) ≠ '[' by decide, ↓reduceIte]
    cases fields with
    | nil => rfl
    | cons f fields =>
      have hopen : (skip ([','].intercalate ((f :: fields).map (renderField text)) ++ (['}'] ++ rest))).head? ≠ some '}' := by
        rw [List.map_cons]
        cases fields with
        | nil =>
          rw [List.map_nil, List.intercalate_singleton]
          show (skip ('"' :: _)).head? ≠ _
          rw [skip_of (by decide)]
          simp
        | cons g fields =>
          rw [List.map_cons, List.intercalate_cons_cons]
          show (skip ('"' :: _)).head? ≠ _
          rw [skip_of (by decide)]
          simp
      rw [if_neg hopen]
      simp only [List.length_cons, List.length_append] at hfuel
      rw [List.singleton_append, readFields_render hreads (by simp) (by omega), Option.map_some]
      simp only
      rw [lastWins_of_nodup hnodup]

/-- A value whose objects have distinct keys is read back from its text. -/
theorem parse_render (hnumber : ∀ n, numberText (text n) = true ∧ number (text n) = n) {a : Json Units ν}
    (hdistinct : Distinct a) : parse number (render text a) = some a := by
  have hread := reads_render hnumber a hdistinct (2 * (render text a).length + 2) [] (by omega) nofun
  rw [List.append_nil] at hread
  unfold parse
  rw [hread, Option.bind_some]
  rfl

end Render

end TokenPilot.Library.Json
