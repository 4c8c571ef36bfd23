/-
  TokenPilot.Reports.Cursors — what a cursor that was written is read to.

  The encoder writes any values; the decoder refuses ids beyond 256 units, keys beyond 2048,
  second keys beyond 64, and texts beyond 16384 characters. What it does accept are the values
  that were written (`decodeUsageCursor_encode`, `decodeGroupCursor_encode`), and of a cursor of
  usage that is not too long for the other checks the text is never too long.
-/

import TokenPilot.Reports.Instants
import TokenPilot.Reports.Query

namespace TokenPilot.Reports

open TokenPilot.Library
open TokenPilot.Quota.Token (unitsOf textOf unitsOf_injective unitsOf_beq)

/-! ## Strings -/

theorem utf16_toNat {n : Nat} (h : n < 0x110000) : ∀ u ∈ utf16 n, u < 0x10000 := by
  intro u hu
  unfold utf16 at hu
  split at hu
  · rw [List.mem_singleton.mp hu]
    assumption
  · simp only [List.mem_cons, List.not_mem_nil, or_false] at hu
    omega

theorem unitsOf_toNat (s : String) : (unitsOf s).map UInt16.toNat = Text.units s := by
  unfold unitsOf
  rw [List.map_map]
  refine (List.map_congr_left fun n hn => ?_).trans (List.map_id _)
  obtain ⟨point, hpoint, hunit⟩ := List.mem_flatMap.mp hn
  have hbound := utf16_toNat (Text.points_lt s point hpoint) n hunit
  show (UInt16.ofNat n).toNat = n
  rw [UInt16.toNat_ofNat', Nat.mod_eq_of_lt hbound]

/-- A string without unpaired surrogates is read from its units. -/
theorem textOf_unitsOf (s : String) : textOf (unitsOf s) = s := by
  apply String.toList_injective
  unfold textOf
  rw [String.toList_ofList, unitsOf_toNat]
  have hpoints : codePoints (Text.units s) = s.toList.map Char.toNat := codePoints_utf16 _ (toNat_scalar s)
  rw [hpoints, List.map_map]
  refine (List.map_congr_left fun c hc => ?_).trans (List.map_id _)
  have hscalar := toNat_scalar s c.toNat (List.mem_map_of_mem hc)
  show (if isHigh c.toNat ∨ isLow c.toNat then replacement else Char.ofNat c.toNat) = c
  rw [if_neg (not_or.mpr hscalar.2), Char.ofNat_toNat]

theorem unitsOf_length_le (s : String) : (unitsOf s).length ≤ 2 * s.toList.length := by
  have hpoint (n : Nat) : (utf16 n).length ≤ 2 := by
    unfold utf16
    split <;> simp
  have hall (points : List Nat) : (points.flatMap utf16).length ≤ 2 * points.length := by
    induction points with
    | nil => simp
    | cons n points ih =>
      have := hpoint n
      rw [List.flatMap_cons, List.length_append, List.length_cons]
      omega
  have h := hall (Text.points s)
  have hpoints : (Text.points s).length = s.toList.length := List.length_map ..
  rw [hpoints] at h
  unfold unitsOf
  rw [List.length_map]
  exact h

theorem isoString_length (t : Int) : (Runtime.isoString t).toList.length ≤ 27 := by
  unfold Runtime.isoString
  rw [String.toList_ofList]
  simp only [List.length_append, List.length_cons, Runtime.length_digitsOf, List.length_nil]
  split
  · rw [Runtime.length_digitsOf]
    decide
  · rw [List.length_cons, Runtime.length_digitsOf]

/-! ## Numbers -/

theorem value_countText (n : Nat) : (countText n).value = double n := by
  have hplain := Numeral.plain_toDigits n
  have hmap : (Nat.toDigits 10 n).map (fun c => if c = 'E' then 'e' else c) = Nat.toDigits 10 n := by
    refine (List.map_congr_left fun c hc => ?_).trans (List.map_id _)
    refine if_neg ?_
    rintro rfl
    exact absurd (hplain 'E' hc) (by decide)
  unfold NumberText.value countText
  dsimp only
  rw [hmap, ← toList_toString, Numeral.value_toString]

theorem isOne_countText : isOne (.num (countText 1)) = true := by
  simp only [isOne]
  rw [value_countText, double_natCast (by norm_num)]
  rfl

theorem safeInteger_countText {n : Nat} (h : n ≤ 9007199254740991) : safeInteger (.num (countText n)) = some (n : Int) := by
  simp only [safeInteger]
  rw [value_countText, double_natCast (by omega)]
  have hden : ((n : ℚ)).den = 1 := Rat.den_natCast n
  have hnum : ((n : ℚ)).num = n := Rat.num_natCast n
  rw [hden, hnum, if_pos]
  unfold Runtime.maxSafeInteger
  omega

/-- A count beyond the safe integers is not read as one of them. -/
theorem safeInteger_countText_large {n : Nat} (h : ¬ n ≤ 9007199254740991) : safeInteger (.num (countText n)) = none := by
  have hlarge : (2 : ℚ) ^ 53 ≤ n := by
    have : 2 ^ 53 ≤ n := by omega
    exact_mod_cast this
  have hdouble := two_pow_le_double hlarge
  simp only [safeInteger]
  rw [value_countText]
  apply if_neg
  rintro ⟨hden, hsafe⟩
  have hnum : (double n).num = double n := Rat.coe_int_num_of_den_eq_one hden
  rw [← hnum] at hdouble
  have : (2 : Int) ^ 53 ≤ (double n).num := by exact_mod_cast hdouble
  unfold Runtime.maxSafeInteger at hsafe
  omega

theorem cursorPosition_countText (n : Nat) :
    cursorPosition (.num (countText n)) = if 1 ≤ n ∧ n ≤ 9007199254740991 then some n else none := by
  unfold cursorPosition
  by_cases hsafe : n ≤ 9007199254740991
  · rw [safeInteger_countText hsafe]
    by_cases hpos : 1 ≤ n
    · rw [Option.filter_some, if_pos (by simpa using hpos), if_pos ⟨hpos, hsafe⟩]
      rfl
    · rw [Option.filter_some, if_neg (by simpa using hpos), if_neg fun h => hpos h.1]
      rfl
  · rw [safeInteger_countText_large hsafe, if_neg fun h => hsafe h.2]
    rfl

/-! ## Payloads -/

theorem utf8Encode_digits {s : List Char} (h : Numeral.Plain s) : (utf8Encode s).length = s.length := by
  induction s with
  | nil => rfl
  | cons c s ih =>
    have hsize : c.utf8Size = 1 := by
      have hdigit := h c (by simp)
      simp only [Char.isDigit, Bool.and_eq_true, decide_eq_true_eq] at hdigit
      unfold Char.utf8Size
      rw [if_pos (UInt32.le_trans hdigit.2 (by decide))]
    have hrest := ih fun d hd => h d (by simp [hd])
    unfold utf8Encode at hrest ⊢
    rw [List.flatMap_cons, List.length_append, String.length_utf8EncodeChar, hsize, hrest, List.length_cons]
    omega

theorem joined_bytes (first : List Char) (rest : List (List Char)) :
    (utf8Encode ([','].intercalate (first :: rest))).length =
      (utf8Encode first).length + (rest.map fun t => 1 + (utf8Encode t).length).sum := by
  induction rest generalizing first with
  | nil => simp [List.intercalate]
  | cons second rest ih =>
    have hcomma : (utf8Encode [',']).length = 1 := by decide
    rw [List.intercalate_cons_cons, utf8Encode_append, utf8Encode_append, List.length_append, List.length_append, hcomma, ih,
      List.map_cons, List.sum_cons]
    omega

/-- The bytes of a value of a cursor. -/
def valueBytes : CursorJson → Nat
  | .str s => stringBytes s
  | v => (utf8Encode (v.render Subtype.val)).length

def fieldBytes (f : Units × CursorJson) : Nat := stringBytes f.1 + 1 + valueBytes f.2

theorem render_field_bytes (f : Units × CursorJson) :
    (utf8Encode (quote f.1 ++ ':' :: f.2.render Subtype.val)).length = fieldBytes f := by
  have hcolon : (utf8Encode [':']).length = 1 := by decide
  have hvalue : (utf8Encode (f.2.render Subtype.val)).length = valueBytes f.2 := by
    cases f.2 with
    | str s => exact quote_bytes s
    | _ => rfl
  rw [← List.singleton_append, utf8Encode_append, utf8Encode_append, List.length_append, List.length_append, hcolon,
    quote_bytes, hvalue]
  unfold fieldBytes
  omega

theorem cursor_bytes (first : Units × CursorJson) (rest : CursorFields) :
    (utf8Encode ((Json.obj (first :: rest)).render Subtype.val)).length =
      2 + fieldBytes first + (rest.map fun f => 1 + fieldBytes f).sum := by
  have hopen : (utf8Encode ['{']).length = 1 := by decide
  have hclose : (utf8Encode ['}']).length = 1 := by decide
  have hrender : (Json.obj (first :: rest)).render Subtype.val = ['{'] ++ [','].intercalate
      ((first :: rest).map fun f => quote f.1 ++ ':' :: f.2.render Subtype.val) ++ ['}'] := by
    rw [Json.render, Json.renderFields_eq]
    rfl
  rw [hrender, utf8Encode_append, utf8Encode_append, List.length_append, List.length_append, hopen, hclose, List.map_cons,
    joined_bytes, render_field_bytes, List.map_map]
  have hrest : ((fun t => 1 + (utf8Encode t).length) ∘ fun f : Units × CursorJson => quote f.1 ++ ':' :: f.2.render Subtype.val) =
      fun f => 1 + fieldBytes f := by
    funext f
    show 1 + (utf8Encode (quote f.1 ++ ':' :: f.2.render Subtype.val)).length = _
    rw [render_field_bytes]
  rw [hrest]
  omega

theorem readNumber_val (n : NumberText) : readNumber n.1 = n := dif_pos n.2

/-- Fields that were written are read exactly when they take at most 12288 bytes. -/
theorem cursorPayload_cursorText {fields : CursorFields} (h : (Json.obj fields).Distinct)
    (hpos : 0 < (utf8Encode ((Json.obj fields).render Subtype.val)).length) :
    cursorPayload (cursorText fields) =
      if (utf8Encode ((Json.obj fields).render Subtype.val)).length ≤ 12288 then some fields else none := by
  unfold cursorPayload cursorText
  rw [String.toList_ofList, base64urlEncode_length, base64urlDecode_encode, utf8Decode_encode,
    Json.parse_render (fun n => ⟨n.2, readNumber_val n⟩) h]
  have hchars : (base64urlEncode (utf8Encode ((Json.obj fields).render Subtype.val))).all base64urlChar = true :=
    List.all_eq_true.mpr (base64urlEncode_chars _)
  rw [hchars]
  by_cases hsize : (utf8Encode ((Json.obj fields).render Subtype.val)).length ≤ 12288
  · rw [if_pos hsize, if_pos ⟨by omega, by omega, rfl⟩]
  · rw [if_neg hsize, if_neg fun h => hsize (by omega)]

theorem cursorText_ne {fields : CursorFields} (h : 0 < (utf8Encode ((Json.obj fields).render Subtype.val)).length) :
    cursorText fields ≠ "" := by
  intro hempty
  have hlength := congrArg (fun s : String => s.toList.length) hempty
  unfold cursorText at hlength
  rw [String.toList_ofList, base64urlEncode_length] at hlength
  have hzero : "".toList.length = 0 := rfl
  omega

theorem distinct_fields {fields : CursorFields} (hkeys : (fields.map Prod.fst).Nodup)
    (hvalues : ∀ f ∈ fields, f.2.Distinct) : (Json.obj fields).Distinct :=
  ⟨hkeys, (Json.distinctFields_iff _).mpr hvalues⟩

/-! ## Cursors of usage -/

/-- What the decoder checks of a cursor of usage. -/
def UsageCursor.Readable (platform : Analytics.Platform) (cursor : UsageCursor) : Prop :=
  isoInstant platform cursor.eventTime = true ∧ 1 ≤ cursor.eventId.length ∧ cursor.eventId.length ≤ 256 ∧
    1 ≤ cursor.position ∧ cursor.position ≤ 9007199254740991

instance (platform : Analytics.Platform) (cursor : UsageCursor) : Decidable (cursor.Readable platform) :=
  inferInstanceAs (Decidable (_ ∧ _ ∧ _ ∧ _ ∧ _))

theorem usageCursorOf_fields (platform : Analytics.Platform) (cursor : UsageCursor) :
    usageCursorOf platform (usageCursorFields cursor) = if cursor.Readable platform then some cursor else none := by
  unfold usageCursorOf usageCursorFields CursorFields.field
  simp only [List.lookup_cons, unitsOf_beq, decide_true, decide_false, String.reduceEq, Option.bind_some, text,
    Option.bind_eq_bind, cursorPosition_countText, isOne_countText]
  by_cases hposition : 1 ≤ cursor.position ∧ cursor.position ≤ 9007199254740991
  · rw [if_pos hposition, Option.bind_some]
    simp only [true_and]
    by_cases hchecks : isoInstant platform cursor.eventTime = true ∧ 1 ≤ cursor.eventId.length ∧ cursor.eventId.length ≤ 256
    · rw [if_pos hchecks, if_pos ⟨hchecks.1, hchecks.2.1, hchecks.2.2, hposition⟩]
    · rw [if_neg hchecks, if_neg fun h => hchecks ⟨h.1, h.2.1, h.2.2.1⟩]
  · rw [if_neg hposition, if_neg fun h => hposition h.2.2.2]
    rfl

theorem keys_nodup {keys : List String} (h : keys.Nodup) : (keys.map unitsOf).Nodup := h.map unitsOf_injective

theorem usageCursorFields_distinct (cursor : UsageCursor) : (Json.obj (usageCursorFields cursor)).Distinct := by
  refine distinct_fields (@keys_nodup ["v", "k", "t", "e", "p"] (by decide)) fun f hf => ?_
  unfold usageCursorFields at hf
  simp only [List.mem_cons, List.not_mem_nil, or_false] at hf
  rcases hf with rfl | rfl | rfl | rfl | rfl <;> trivial

theorem toDigits_length_le {n : Nat} (h : n ≤ 9007199254740991) : (Nat.toDigits 10 n).length ≤ 16 := by
  have hdigits := Nat.length_toDigits_le_iff (b := 10) (n := n) (k := 16) (by decide) (by decide)
  exact hdigits.mpr (by omega)

theorem fieldBytes_str (key : String) (s : Units) : fieldBytes (unitsOf key, .str s) = stringBytes (unitsOf key) + 1 + stringBytes s :=
  rfl

theorem fieldBytes_count (key : String) (n : Nat) :
    fieldBytes (unitsOf key, .num (countText n)) = stringBytes (unitsOf key) + 1 + (Nat.toDigits 10 n).length :=
  congrArg (stringBytes (unitsOf key) + 1 + ·) (utf8Encode_digits (Numeral.plain_toDigits n))

theorem stringBytes_key {key : String} (h : key ∈ ["v", "k", "t", "e", "p", "d", "g", "s"]) : stringBytes (unitsOf key) = 3 := by
  have hall : ∀ key ∈ ["v", "k", "t", "e", "p", "d", "g", "s"], stringBytes (unitsOf key) = 3 := by decide
  exact hall key h

theorem usageCursor_bytes (cursor : UsageCursor) :
    (utf8Encode ((Json.obj (usageCursorFields cursor)).render Subtype.val)).length =
      34 + stringBytes cursor.eventTime + stringBytes cursor.eventId + (Nat.toDigits 10 cursor.position).length := by
  have husage : stringBytes (unitsOf "usage") = 7 := by decide
  have hone : (Nat.toDigits 10 1).length = 1 := by decide
  unfold usageCursorFields
  rw [cursor_bytes]
  simp only [List.map_cons, List.map_nil, List.sum_cons, List.sum_nil, fieldBytes_str, fieldBytes_count, husage, hone,
    @stringBytes_key "v" (by simp), @stringBytes_key "k" (by simp), @stringBytes_key "t" (by simp),
    @stringBytes_key "e" (by simp), @stringBytes_key "p" (by simp)]
  omega

theorem encodeUsageCursor_ne (cursor : UsageCursor) : encodeUsageCursor cursor ≠ "" :=
  cursorText_ne (by rw [usageCursor_bytes]; omega)

theorem isoInstant_length {platform : Analytics.Platform} {t : Units} (h : isoInstant platform t = true) : t.length ≤ 54 := by
  unfold isoInstant at h
  cases hdate : platform.date (textOf t) with
  | none =>
    rw [hdate] at h
    cases h
  | some milliseconds =>
    rw [hdate, Option.any_some, decide_eq_true_eq] at h
    have hlength := unitsOf_length_le (Runtime.isoString milliseconds)
    have := isoString_length milliseconds
    rw [← h]
    omega

/-- A cursor of usage is read to what was written when it meets the checks of its values, and
    its text is then not too long. -/
theorem decodeUsageCursor_encode (platform : Analytics.Platform) (cursor : UsageCursor) :
    decodeUsageCursor platform (encodeUsageCursor cursor) =
      if cursor.Readable platform then .ok cursor else .error badCursor := by
  unfold decodeUsageCursor encodeUsageCursor
  rw [cursorPayload_cursorText (usageCursorFields_distinct cursor) (by rw [usageCursor_bytes]; omega), usageCursor_bytes]
  by_cases h : cursor.Readable platform
  · have htime := stringBytes_le cursor.eventTime
    have hlength := isoInstant_length h.1
    have hid := stringBytes_le cursor.eventId
    have hdigits := toDigits_length_le h.2.2.2.2
    have hmost := h.2.2.1
    rw [if_pos (by omega), Option.bind_some, usageCursorOf_fields, if_pos h, if_pos h]
  · rw [if_neg h]
    split
    · rename_i decoded hdecoded
      obtain ⟨fields, hfields, hcursor⟩ := Option.bind_eq_some_iff.mp hdecoded
      cases (Option.ite_none_right_eq_some.mp hfields).2
      rw [usageCursorOf_fields, if_neg h] at hcursor
      cases hcursor
    · rfl

/-! ## Cursors of groups -/

/-- What the decoder checks of a cursor of groups, with the bytes of its JSON. -/
def GroupCursor.Readable (cursor : GroupCursor) : Prop :=
  cursor.groupKey.length ≤ 2048 ∧ cursor.secondaryKey.length ≤ 64 ∧
    32 + stringBytes (unitsOf cursor.kind.text) + stringBytes (unitsOf cursor.dimension) + stringBytes cursor.groupKey +
      stringBytes cursor.secondaryKey + (Nat.toDigits 10 cursor.position).length ≤ 12288 ∧
    1 ≤ cursor.position ∧ cursor.position ≤ 9007199254740991

instance (cursor : GroupCursor) : Decidable cursor.Readable := inferInstanceAs (Decidable (_ ∧ _ ∧ _ ∧ _ ∧ _))

theorem groupCursorOf_fields (cursor : GroupCursor) :
    groupCursorOf cursor.kind cursor.dimension (groupCursorFields cursor) =
      if cursor.groupKey.length ≤ 2048 ∧ cursor.secondaryKey.length ≤ 64 ∧ 1 ≤ cursor.position ∧
        cursor.position ≤ 9007199254740991 then some cursor else none := by
  unfold groupCursorOf groupCursorFields CursorFields.field
  simp only [List.lookup_cons, unitsOf_beq, decide_true, decide_false, String.reduceEq, Option.bind_some, text,
    Option.bind_eq_bind, cursorPosition_countText, isOne_countText]
  by_cases hposition : 1 ≤ cursor.position ∧ cursor.position ≤ 9007199254740991
  · rw [if_pos hposition, Option.bind_some]
    simp only [true_and]
    by_cases hchecks : cursor.groupKey.length ≤ 2048 ∧ cursor.secondaryKey.length ≤ 64
    · rw [if_pos hchecks, if_pos ⟨hchecks.1, hchecks.2, hposition⟩]
    · rw [if_neg hchecks, if_neg fun h => hchecks ⟨h.1, h.2.1⟩]
  · rw [if_neg hposition, if_neg fun h => hposition h.2.2]
    rfl

theorem groupCursorFields_distinct (cursor : GroupCursor) : (Json.obj (groupCursorFields cursor)).Distinct := by
  refine distinct_fields (@keys_nodup ["v", "k", "d", "g", "s", "p"] (by decide)) fun f hf => ?_
  unfold groupCursorFields at hf
  simp only [List.mem_cons, List.not_mem_nil, or_false] at hf
  rcases hf with rfl | rfl | rfl | rfl | rfl | rfl <;> trivial

theorem groupCursor_bytes (cursor : GroupCursor) :
    (utf8Encode ((Json.obj (groupCursorFields cursor)).render Subtype.val)).length =
      32 + stringBytes (unitsOf cursor.kind.text) + stringBytes (unitsOf cursor.dimension) + stringBytes cursor.groupKey +
        stringBytes cursor.secondaryKey + (Nat.toDigits 10 cursor.position).length := by
  have hone : (Nat.toDigits 10 1).length = 1 := by decide
  unfold groupCursorFields
  rw [cursor_bytes]
  simp only [List.map_cons, List.map_nil, List.sum_cons, List.sum_nil, fieldBytes_str, fieldBytes_count, hone,
    @stringBytes_key "v" (by simp), @stringBytes_key "k" (by simp), @stringBytes_key "d" (by simp),
    @stringBytes_key "g" (by simp), @stringBytes_key "s" (by simp), @stringBytes_key "p" (by simp)]
  omega

theorem encodeGroupCursor_ne (cursor : GroupCursor) : encodeGroupCursor cursor ≠ "" :=
  cursorText_ne (by rw [groupCursor_bytes]; omega)

/-- A cursor of groups is read to what was written when it meets the checks of its values and
    its text is not too long. -/
theorem decodeGroupCursor_encode (cursor : GroupCursor) :
    decodeGroupCursor (encodeGroupCursor cursor) cursor.kind cursor.dimension =
      if cursor.Readable then .ok cursor else .error badCursor := by
  unfold decodeGroupCursor encodeGroupCursor
  rw [cursorPayload_cursorText (groupCursorFields_distinct cursor) (by rw [groupCursor_bytes]; omega), groupCursor_bytes]
  by_cases hsize : 32 + stringBytes (unitsOf cursor.kind.text) + stringBytes (unitsOf cursor.dimension) +
      stringBytes cursor.groupKey + stringBytes cursor.secondaryKey + (Nat.toDigits 10 cursor.position).length ≤ 12288
  · rw [if_pos hsize, Option.bind_some, groupCursorOf_fields]
    by_cases h : cursor.Readable
    · rw [if_pos h, if_pos ⟨h.1, h.2.1, h.2.2.2⟩]
    · rw [if_neg h, if_neg fun hchecks => h ⟨hchecks.1, hchecks.2.1, hsize, hchecks.2.2⟩]
  · rw [if_neg hsize, if_neg fun h => hsize h.2.2.1]
    rfl

end TokenPilot.Reports
