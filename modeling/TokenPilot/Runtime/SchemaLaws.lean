/-
  TokenPilot.Runtime.SchemaLaws — the schemas of the snapshot are lawful.

  What a schema accepts it reads again from its own JSON, and from the JSON of a record it
  reads that record with its base URLs and call sources trimmed, its timestamps read from
  their texts and an API version kept for Anthropic only (`normal`), or nothing. So a value
  that went through a schema is normal, and going through it again changes nothing.
-/

import TokenPilot.Runtime.Schema

namespace TokenPilot.Runtime

open Library

/-! ## Values -/

theorem textSchema_lawful (pattern : String → Bool) : Lawful Json.str (textSchema pattern) id where
  stable v s h := by
    cases v <;> simp only [textSchema, reduceCtorEq] at h
    split at h
    · cases h
      rename_i hs
      exact if_pos hs
    · cases h
  normalises s t h := by
    simp only [textSchema] at h
    split at h
    · cases h
      rfl
    · cases h

theorem trimmedSchema_lawful (pattern : String → Bool) : Lawful Json.str (trimmedSchema pattern) jsTrim where
  stable v s h := by
    cases v <;> simp only [trimmedSchema, reduceCtorEq] at h
    split at h
    · cases h
      rename_i hs
      simp only [trimmedSchema, jsTrim_jsTrim, if_pos hs]
    · cases h
  normalises s t h := by
    simp only [trimmedSchema] at h
    split at h
    · cases h
      rfl
    · cases h

theorem boolSchema_lawful : Lawful Json.bool boolSchema id where
  stable v b h := by
    cases v <;> simp only [boolSchema, reduceCtorEq] at h
    cases h
    rfl
  normalises b c h := by
    cases h
    rfl

theorem strip_exponent (n : Nat) (c e : Int) : e ≤ (Decimal.strip n c e).2 := by
  induction n generalizing c e with
  | zero => exact le_refl _
  | succ n ih =>
    unfold Decimal.strip
    split
    · have := ih (c / 10) (e + 1)
      omega
    · exact le_refl _

theorem ofInt_exponent (n : Int) : 0 ≤ (Decimal.ofInt n).exponent := by
  unfold Decimal.ofInt Decimal.ofScaled
  split
  · exact le_refl _
  · exact strip_exponent _ _ _

theorem ofInt_integer (n : Int) : (Decimal.ofInt n).coefficient * 10 ^ (Decimal.ofInt n).exponent.toNat = n := by
  have hvalue := Decimal.toRat_ofInt n
  unfold Decimal.toRat at hvalue
  rw [← Int.toNat_of_nonneg (ofInt_exponent n), zpow_natCast] at hvalue
  exact_mod_cast hvalue

theorem integerSchema_integer (least most n : Int) :
    integerSchema least most (integer n) = if least ≤ n ∧ n ≤ most then some n else none := by
  simp only [integerSchema, integer, ofInt_integer, ofInt_exponent, true_and]

theorem integerSchema_range {least most n : Int} {v : Value} (h : integerSchema least most v = some n) :
    least ≤ n ∧ n ≤ most := by
  cases v <;> simp only [integerSchema, reduceCtorEq] at h
  split at h
  · cases h
    rename_i hrange
    exact hrange.2
  · cases h

theorem integerSchema_lawful (least most : Int) : Lawful integer (integerSchema least most) id where
  stable v n h := by rw [integerSchema_integer, if_pos (integerSchema_range h)]
  normalises n m h := by
    rw [integerSchema_integer] at h
    split at h
    · cases h
      rfl
    · cases h

theorem naturalSchema_lawful (least most : Nat) :
    Lawful (fun n : Nat => integer n) (naturalSchema least most) id where
  stable v n h := by
    obtain ⟨k, hk, rfl⟩ := Option.map_eq_some_iff.mp h
    have hrange := integerSchema_range hk
    have hcast : (k.toNat : Int) = k := by omega
    rw [naturalSchema, hcast, integerSchema_integer, if_pos hrange]
    rfl
  normalises n m h := by
    obtain ⟨k, hk, rfl⟩ := Option.map_eq_some_iff.mp h
    rw [(integerSchema_lawful _ _).normalises _ _ hk]
    rfl

theorem enumSchema_lawful {α : Type} {text : α → String} (values : List α) (htext : Function.Injective text) :
    Lawful (Json.str ∘ text) (enumSchema text values) id where
  stable v a h := by
    cases v <;> simp only [enumSchema, reduceCtorEq] at h
    rename_i s
    have hs : text a = s := by simpa using List.find?_some h
    subst hs
    exact h
  normalises a b h := by
    have hb := List.find?_some h
    exact htext (by simpa using hb)

theorem readAll_map {α β : Type} {encode : β → α} {schema : α → Option β} {normal : β → β}
    (h : Lawful encode schema normal) :
    Lawful (List.map encode) (readAll schema) (List.map normal) where
  stable l items hread := by
    induction l generalizing items with
    | nil =>
      cases hread
      rfl
    | cons v rest ih =>
      simp only [readAll, Option.bind_eq_bind, Option.bind_eq_some_iff] at hread
      obtain ⟨a, ha, tail, htail, heq⟩ := hread
      cases heq
      simp only [List.map_cons, readAll, h.stable v a ha, ih tail htail]
      rfl
  normalises items others hread := by
    induction items generalizing others with
    | nil =>
      cases hread
      rfl
    | cons a rest ih =>
      simp only [List.map_cons, readAll, Option.bind_eq_bind, Option.bind_eq_some_iff] at hread
      obtain ⟨b, hb, tail, htail, heq⟩ := hread
      cases heq
      rw [h.normalises a b hb, ih tail htail]
      rfl

theorem arraySchema_lawful {α : Type} {encode : α → Value} {schema : Value → Option α} {normal : α → α}
    (h : Lawful encode schema normal) :
    Lawful (fun l => Json.arr (l.map encode)) (arraySchema schema) (List.map normal) where
  stable v items hread := by
    cases v <;> simp only [arraySchema, reduceCtorEq] at hread
    exact (readAll_map h).stable _ items hread
  normalises items others hread := (readAll_map h).normalises items others hread

theorem entry_lawful {α : Type} (key : String → Bool) {encode : α → Value} {schema : Value → Option α} {normal : α → α}
    (h : Lawful encode schema normal) :
    Lawful (fun f : String × α => (f.1, encode f.2))
      (fun f : String × Value => if key f.1 then (schema f.2).map (Prod.mk f.1) else none)
      (fun f => (f.1, normal f.2)) where
  stable f a hread := by
    dsimp only at hread ⊢
    split at hread
    · rename_i hkey
      obtain ⟨b, hb, rfl⟩ := Option.map_eq_some_iff.mp hread
      rw [if_pos hkey, h.stable _ b hb]
      rfl
    · cases hread
  normalises f g hread := by
    dsimp only at hread
    split at hread
    · obtain ⟨b, hb, rfl⟩ := Option.map_eq_some_iff.mp hread
      rw [h.normalises _ b hb]
    · cases hread

theorem recordSchema_lawful {α : Type} (key : String → Bool) {encode : α → Value} {schema : Value → Option α}
    {normal : α → α} (h : Lawful encode schema normal) :
    Lawful (fun l : List (String × α) => Json.obj (l.map fun f => (f.1, encode f.2))) (recordSchema key schema)
      (List.map fun f => (f.1, normal f.2)) where
  stable v l hread := by
    cases v <;> simp only [recordSchema, reduceCtorEq] at hread
    exact (readAll_map (entry_lawful key h)).stable _ l hread
  normalises l l' hread := (readAll_map (entry_lawful key h)).normalises l l' hread

/-- Null or a text. -/
theorem nullable_lawful {schema : Value → Option String} {normal : String → String}
    (h : Lawful Json.str schema normal) : Lawful orNull (nullable schema) (Option.map normal) where
  stable v a hread := by
    cases a with
    | none => rfl
    | some s =>
      have hs : ∃ w, schema w = some s := by
        cases v <;> simp only [nullable, Option.some.injEq, reduceCtorEq] at hread
        all_goals
          obtain ⟨t, ht, heq⟩ := Option.map_eq_some_iff.mp hread
          cases heq
          exact ⟨_, ht⟩
      obtain ⟨w, hw⟩ := hs
      show (schema (.str s)).map some = some (some s)
      rw [h.stable w s hw]
      rfl
  normalises a b hread := by
    cases a with
    | none =>
      cases hread
      rfl
    | some s =>
      obtain ⟨t, ht, rfl⟩ := Option.map_eq_some_iff.mp (show (schema (.str s)).map some = some b from hread)
      rw [h.normalises s t ht]
      rfl

/-- An optional field through its encoding. -/
theorem optionally_lawful {α : Type} {encode : α → Value} {schema : Value → Option α} {normal : α → α}
    (h : Lawful encode schema normal) : Lawful (Option.map encode) (optionally schema) (Option.map normal) where
  stable v a hread := by
    cases v with
    | none =>
      cases hread
      rfl
    | some w =>
      obtain ⟨b, hb, rfl⟩ := Option.map_eq_some_iff.mp (show (schema w).map some = some a from hread)
      show (schema (encode b)).map some = some (some b)
      rw [h.stable w b hb]
      rfl
  normalises a b hread := by
    cases a with
    | none =>
      cases hread
      rfl
    | some c =>
      obtain ⟨d, hd, rfl⟩ := Option.map_eq_some_iff.mp (show (schema (encode c)).map some = some b from hread)
      rw [h.normalises c d hd]
      rfl

/-! ## Timestamps and clocks -/

/-- The time that the text is read as. -/
def UtcTime.normal (time : UtcTime) : UtcTime := (utcTimestampSchema (.str time.text)).getD time

theorem utcTimestampSchema_text {v : Value} {time : UtcTime} (h : utcTimestampSchema v = some time) :
    v = .str time.text := by
  cases v <;> simp only [utcTimestampSchema, reduceCtorEq] at h
  split at h
  · split at h
    · cases h
      rfl
    · cases h
  · cases h

theorem utcTimestampSchema_lawful : Lawful (Json.str ∘ UtcTime.text) utcTimestampSchema UtcTime.normal where
  stable v time h := by
    rw [utcTimestampSchema_text h] at h
    exact h
  normalises time other h := by
    unfold UtcTime.normal
    rw [show utcTimestampSchema (.str time.text) = some other from h]
    rfl

theorem clockTimeSchema_text (clock : Clock) : clockTimeSchema (.str clock.text) = some clock := by
  have hhour := clock.hour.isLt
  have hminute := clock.minute.isLt
  have hend := readDigits_digitsOf 2 clock.minute.val []
  rw [List.append_nil] at hend
  simp only [clockTimeSchema, Clock.text, String.toList_ofList, readDigits_digitsOf, readChar, if_true, hend,
    Option.bind_eq_bind, Option.bind_some, ofDigitChars_digitsOf_two _ (show clock.hour.val < 100 by omega),
    ofDigitChars_digitsOf_two _ (show clock.minute.val < 100 by omega), and_true]
  exact dif_pos ⟨hhour, hminute⟩

/-! ## Enumerations -/

theorem Operator.text_injective : Function.Injective Operator.text := by
  intro a b h
  cases a <;> cases b <;> first | rfl | exact absurd h (by decide)

theorem TaskType.text_injective : Function.Injective TaskType.text := by
  intro a b h
  cases a <;> cases b <;> first | rfl | exact absurd h (by decide)

theorem Capability.text_injective : Function.Injective Capability.text := by
  intro a b h
  cases a <;> cases b <;> first | rfl | exact absurd h (by decide)

theorem SelectionMode.text_injective : Function.Injective SelectionMode.text := by
  intro a b h
  cases a <;> cases b <;> first | rfl | exact absurd h (by decide)

/-! ## Conditions -/

theorem strictObject_obj (keys : List String) (fields : List (String × Value))
    (h : fields.all (keys.contains ·.1) = true) :
    strictObject keys (.obj fields) = some fun key => fields.lookup key := if_pos h

theorem required_stable {α : Type} {encode : α → Value} {schema : Value → Option α} {normal : α → α}
    (h : Lawful encode schema normal) {field : String → Option Value} {key : String} {a : α}
    (hread : required field key schema = some a) : schema (encode a) = some a := by
  obtain ⟨v, -, hv⟩ := Option.bind_eq_some_iff.mp hread
  exact h.stable v a hv

theorem required_lookup {α : Type} (fields : List (String × Value)) (key : String) (schema : Value → Option α) {v : Value}
    (h : fields.lookup key = some v) : required (fun key => fields.lookup key) key schema = schema v := by
  rw [required, h, Option.bind_some]

theorem days_lawful : Lawful (fun days : List Nat => Json.arr (days.map fun (day : Nat) => integer day))
    (arraySchema (naturalSchema 1 7)) id :=
  (arraySchema_lawful (naturalSchema_lawful 1 7)).with_normal fun days => List.map_id days

theorem scheduleSchema_toJson (schedule : Schedule) : scheduleSchema schedule.toJson = (do
    let days ← arraySchema (naturalSchema 1 7) (.arr (schedule.days.map fun (day : Nat) => integer day))
    let start ← clockTimeSchema (.str schedule.start.text)
    let stop ← clockTimeSchema (.str schedule.stop.text)
    if 1 ≤ days.length ∧ days.length ≤ 7 ∧ days.Nodup then some ⟨days, start, stop⟩ else none) := by
  rw [scheduleSchema, Schedule.toJson, strictObject_obj _ _ (by rfl)]
  simp only [required, List.lookup_cons, Option.bind_eq_bind, Option.bind_some, String.reduceBEq]

theorem scheduleSchema_lawful : Lawful Schedule.toJson scheduleSchema id where
  stable v schedule h := by
    simp only [scheduleSchema, Option.bind_eq_bind, Option.bind_eq_some_iff] at h
    obtain ⟨field, -, days, hdays, start, -, stop, -, heq⟩ := h
    split at heq
    · cases heq
      rename_i hvalid
      rw [scheduleSchema_toJson, required_stable days_lawful hdays, clockTimeSchema_text, clockTimeSchema_text]
      exact if_pos hvalid
    · cases heq
  normalises schedule other h := by
    rw [scheduleSchema_toJson] at h
    simp only [Option.bind_eq_bind, Option.bind_eq_some_iff, clockTimeSchema_text, Option.some.injEq] at h
    obtain ⟨days, hdays, start, rfl, stop, rfl, heq⟩ := h
    split at heq
    · cases heq
      rw [days_lawful.normalises _ days hdays]
      rfl
    · cases heq

theorem propertyValueSchema_lawful : Lawful PropertyValue.toJson propertyValueSchema id where
  stable v value h := by
    cases v with
    | str s =>
      simp only [propertyValueSchema] at h
      split at h
      · cases h
        rename_i hlength
        exact if_pos hlength
      · cases h
    | bool b =>
      cases h
      rfl
    | num d =>
      obtain ⟨n, hn, rfl⟩ := Option.map_eq_some_iff.mp h
      show (safeIntegerSchema (integer n)).map _ = _
      rw [safeIntegerSchema, (integerSchema_lawful _ _).stable _ n hn]
      rfl
    | _ => cases h
  normalises value other h := by
    cases value with
    | text s =>
      simp only [PropertyValue.toJson, propertyValueSchema] at h
      split at h
      · cases h
        rfl
      · cases h
    | number n =>
      obtain ⟨m, hm, rfl⟩ := Option.map_eq_some_iff.mp h
      rw [(integerSchema_lawful _ _).normalises n m hm]
      rfl
    | flag b =>
      cases h
      rfl

theorem userPropertyMatchSchema_toJson (condition : UserPropertyMatch) :
    userPropertyMatchSchema condition.toJson = (do
      let key ← textSchema propertyKeyPattern (.str condition.key)
      let operator ← enumSchema Operator.text operators (.str condition.operator.text)
      let value ← optionally propertyValueSchema (condition.value.map PropertyValue.toJson)
      if operator = .isSet ∨ operator = .isNotSet ∨ value.isSome then some ⟨key, operator, value⟩ else none) := by
  obtain ⟨key, operator, value⟩ := condition
  cases value with
  | none =>
    rw [userPropertyMatchSchema, UserPropertyMatch.toJson, strictObject_obj _ _ (by rfl)]
    rfl
  | some value =>
    rw [userPropertyMatchSchema, UserPropertyMatch.toJson, strictObject_obj _ _ (by rfl)]
    rfl

theorem operator_lawful : Lawful (Json.str ∘ Operator.text) (enumSchema Operator.text operators) id :=
  enumSchema_lawful operators Operator.text_injective

theorem conditionValue_lawful :
    Lawful (Option.map PropertyValue.toJson) (optionally propertyValueSchema) id :=
  (optionally_lawful propertyValueSchema_lawful).with_normal fun _ => Option.map_id_apply

theorem userPropertyMatchSchema_lawful : Lawful UserPropertyMatch.toJson userPropertyMatchSchema id where
  stable v condition h := by
    simp only [userPropertyMatchSchema, Option.bind_eq_bind, Option.bind_eq_some_iff] at h
    obtain ⟨field, -, key, hkey, operator, hoperator, value, hvalue, heq⟩ := h
    split at heq
    · cases heq
      rename_i hvalid
      have hoperator' : enumSchema Operator.text operators (.str operator.text) = some operator :=
        required_stable operator_lawful hoperator
      rw [userPropertyMatchSchema_toJson, required_stable (textSchema_lawful _) hkey, hoperator',
        conditionValue_lawful.stable _ _ hvalue]
      exact if_pos hvalid
    · cases heq
  normalises condition other h := by
    rw [userPropertyMatchSchema_toJson] at h
    simp only [Option.bind_eq_bind, Option.bind_eq_some_iff] at h
    obtain ⟨key, hkey, operator, hoperator, value, hvalue, heq⟩ := h
    split at heq
    · cases heq
      rw [(textSchema_lawful _).normalises _ _ hkey, operator_lawful.normalises _ _ hoperator,
        conditionValue_lawful.normalises _ _ hvalue]
      rfl
    · cases heq

/-- A match as the schema reads it. -/
def RouteMatch.normal : RouteMatch → RouteMatch
  | .callSource value => .callSource (jsTrim value)
  | m => m

theorem userIdsSchema_lawful : Lawful texts userIdsSchema id :=
  ((arraySchema_lawful (textSchema_lawful _)).checked _).with_normal fun ids => List.map_id ids

theorem callSourceSchema_lawful : Lawful Json.str callSourceSchema jsTrim := trimmedSchema_lawful _

theorem onlyField_obj {α : Type} (key key' : String) (schema : Value → Option α) (v : Value) :
    onlyField key schema (.obj [(key', v)]) = if key' = key then schema v else none := by
  by_cases h : key' = key
  · subst h
    rw [if_pos rfl, onlyField, strictObject_obj _ _ (by simp)]
    exact required_lookup _ _ _ (by simp)
  · rw [if_neg h, onlyField, strictObject]
    simp [h]

/-- What an object with one field is read from. -/
theorem onlyField_some {α : Type} {key : String} {schema : Value → Option α} {v : Value} {a : α}
    (h : onlyField key schema v = some a) : ∃ w, schema w = some a := by
  simp only [onlyField, Option.bind_eq_bind, Option.bind_eq_some_iff] at h
  obtain ⟨field, -, hrequired⟩ := h
  obtain ⟨w, -, hw⟩ := Option.bind_eq_some_iff.mp hrequired
  exact ⟨w, hw⟩

theorem runtimeRouteMatchSchema_toJson (m : RouteMatch) : runtimeRouteMatchSchema m.toJson =
    match m with
    | .overrideActive => some .overrideActive
    | .schedule times => (scheduleSchema times.toJson).map .schedule
    | .user ids => (userIdsSchema (texts ids)).map .user
    | .userProperty condition => (userPropertyMatchSchema condition.toJson).map .userProperty
    | .callSource value =>
      (callSourceSchema (.str value)).map .callSource := by
  cases m <;> simp [runtimeRouteMatchSchema, RouteMatch.toJson, onlyField_obj, trueSchema, userIdsSchema]

theorem runtimeRouteMatchSchema_some {v : Value} {m : RouteMatch} (h : runtimeRouteMatchSchema v = some m) :
    match m with
    | .overrideActive => True
    | .schedule times => ∃ w, scheduleSchema w = some times
    | .user ids => ∃ w, userIdsSchema w = some ids
    | .userProperty condition => ∃ w, userPropertyMatchSchema w = some condition
    | .callSource value => ∃ w, callSourceSchema w = some value := by
  simp only [runtimeRouteMatchSchema, Option.orElse_eq_orElse, Option.orElse_eq_or, Option.or_eq_some_iff,
    Option.map_eq_some_iff] at h
  rcases h with ⟨_, -, rfl⟩ |
    ⟨-, ⟨times, hm, rfl⟩ | ⟨-, ⟨ids, hm, rfl⟩ | ⟨-, ⟨condition, hm, rfl⟩ | ⟨-, value, hm, rfl⟩⟩⟩⟩
  · trivial
  · exact onlyField_some hm
  · obtain ⟨w, hw⟩ := onlyField_some hm
    exact onlyField_some hw
  · exact onlyField_some hm
  · obtain ⟨w, hw⟩ := onlyField_some hm
    exact onlyField_some hw

theorem runtimeRouteMatchSchema_lawful : Lawful RouteMatch.toJson runtimeRouteMatchSchema RouteMatch.normal where
  stable v m h := by
    have hsome := runtimeRouteMatchSchema_some h
    rw [runtimeRouteMatchSchema_toJson]
    cases m with
    | overrideActive => rfl
    | schedule times =>
      obtain ⟨w, hw⟩ := hsome
      simp only [scheduleSchema_lawful.stable w times hw, Option.map_some]
    | user ids =>
      obtain ⟨w, hw⟩ := hsome
      simp only [userIdsSchema_lawful.stable w ids hw, Option.map_some]
    | userProperty condition =>
      obtain ⟨w, hw⟩ := hsome
      simp only [userPropertyMatchSchema_lawful.stable w condition hw, Option.map_some]
    | callSource value =>
      obtain ⟨w, hw⟩ := hsome
      simp only [callSourceSchema_lawful.stable w value hw, Option.map_some]
  normalises m other h := by
    rw [runtimeRouteMatchSchema_toJson] at h
    cases m with
    | overrideActive =>
      cases h
      rfl
    | schedule times =>
      obtain ⟨times', hm, rfl⟩ := Option.map_eq_some_iff.mp h
      rw [scheduleSchema_lawful.normalises _ _ hm]
      rfl
    | user ids =>
      obtain ⟨ids', hm, rfl⟩ := Option.map_eq_some_iff.mp h
      rw [userIdsSchema_lawful.normalises _ _ hm]
      rfl
    | userProperty condition =>
      obtain ⟨condition', hm, rfl⟩ := Option.map_eq_some_iff.mp h
      rw [userPropertyMatchSchema_lawful.normalises _ _ hm]
      rfl
    | callSource value =>
      obtain ⟨value', hm, rfl⟩ := Option.map_eq_some_iff.mp h
      rw [callSourceSchema_lawful.normalises _ _ hm]
      rfl

/-! ## Routes and plans -/

theorem modelCapabilitiesSchema_lawful :
    Lawful (fun l : List Capability => Json.arr (l.map (.str ·.text))) modelCapabilitiesSchema id :=
  ((arraySchema_lawful (enumSchema_lawful capabilities Capability.text_injective)).checked _).with_normal
    fun l => List.map_id l

theorem taskType_lawful : Lawful (Json.str ∘ TaskType.text) (enumSchema TaskType.text taskTypes) id :=
  enumSchema_lawful taskTypes TaskType.text_injective

theorem weightSchema_lawful : Lawful Json.num weightSchema id where
  stable v d h := by
    cases v <;> simp only [weightSchema, reduceCtorEq] at h
    split at h
    · cases h
      rename_i hweight
      exact if_pos hweight
    · cases h
  normalises d e h := by
    simp only [weightSchema] at h
    split at h
    · cases h
      rfl
    · cases h

theorem runtimeRouteTargetSchema_toJson (target : RouteTarget) : runtimeRouteTargetSchema target.toJson = (do
    let modelId ← textSchema opaqueIdPattern (.str target.modelId)
    let connectionId ← textSchema opaqueIdPattern (.str target.connectionId)
    let requestModel ← textSchema (bounded 1 256) (.str target.requestModel)
    let provider ← textSchema (bounded 1 120) (.str target.provider)
    let taskType ← enumSchema TaskType.text taskTypes (.str target.taskType.text)
    let capabilities ← modelCapabilitiesSchema (.arr (target.capabilities.map (.str ·.text)))
    let routeTag ← routeTagSchema (.str target.routeTag)
    let fallbackOrder ← naturalSchema 0 63 (integer target.fallbackOrder)
    let weight ← weightSchema (.num target.weight)
    some { modelId, connectionId, requestModel, provider, taskType, capabilities, routeTag, fallbackOrder, weight }) := by
  rw [runtimeRouteTargetSchema, RouteTarget.toJson, strictObject_obj _ _ (by rfl)]
  rfl

theorem runtimeRouteTargetSchema_lawful : Lawful RouteTarget.toJson runtimeRouteTargetSchema id where
  stable v target h := by
    simp only [runtimeRouteTargetSchema, Option.bind_eq_bind, Option.bind_eq_some_iff] at h
    obtain ⟨field, -, modelId, h1, connectionId, h2, requestModel, h3, provider, h4, 
      taskType, h5, capabilities, h6, routeTag, h7, fallbackOrder, h8, weight, h9, heq⟩ := h
    cases heq
    have htask : enumSchema TaskType.text taskTypes (.str taskType.text) = some taskType :=
      required_stable taskType_lawful h5
    have htag : routeTagSchema (.str routeTag) = some routeTag := required_stable (textSchema_lawful _) h7
    rw [runtimeRouteTargetSchema_toJson, required_stable (textSchema_lawful _) h1, required_stable (textSchema_lawful _) h2,
      required_stable (textSchema_lawful _) h3, required_stable (textSchema_lawful _) h4, htask,
      required_stable modelCapabilitiesSchema_lawful h6, htag, required_stable (naturalSchema_lawful _ _) h8,
      required_stable weightSchema_lawful h9]
    rfl
  normalises target other h := by
    rw [runtimeRouteTargetSchema_toJson] at h
    simp only [Option.bind_eq_bind, Option.bind_eq_some_iff] at h
    obtain ⟨modelId, h1, connectionId, h2, requestModel, h3, provider, h4, taskType, h5, capabilities, h6, routeTag, h7,
      fallbackOrder, h8, weight, h9, heq⟩ := h
    cases heq
    rw [(textSchema_lawful _).normalises _ _ h1, (textSchema_lawful _).normalises _ _ h2,
      (textSchema_lawful _).normalises _ _ h3, (textSchema_lawful _).normalises _ _ h4,
      taskType_lawful.normalises _ _ h5, modelCapabilitiesSchema_lawful.normalises _ _ h6,
      (textSchema_lawful _).normalises _ _ h7, (naturalSchema_lawful _ _).normalises _ _ h8,
      weightSchema_lawful.normalises _ _ h9]
    rfl

theorem selectionMode_lawful : Lawful (Json.str ∘ SelectionMode.text) (enumSchema SelectionMode.text selectionModes) id :=
  enumSchema_lawful selectionModes SelectionMode.text_injective

theorem targets_lawful :
    Lawful (fun l : List RouteTarget => Json.arr (l.map RouteTarget.toJson)) (arraySchema runtimeRouteTargetSchema) id :=
  (arraySchema_lawful runtimeRouteTargetSchema_lawful).with_normal fun l => List.map_id l

theorem runtimeRouteSchema_toJson (route : Route) : runtimeRouteSchema route.toJson = (do
    let routeTag ← routeTagSchema (.str route.routeTag)
    let selectionMode ← enumSchema SelectionMode.text selectionModes (.str route.selectionMode.text)
    let targets ← arraySchema runtimeRouteTargetSchema (.arr (route.targets.map RouteTarget.toJson))
    if 1 ≤ targets.length ∧ targets.length ≤ 64 ∧ (targets.map (·.modelId)).Nodup ∧
        (∀ target ∈ targets, target.routeTag = routeTag) ∧
        targets.map (·.fallbackOrder) = List.range targets.length then
      some { routeTag, selectionMode, targets }
    else none) := by
  rw [runtimeRouteSchema, Route.toJson, strictObject_obj _ _ (by rfl)]
  rfl

theorem runtimeRouteSchema_lawful : Lawful Route.toJson runtimeRouteSchema id where
  stable v route h := by
    simp only [runtimeRouteSchema, Option.bind_eq_bind, Option.bind_eq_some_iff] at h
    obtain ⟨field, -, routeTag, htag, selectionMode, hmode, targets, htargets, heq⟩ := h
    split at heq
    · cases heq
      rename_i hvalid
      have htag' : routeTagSchema (.str routeTag) = some routeTag := required_stable (textSchema_lawful _) htag
      have hmode' : enumSchema SelectionMode.text selectionModes (.str selectionMode.text) = some selectionMode :=
        required_stable selectionMode_lawful hmode
      rw [runtimeRouteSchema_toJson, htag', hmode', required_stable targets_lawful htargets]
      exact if_pos hvalid
    · cases heq
  normalises route other h := by
    rw [runtimeRouteSchema_toJson] at h
    simp only [Option.bind_eq_bind, Option.bind_eq_some_iff] at h
    obtain ⟨routeTag, htag, selectionMode, hmode, targets, htargets, heq⟩ := h
    split at heq
    · cases heq
      rw [(textSchema_lawful _).normalises _ _ htag, selectionMode_lawful.normalises _ _ hmode,
        targets_lawful.normalises _ _ htargets]
      rfl
    · cases heq

def RoutingRule.normal (rule : RoutingRule) : RoutingRule :=
  { rule with «match» := rule.match.normal, expiresAt := rule.expiresAt.map UtcTime.normal }

theorem expiry_lawful :
    Lawful (Option.map (Json.str ∘ UtcTime.text)) (optionally utcTimestampSchema) (Option.map UtcTime.normal) :=
  optionally_lawful utcTimestampSchema_lawful

theorem runtimeRoutingRuleSchema_toJson (rule : RoutingRule) : runtimeRoutingRuleSchema rule.toJson = (do
    let id ← textSchema (bounded 1 120) (.str rule.id)
    let priority ← safeIntegerSchema (integer rule.priority)
    let condition ← runtimeRouteMatchSchema rule.match.toJson
    let route ← runtimeRouteSchema rule.route.toJson
    let expiresAt ← optionally utcTimestampSchema (rule.expiresAt.map (Json.str ∘ UtcTime.text))
    if condition = .overrideActive → expiresAt.isSome then some { id, priority, «match» := condition, route, expiresAt }
    else none) := by
  obtain ⟨id, priority, condition, route, expiresAt⟩ := rule
  cases expiresAt with
  | none =>
    rw [runtimeRoutingRuleSchema, RoutingRule.toJson, strictObject_obj _ _ (by rfl)]
    rfl
  | some expiresAt =>
    rw [runtimeRoutingRuleSchema, RoutingRule.toJson, strictObject_obj _ _ (by rfl)]
    rfl

theorem RouteMatch.normal_overrideActive {m : RouteMatch} : m.normal = .overrideActive ↔ m = .overrideActive := by
  cases m <;> simp [RouteMatch.normal]

theorem runtimeRoutingRuleSchema_lawful : Lawful RoutingRule.toJson runtimeRoutingRuleSchema RoutingRule.normal where
  stable v rule h := by
    simp only [runtimeRoutingRuleSchema, Option.bind_eq_bind, Option.bind_eq_some_iff] at h
    obtain ⟨field, -, id, hid, priority, hpriority, condition, hcondition, route, hroute,
      expiresAt, hexpiry, heq⟩ := h
    split at heq
    · cases heq
      rename_i hvalid
      have hpriority' : safeIntegerSchema (integer priority) = some priority :=
        required_stable (integerSchema_lawful _ _) hpriority
      rw [runtimeRoutingRuleSchema_toJson, required_stable (textSchema_lawful _) hid, hpriority',
        required_stable runtimeRouteMatchSchema_lawful hcondition, required_stable runtimeRouteSchema_lawful hroute,
        expiry_lawful.stable _ _ hexpiry]
      exact if_pos hvalid
    · cases heq
  normalises rule other h := by
    rw [runtimeRoutingRuleSchema_toJson] at h
    simp only [Option.bind_eq_bind, Option.bind_eq_some_iff] at h
    obtain ⟨id, hid, priority, hpriority, condition, hcondition, route, hroute, expiresAt, hexpiry, heq⟩ := h
    split at heq
    · cases heq
      rw [(textSchema_lawful _).normalises _ _ hid, (integerSchema_lawful _ _).normalises _ _ hpriority,
        runtimeRouteMatchSchema_lawful.normalises _ _ hcondition, runtimeRouteSchema_lawful.normalises _ _ hroute,
        expiry_lawful.normalises _ _ hexpiry]
      rfl
    · cases heq

def RoutingPlan.normal (plan : RoutingPlan) : RoutingPlan :=
  { plan with publishedAt := plan.publishedAt.normal, rules := plan.rules.map RoutingRule.normal }

theorem rules_lawful : Lawful (fun l : List RoutingRule => Json.arr (l.map RoutingRule.toJson))
    (arraySchema runtimeRoutingRuleSchema) (List.map RoutingRule.normal) :=
  arraySchema_lawful runtimeRoutingRuleSchema_lawful

theorem runtimeRoutingPlanSchema_toJson (plan : RoutingPlan) : runtimeRoutingPlanSchema plan.toJson = (do
    let virtualModelId ← textSchema opaqueIdPattern (.str plan.virtualModelId)
    let configurationVersion ← naturalSchema 1 maxSafeInteger.toNat (integer plan.configurationVersion)
    let configurationEtag ← textSchema sha256FingerprintPattern (.str plan.configurationEtag)
    let publishedAt ← utcTimestampSchema (.str plan.publishedAt.text)
    let timezone ← textSchema (bounded 1 128) (.str plan.timezone)
    let default ← runtimeRouteSchema plan.default.toJson
    let rules ← arraySchema runtimeRoutingRuleSchema (.arr (plan.rules.map RoutingRule.toJson))
    if rules.length ≤ 512 ∧ (rules.map (·.id)).Nodup then
      some { virtualModelId, configurationVersion, configurationEtag, publishedAt, timezone, default, rules }
    else none) := by
  rw [runtimeRoutingPlanSchema, RoutingPlan.toJson, strictObject_obj _ _ (by rfl)]
  rfl

theorem runtimeRoutingPlanSchema_lawful : Lawful RoutingPlan.toJson runtimeRoutingPlanSchema RoutingPlan.normal where
  stable v plan h := by
    simp only [runtimeRoutingPlanSchema, Option.bind_eq_bind, Option.bind_eq_some_iff] at h
    obtain ⟨field, -, virtualModelId, h1, version, h2, etag, h3, publishedAt, h4, 
      timezone, h5, default, h6, rules, h7, heq⟩ := h
    split at heq
    · cases heq
      rename_i hvalid
      have hpublished : utcTimestampSchema (.str publishedAt.text) = some publishedAt :=
        required_stable utcTimestampSchema_lawful h4
      rw [runtimeRoutingPlanSchema_toJson, required_stable (textSchema_lawful _) h1, required_stable (naturalSchema_lawful _ _) h2,
        required_stable (textSchema_lawful _) h3, hpublished, required_stable (textSchema_lawful _) h5,
        required_stable runtimeRouteSchema_lawful h6, required_stable rules_lawful h7]
      exact if_pos hvalid
    · cases heq
  normalises plan other h := by
    rw [runtimeRoutingPlanSchema_toJson] at h
    simp only [Option.bind_eq_bind, Option.bind_eq_some_iff] at h
    obtain ⟨virtualModelId, h1, version, h2, etag, h3, publishedAt, h4, timezone, h5, default, h6, rules, h7, heq⟩ := h
    split at heq
    · cases heq
      rw [(textSchema_lawful _).normalises _ _ h1, (naturalSchema_lawful _ _).normalises _ _ h2,
        (textSchema_lawful _).normalises _ _ h3, utcTimestampSchema_lawful.normalises _ _ h4,
        (textSchema_lawful _).normalises _ _ h5, runtimeRouteSchema_lawful.normalises _ _ h6,
        rules_lawful.normalises _ _ h7]
      rfl
    · cases heq


/-! ## Connections and the snapshot -/

/-- A connection as the schema reads it. -/
def Connection.normal (connection : Connection) : Connection :=
  { connection with
    baseUrl := connection.baseUrl.map jsTrim
    apiVersion := if connection.driver = .anthropic then connection.apiVersion else none }

theorem credentialRef_lawful : Lawful orNull (nullable (textSchema credentialReference)) id :=
  (nullable_lawful (textSchema_lawful _)).with_normal fun _ => Option.map_id_apply

theorem apiVersion_lawful : Lawful orNull (nullable (textSchema (bounded 1 64))) id :=
  (nullable_lawful (textSchema_lawful _)).with_normal fun _ => Option.map_id_apply

section

variable (isHttpUrl : String → Bool)

theorem baseUrl_lawful : Lawful orNull (nullable (httpBaseUrlSchema isHttpUrl)) (Option.map jsTrim) :=
  nullable_lawful (trimmedSchema_lawful _)

/-- The union on the JSON of a connection. -/
def readConnection (connection : Connection) : Option Connection := do
  let id ← textSchema opaqueIdPattern (.str connection.id)
  let name ← textSchema (bounded 1 120) (.str connection.name)
  let credentialRef ← nullable (textSchema credentialReference) (orNull connection.credentialRef)
  let timeoutMs ← naturalSchema 1 600000 (integer connection.timeoutMs)
  let maxRetries ← naturalSchema 0 10 (integer connection.maxRetries)
  let baseUrl ← nullable (httpBaseUrlSchema isHttpUrl) (orNull connection.baseUrl)
  let apiVersion ←
    apiVersionSchema connection.driver fun key => if key = "api_version" then some (orNull connection.apiVersion) else none
  if connection.driver = .anthropic ∨ baseUrl.isSome then
    some { id, name, driver := connection.driver, baseUrl, credentialRef, timeoutMs, maxRetries, apiVersion }
  else none

theorem runtimeCallConnectionSchema_toJson (connection : Connection) :
    runtimeCallConnectionSchema isHttpUrl connection.toJson = readConnection isHttpUrl connection := by
  obtain ⟨id, name, driver, baseUrl, credentialRef, timeoutMs, maxRetries, apiVersion⟩ := connection
  have hdriver : driverOf (Connection.toJson ⟨id, name, driver, baseUrl, credentialRef, timeoutMs, maxRetries, apiVersion⟩) =
      some driver := by cases driver <;> rfl
  rw [runtimeCallConnectionSchema, hdriver]
  cases driver
  all_goals
    rw [Option.bind_eq_bind, Option.bind_some, Connection.toJson, strictObject_obj _ _ (by rfl)]
    rfl

theorem apiVersionSchema_stable {driver : Driver} {field : String → Option Value} {version : Option String}
    (h : apiVersionSchema driver field = some version) :
    apiVersionSchema driver (fun key => if key = "api_version" then some (orNull version) else none) = some version := by
  unfold apiVersionSchema at h ⊢
  split at h
  · rename_i hdriver
    rw [if_pos hdriver]
    exact required_stable apiVersion_lawful h
  · rename_i hdriver
    rw [if_neg hdriver]
    exact h

theorem apiVersionSchema_normalises {driver : Driver} {version other : Option String}
    (h : apiVersionSchema driver (fun key => if key = "api_version" then some (orNull version) else none) = some other) :
    other = if driver = .anthropic then version else none := by
  unfold apiVersionSchema at h
  split at h
  · rename_i hdriver
    rw [if_pos hdriver]
    exact apiVersion_lawful.normalises version other h
  · rename_i hdriver
    rw [if_neg hdriver]
    exact (Option.some.inj h).symm

theorem runtimeCallConnectionSchema_lawful :
    Lawful Connection.toJson (runtimeCallConnectionSchema isHttpUrl) Connection.normal where
  stable v connection h := by
    simp only [runtimeCallConnectionSchema, Option.bind_eq_bind, Option.bind_eq_some_iff] at h
    obtain ⟨driver, -, field, -, id, h1, name, h2, credentialRef, h3, timeoutMs, h4, maxRetries, h5, baseUrl, h6,
      apiVersion, h7, heq⟩ := h
    split at heq
    · cases heq
      rename_i hvalid
      rw [runtimeCallConnectionSchema_toJson, readConnection, required_stable (textSchema_lawful _) h1,
        required_stable (textSchema_lawful _) h2, required_stable credentialRef_lawful h3,
        required_stable (naturalSchema_lawful _ _) h4, required_stable (naturalSchema_lawful _ _) h5,
        required_stable (baseUrl_lawful isHttpUrl) h6]
      simp only [Option.bind_eq_bind, Option.bind_some, apiVersionSchema_stable h7, if_pos hvalid]
    · cases heq
  normalises connection other h := by
    rw [runtimeCallConnectionSchema_toJson] at h
    simp only [readConnection, Option.bind_eq_bind, Option.bind_eq_some_iff] at h
    obtain ⟨id, h1, name, h2, credentialRef, h3, timeoutMs, h4, maxRetries, h5, baseUrl, h6, apiVersion, h7, heq⟩ := h
    split at heq
    · cases heq
      rw [(textSchema_lawful _).normalises _ _ h1, (textSchema_lawful _).normalises _ _ h2,
        credentialRef_lawful.normalises _ _ h3, (naturalSchema_lawful _ _).normalises _ _ h4,
        (naturalSchema_lawful _ _).normalises _ _ h5, (baseUrl_lawful isHttpUrl).normalises _ _ h6,
        apiVersionSchema_normalises h7]
      rfl
    · cases heq

end

def aiuJson (aiu : Bool × AiuMode × UnratedModelPolicy) : Value :=
  .obj [("enabled", .bool aiu.1), ("mode", .str aiu.2.1.text), ("unrated_model_policy", .str aiu.2.2.text)]

theorem aiuSchema_json (aiu : Bool × AiuMode × UnratedModelPolicy) : aiuSchema (aiuJson aiu) = some aiu := by
  obtain ⟨enabled, mode, policy⟩ := aiu
  cases mode <;> cases policy <;> rfl

def accessJson (access : Access) : Value :=
  .obj [("application_enabled", .bool access.applicationEnabled), ("blocked_user_ids", texts access.blockedUserIds)]

theorem blockedUserIds_lawful : Lawful texts (arraySchema (textSchema (bounded 1 256))) id :=
  (arraySchema_lawful (textSchema_lawful _)).with_normal fun l => List.map_id l

theorem accessSchema_json (access : Access) : accessSchema (accessJson access) = (do
    let applicationEnabled ← boolSchema (.bool access.applicationEnabled)
    let blockedUserIds ← arraySchema (textSchema (bounded 1 256)) (texts access.blockedUserIds)
    if blockedUserIds.length ≤ 50000 ∧ blockedUserIds.Nodup then some { applicationEnabled, blockedUserIds } else none) := by
  rw [accessSchema, accessJson, strictObject_obj _ _ (by rfl), Option.bind_eq_bind, Option.bind_some,
    required_lookup _ _ _ (by rfl), required_lookup _ _ _ (by rfl)]

theorem accessSchema_lawful : Lawful accessJson accessSchema id where
  stable v access h := by
    simp only [accessSchema, Option.bind_eq_bind, Option.bind_eq_some_iff] at h
    obtain ⟨field, -, applicationEnabled, henabled, blockedUserIds, hblocked, heq⟩ := h
    split at heq
    · cases heq
      rename_i hvalid
      rw [accessSchema_json, required_stable boolSchema_lawful henabled, required_stable blockedUserIds_lawful hblocked]
      exact if_pos hvalid
    · cases heq
  normalises access other h := by
    rw [accessSchema_json] at h
    simp only [Option.bind_eq_bind, Option.bind_eq_some_iff] at h
    obtain ⟨applicationEnabled, henabled, blockedUserIds, hblocked, heq⟩ := h
    split at heq
    · cases heq
      rw [boolSchema_lawful.normalises _ _ henabled, blockedUserIds_lawful.normalises _ _ hblocked]
      rfl
    · cases heq

theorem governedKeysSchema_lawful : Lawful texts governedKeysSchema id :=
  ((arraySchema_lawful (textSchema_lawful _)).checked _).with_normal fun l => List.map_id l

theorem onlyField_lawful {α : Type} (key : String) {encode : α → Value} {schema : Value → Option α} {normal : α → α}
    (h : Lawful encode schema normal) : Lawful (fun a => Json.obj [(key, encode a)]) (onlyField key schema) normal where
  stable v a hread := by
    obtain ⟨w, hw⟩ := onlyField_some hread
    rw [onlyField_obj, if_pos rfl, h.stable w a hw]
  normalises a b hread := by
    rw [onlyField_obj, if_pos rfl] at hread
    exact h.normalises a b hread

def UnsignedSnapshot.normal (snapshot : UnsignedSnapshot) : UnsignedSnapshot :=
  { snapshot with
    expiresAt := snapshot.expiresAt.normal
    connections := snapshot.connections.map fun entry => (entry.1, entry.2.normal)
    routing := snapshot.routing.map fun entry => (entry.1, entry.2.normal) }

def Snapshot.normal (snapshot : Snapshot) : Snapshot :=
  { snapshot with toUnsignedSnapshot := snapshot.toUnsignedSnapshot.normal }

section

variable (isHttpUrl : String → Bool)

theorem runtimeSnapshotSchema_toJson (snapshot : Snapshot) : runtimeSnapshotSchema isHttpUrl snapshot.toJson = (do
    let applicationId ← textSchema uuidPattern (.str snapshot.applicationId)
    let version ← textSchema opaqueIdPattern (.str snapshot.version)
    let etag ← textSchema sha256FingerprintPattern (.str snapshot.etag)
    let signature ← textSchema sha256FingerprintPattern (.str snapshot.signature)
    let expiresAt ← utcTimestampSchema (.str snapshot.expiresAt.text)
    let connections ← recordSchema opaqueIdPattern (runtimeCallConnectionSchema isHttpUrl)
      (.obj (snapshot.connections.map fun entry => (entry.1, entry.2.toJson)))
    let routing ← recordSchema virtualModelName runtimeRoutingPlanSchema
      (.obj (snapshot.routing.map fun entry => (entry.1, entry.2.toJson)))
    let access ← accessSchema (accessJson snapshot.access)
    let analyticsAllowedKeys ← onlyField "analytics_allowed_keys" governedKeysSchema
      (.obj [("analytics_allowed_keys", texts snapshot.analyticsAllowedKeys)])
    let parsed : Snapshot :=
      { applicationId, version, etag, signature, expiresAt, connections, routing, aiuEnabled := snapshot.aiuEnabled
        aiuMode := snapshot.aiuMode, unratedModelPolicy := snapshot.unratedModelPolicy, access, analyticsAllowedKeys }
    if parsed.consistent then some parsed else none) := by
  have haiu := aiuSchema_json (snapshot.aiuEnabled, snapshot.aiuMode, snapshot.unratedModelPolicy)
  unfold aiuJson at haiu
  unfold runtimeSnapshotSchema Snapshot.toJson UnsignedSnapshot.fields
  rw [strictObject_obj _ _ (by rfl), Option.bind_eq_bind, Option.bind_some]
  rw [required_lookup _ _ _ (by rfl), required_lookup _ _ _ (by rfl), required_lookup _ _ _ (by rfl),
    required_lookup _ _ _ (by rfl), required_lookup _ _ _ (by rfl), required_lookup _ _ _ (by rfl),
    required_lookup _ _ _ (by rfl), required_lookup _ _ _ (by rfl), required_lookup _ _ _ (by rfl),
    required_lookup _ _ _ (by rfl), required_lookup _ _ _ (by rfl), haiu]
  simp only [Option.bind_eq_bind, Option.bind_some, accessJson]
  rfl

theorem runtimeSnapshotSchema_lawful : Lawful Snapshot.toJson (runtimeSnapshotSchema isHttpUrl) Snapshot.normal where
  stable v snapshot h := by
    unfold runtimeSnapshotSchema at h
    obtain ⟨field, -, h⟩ := Option.bind_eq_some_iff.mp h
    obtain ⟨_, -, h⟩ := Option.bind_eq_some_iff.mp h
    obtain ⟨applicationId, h1, h⟩ := Option.bind_eq_some_iff.mp h
    obtain ⟨version, h2, h⟩ := Option.bind_eq_some_iff.mp h
    obtain ⟨etag, h3, h⟩ := Option.bind_eq_some_iff.mp h
    obtain ⟨signature, h4, h⟩ := Option.bind_eq_some_iff.mp h
    obtain ⟨expiresAt, h5, h⟩ := Option.bind_eq_some_iff.mp h
    obtain ⟨connections, h6, h⟩ := Option.bind_eq_some_iff.mp h
    obtain ⟨routing, h7, h⟩ := Option.bind_eq_some_iff.mp h
    obtain ⟨⟨aiuEnabled, aiuMode, policy⟩, -, h⟩ := Option.bind_eq_some_iff.mp h
    dsimp only at h
    obtain ⟨access, h9, h⟩ := Option.bind_eq_some_iff.mp h
    obtain ⟨keys, h10, heq⟩ := Option.bind_eq_some_iff.mp h
    split at heq
    · rename_i hvalid
      cases heq
      have hexpires : utcTimestampSchema (.str expiresAt.text) = some expiresAt :=
        required_stable utcTimestampSchema_lawful h5
      have hconnections := required_stable (recordSchema_lawful _ (runtimeCallConnectionSchema_lawful isHttpUrl)) h6
      have hrouting := required_stable (recordSchema_lawful _ runtimeRoutingPlanSchema_lawful) h7
      have hkeys := required_stable (onlyField_lawful "analytics_allowed_keys" governedKeysSchema_lawful) h10
      rw [runtimeSnapshotSchema_toJson, required_stable (textSchema_lawful _) h1,
        required_stable (textSchema_lawful _) h2, required_stable (textSchema_lawful _) h3,
        required_stable (textSchema_lawful _) h4, hexpires, hconnections, hrouting, required_stable accessSchema_lawful h9,
        hkeys]
      exact if_pos hvalid
    · cases heq
  normalises snapshot other h := by
    rw [runtimeSnapshotSchema_toJson] at h
    simp only [Option.bind_eq_bind, Option.bind_eq_some_iff] at h
    obtain ⟨applicationId, h1, version, h2, etag, h3, signature, h4, expiresAt, h5, connections, h6, routing, h7,
      access, h8, keys, h9, heq⟩ := h
    split at heq
    · cases heq
      rw [(textSchema_lawful _).normalises _ _ h1, (textSchema_lawful _).normalises _ _ h2,
        (textSchema_lawful _).normalises _ _ h3, (textSchema_lawful _).normalises _ _ h4,
        utcTimestampSchema_lawful.normalises _ _ h5,
        (recordSchema_lawful _ (runtimeCallConnectionSchema_lawful isHttpUrl)).normalises _ _ h6,
        (recordSchema_lawful _ runtimeRoutingPlanSchema_lawful).normalises _ _ h7,
        accessSchema_lawful.normalises _ _ h8,
        (onlyField_lawful "analytics_allowed_keys" governedKeysSchema_lawful).normalises _ _ h9]
      rfl
    · cases heq

end

/-! ## What the schemas accept is valid -/

theorem readAll_mem {α β : Type} {schema : α → Option β} {l : List α} {items : List β}
    (h : readAll schema l = some items) : ∀ b ∈ items, ∃ a ∈ l, schema a = some b := by
  induction l generalizing items with
  | nil =>
    cases h
    simp
  | cons a rest ih =>
    simp only [readAll, Option.bind_eq_bind, Option.bind_eq_some_iff] at h
    obtain ⟨first, hfirst, others, hothers, heq⟩ := h
    cases heq
    intro b hb
    rcases List.mem_cons.mp hb with rfl | hb
    · exact ⟨a, by simp, hfirst⟩
    · obtain ⟨c, hc, hread⟩ := ih hothers b hb
      exact ⟨c, by simp [hc], hread⟩

theorem arraySchema_mem {α : Type} {schema : Value → Option α} {v : Value} {items : List α}
    (h : arraySchema schema v = some items) : ∀ a ∈ items, ∃ w, schema w = some a := by
  cases v <;> simp only [arraySchema, reduceCtorEq] at h
  intro a ha
  obtain ⟨w, -, hw⟩ := readAll_mem h a ha
  exact ⟨w, hw⟩

theorem required_some {α : Type} {field : String → Option Value} {key : String} {schema : Value → Option α} {a : α}
    (h : required field key schema = some a) : ∃ v, schema v = some a := by
  obtain ⟨v, -, hv⟩ := Option.bind_eq_some_iff.mp h
  exact ⟨v, hv⟩

theorem textSchema_pattern {pattern : String → Bool} {v : Value} {s : String} (h : textSchema pattern v = some s) :
    pattern s = true := by
  cases v <;> simp only [textSchema, reduceCtorEq] at h
  split at h
  · cases h
    assumption
  · cases h

theorem weightSchema_range {v : Value} {d : Decimal} (h : weightSchema v = some d) : 0 < d.toRat ∧ d.toRat ≤ 1000 := by
  cases v <;> simp only [weightSchema, reduceCtorEq] at h
  split at h
  · cases h
    assumption
  · cases h

theorem runtimeRouteTargetSchema_weight {v : Value} {target : RouteTarget}
    (h : runtimeRouteTargetSchema v = some target) : 0 < target.weight.toRat ∧ target.weight.toRat ≤ 1000 := by
  simp only [runtimeRouteTargetSchema, Option.bind_eq_bind, Option.bind_eq_some_iff] at h
  obtain ⟨field, -, modelId, -, connectionId, -, requestModel, -, provider, -, taskType, -, capabilities, -, routeTag, -,
    fallbackOrder, -, weight, hweight, heq⟩ := h
  cases heq
  obtain ⟨w, hw⟩ := required_some hweight
  exact weightSchema_range hw

theorem runtimeRouteSchema_valid {v : Value} {route : Route} (h : runtimeRouteSchema v = some route) : route.Valid := by
  simp only [runtimeRouteSchema, Option.bind_eq_bind, Option.bind_eq_some_iff] at h
  obtain ⟨field, -, routeTag, -, selectionMode, -, targets, htargets, heq⟩ := h
  split at heq
  · cases heq
    rename_i hvalid
    obtain ⟨hfilled, -, hdistinct, htagged, hcontiguous⟩ := hvalid
    obtain ⟨w, hw⟩ := required_some htargets
    refine ⟨?_, hdistinct, htagged, hcontiguous, ?_⟩
    · exact List.ne_nil_of_length_pos hfilled
    · intro target htarget
      obtain ⟨u, hu⟩ := arraySchema_mem hw target htarget
      exact runtimeRouteTargetSchema_weight hu
  · cases heq

theorem runtimeRouteMatchSchema_valid {v : Value} {m : RouteMatch} (h : runtimeRouteMatchSchema v = some m) :
    m.Valid := by
  have hsome := runtimeRouteMatchSchema_some h
  cases m with
  | user ids =>
    obtain ⟨w, hw⟩ := hsome
    obtain ⟨hread, -⟩ := Option.filter_eq_some_iff.mp hw
    intro hempty
    obtain ⟨u, hu⟩ := arraySchema_mem hread "" hempty
    exact absurd (textSchema_pattern hu) (by decide)
  | userProperty condition =>
    obtain ⟨w, hw⟩ := hsome
    simp only [userPropertyMatchSchema, Option.bind_eq_bind, Option.bind_eq_some_iff] at hw
    obtain ⟨field, -, key, -, operator, -, value, -, heq⟩ := hw
    split at heq
    · cases heq
      assumption
    · cases heq
  | _ => exact trivial

theorem runtimeRoutingRuleSchema_valid {v : Value} {rule : RoutingRule} (h : runtimeRoutingRuleSchema v = some rule) :
    rule.Valid := by
  simp only [runtimeRoutingRuleSchema, Option.bind_eq_bind, Option.bind_eq_some_iff] at h
  obtain ⟨field, -, id, -, priority, -, condition, hcondition, route, hroute, expiresAt, -, heq⟩ := h
  split at heq
  · cases heq
    rename_i hexpiring
    obtain ⟨w, hw⟩ := required_some hcondition
    obtain ⟨u, hu⟩ := required_some hroute
    exact ⟨runtimeRouteMatchSchema_valid hw, runtimeRouteSchema_valid hu, hexpiring⟩
  · cases heq

theorem runtimeRoutingPlanSchema_valid {v : Value} {plan : RoutingPlan} (h : runtimeRoutingPlanSchema v = some plan) :
    plan.Valid := by
  simp only [runtimeRoutingPlanSchema, Option.bind_eq_bind, Option.bind_eq_some_iff] at h
  obtain ⟨field, -, virtualModelId, -, version, -, etag, -, publishedAt, -, timezone, -, default, hdefault, rules,
    hrules, heq⟩ := h
  split at heq
  · cases heq
    rename_i hvalid
    obtain ⟨w, hw⟩ := required_some hdefault
    obtain ⟨u, hu⟩ := required_some hrules
    refine ⟨runtimeRouteSchema_valid hw, ?_, hvalid.2⟩
    intro rule hrule
    obtain ⟨t, ht⟩ := arraySchema_mem hu rule hrule
    exact runtimeRoutingRuleSchema_valid ht
  · cases heq

theorem runtimeSnapshotSchema_plans {isHttpUrl : String → Bool} {v : Value} {snapshot : Snapshot}
    (h : runtimeSnapshotSchema isHttpUrl v = some snapshot) : ∀ entry ∈ snapshot.routing, entry.2.Valid := by
  unfold runtimeSnapshotSchema at h
  obtain ⟨field, -, h⟩ := Option.bind_eq_some_iff.mp h
  obtain ⟨_, -, h⟩ := Option.bind_eq_some_iff.mp h
  obtain ⟨applicationId, -, h⟩ := Option.bind_eq_some_iff.mp h
  obtain ⟨version, -, h⟩ := Option.bind_eq_some_iff.mp h
  obtain ⟨etag, -, h⟩ := Option.bind_eq_some_iff.mp h
  obtain ⟨signature, -, h⟩ := Option.bind_eq_some_iff.mp h
  obtain ⟨expiresAt, -, h⟩ := Option.bind_eq_some_iff.mp h
  obtain ⟨connections, -, h⟩ := Option.bind_eq_some_iff.mp h
  obtain ⟨routing, hrouting, h⟩ := Option.bind_eq_some_iff.mp h
  obtain ⟨⟨aiuEnabled, aiuMode, policy⟩, -, h⟩ := Option.bind_eq_some_iff.mp h
  dsimp only at h
  obtain ⟨access, -, h⟩ := Option.bind_eq_some_iff.mp h
  obtain ⟨keys, -, heq⟩ := Option.bind_eq_some_iff.mp h
  split at heq
  · cases heq
    obtain ⟨w, hw⟩ := required_some hrouting
    cases w <;> simp only [recordSchema, reduceCtorEq] at hw
    intro entry hentry
    obtain ⟨field', -, hread⟩ := readAll_mem hw entry hentry
    split at hread
    · obtain ⟨plan, hplan, rfl⟩ := Option.map_eq_some_iff.mp hread
      exact runtimeRoutingPlanSchema_valid hplan
    · cases hread
  · cases heq

end TokenPilot.Runtime
