/-
  TokenPilot.Quota.ReservationToken — the tokens of reservations
  (apps/api/src/runtime/user-reservation-token.ts, and the claims and the lineage check of
  user-reservation-domain.ts).

  A token is `tpur1.`, the claims as JSON in base64url, a dot, and the HMAC of that text in
  base64url. Strings are kept as UTF-16 units, so a claim may hold an unpaired surrogate. The
  HMAC and the hash of a token are parameters; the signing key is configured.

  - `verify_sign`: what is signed is verified to the same claims exactly when they meet the
    schema of the claims; the code signs without checking it.
  - `verified_sign_iff`: a text that is verified is the one that is signed for its claims
    exactly when its payload is one that is signed, and its signature the canonical base64url.
    Nothing checks the latter: every token has a second text (`padded_token`).
  - `lineage_iff`: of the texts that are verified, the lineage check takes only the one token
    that was issued for the row, since it compares the hash of the text.
-/

import TokenPilot.Library.Bytes
import TokenPilot.Library.JsonText
import TokenPilot.Management.DateTimes
import TokenPilot.Quota.Reservations

namespace TokenPilot.Quota.Token

open TokenPilot.Library

/-! ## Claims -/

/-- `Omit<UserReservationClaims, "version" | "key_version">` -/
structure ReservationTerms where
  reservationId : Units
  applicationId : Units
  userId : Units
  quotaId : Units
  operationId : Units
  virtualModel : Units
  candidateModelIds : List Units
  reservedAiuMicros : Units
  expiresAt : Units
  deriving DecidableEq

/-- Claims, with the version of the key; their own version is a constant. -/
structure UserReservationClaims where
  keyVersion : Units
  terms : ReservationTerms
  deriving DecidableEq

/-- No claim is a number, so all numbers are alike. -/
abbrev Json := Library.Json Units Unit

def unitsOf (s : String) : Units := (Text.units s).map UInt16.ofNat

/-- The characters of a string, for the patterns, which take only ASCII. -/
def textOf (s : Units) : String :=
  String.ofList ((codePoints (s.map UInt16.toNat)).map fun n => if isHigh n ∨ isLow n then replacement else Char.ofNat n)

def tokenVersion : String := "user-aiu-reservation-1"

def claimsJson (claims : UserReservationClaims) : Json :=
  .obj [(unitsOf "version", .str (unitsOf tokenVersion)), (unitsOf "key_version", .str claims.keyVersion),
    (unitsOf "reservation_id", .str claims.terms.reservationId),
    (unitsOf "application_id", .str claims.terms.applicationId), (unitsOf "user_id", .str claims.terms.userId),
    (unitsOf "quota_id", .str claims.terms.quotaId), (unitsOf "operation_id", .str claims.terms.operationId),
    (unitsOf "virtual_model", .str claims.terms.virtualModel),
    (unitsOf "candidate_model_ids", .arr (claims.terms.candidateModelIds.map .str)),
    (unitsOf "reserved_aiu_micros", .str claims.terms.reservedAiuMicros),
    (unitsOf "expires_at", .str claims.terms.expiresAt)]

/-- `JSON.stringify` -/
def stringify (v : Json) : List Char := v.render fun _ => ['0']

/-! ## The schema -/

def claimKeys : List String :=
  ["version", "key_version", "reservation_id", "application_id", "user_id", "quota_id", "operation_id", "virtual_model",
    "candidate_model_ids", "reserved_aiu_micros", "expires_at"]

def string : Json → Option Units
  | .str s => some s
  | _ => none

def strings : Json → Option (List Units)
  | .arr items => items.mapM string
  | _ => none

/-- The strings of an object with the keys of claims and no others. -/
def readClaims : Json → Option UserReservationClaims
  | .obj fields => do
    let field (key : String) : Option Json := fields.lookup (unitsOf key)
    if fields.all fun f => (claimKeys.map unitsOf).contains f.1 then
      let version ← (field "version").bind string
      let keyVersion ← (field "key_version").bind string
      let reservationId ← (field "reservation_id").bind string
      let applicationId ← (field "application_id").bind string
      let userId ← (field "user_id").bind string
      let quotaId ← (field "quota_id").bind string
      let operationId ← (field "operation_id").bind string
      let virtualModel ← (field "virtual_model").bind string
      let candidateModelIds ← (field "candidate_model_ids").bind strings
      let reservedAiuMicros ← (field "reserved_aiu_micros").bind string
      let expiresAt ← (field "expires_at").bind string
      if version = unitsOf tokenVersion then
        some ⟨keyVersion, reservationId, applicationId, userId, quotaId, operationId, virtualModel, candidateModelIds,
          reservedAiuMicros, expiresAt⟩
      else none
    else none
  | _ => none

def within (least most : Nat) (s : Units) : Bool := least ≤ s.length && s.length ≤ most

def isUuid (s : Units) : Bool := Runtime.uuidPattern (textOf s)

/-- `/^(?:0|[1-9][0-9]*)$/` -/
def isMicros (s : Units) : Bool :=
  let t := (textOf s).toList
  t = ['0'] || (t.head?.any (· ≠ '0') && t.all Runtime.isDigit)

def isDateTime (s : Units) : Bool := (Management.dateTimeSchema (.str (textOf s))).isSome

/-- What the schema checks of the strings. -/
def claimsChecked (claims : UserReservationClaims) : Bool :=
  within 1 64 claims.keyVersion && isUuid claims.terms.reservationId && isUuid claims.terms.applicationId &&
    isUuid claims.terms.userId && isUuid claims.terms.quotaId && within 1 256 claims.terms.operationId &&
    within 1 120 claims.terms.virtualModel && claims.terms.candidateModelIds.all isUuid &&
    1 ≤ claims.terms.candidateModelIds.length && claims.terms.candidateModelIds.length ≤ 32 &&
    isMicros claims.terms.reservedAiuMicros && isDateTime claims.terms.expiresAt

def claimsSchema (v : Json) : Option UserReservationClaims := (readClaims v).filter claimsChecked

/-! ## The codec -/

section Codec

/-- The signing key and its version, from the environment. -/
structure SigningConfiguration where
  aiuReservationSigningKey : String
  aiuReservationKeyVersion : String

variable (hmac : String → List Char → List UInt8)

def SigningConfiguration.keyVersion (configuration : SigningConfiguration) : Units :=
  unitsOf configuration.aiuReservationKeyVersion

/-- The claims that are signed for terms. -/
def SigningConfiguration.claims (configuration : SigningConfiguration) (terms : ReservationTerms) : UserReservationClaims :=
  ⟨configuration.keyVersion, terms⟩

def payloadOf (claims : UserReservationClaims) : List Char := base64urlEncode (utf8Encode (stringify (claimsJson claims)))

def tokenPrefix : List Char := ['t', 'p', 'u', 'r', '1']

def sign (configuration : SigningConfiguration) (terms : ReservationTerms) : String :=
  let payload := payloadOf (configuration.claims terms)
  let signature := base64urlEncode (hmac configuration.aiuReservationSigningKey payload)
  String.ofList (['.'].intercalate [tokenPrefix, payload, signature])

/-- `JSON.parse(Buffer.from(payload, "base64url").toString("utf8"))` -/
def readPayload (payload : List Char) : Option Json := Json.parse (fun _ => ()) (utf8Decode (base64urlDecode payload))

def verify (configuration : SigningConfiguration) (token : String) : Except TokenFailure UserReservationClaims :=
  match token.toList.splitOn '.' with
  | [head, payload, signature] =>
    if head = tokenPrefix ∧ base64urlDecode signature = hmac configuration.aiuReservationSigningKey payload then
      match (readPayload payload).bind claimsSchema with
      | none => .error .invalid
      | some claims => if claims.keyVersion = configuration.keyVersion then .ok claims else .error .keyNoLongerActive
    else .error .invalid
  | _ => .error .invalid

end Codec

/-! ## Rows -/

/-- What the lineage check reads of a reservation, which nothing writes after it is made. -/
structure ReservationRow where
  id : Units
  applicationId : Units
  userId : Units
  quotaId : Units
  operationId : Units
  virtualModel : Units
  candidateModelIdsJson : Json
  reservedAiuMicros : Int
  expiresAt : Timestamp
  tokenHash : String

/-- `value.filter((value) => typeof value === "string").sort()` -/
def candidates : Json → List Units
  | .arr items => (items.filterMap string).insertionSort fun a b => a.map UInt16.toNat ≤ b.map UInt16.toNat
  | _ => []

def reservationClaims (row : ReservationRow) : ReservationTerms where
  reservationId := row.id
  applicationId := row.applicationId
  userId := row.userId
  quotaId := row.quotaId
  operationId := row.operationId
  virtualModel := row.virtualModel
  candidateModelIds := candidates row.candidateModelIdsJson
  reservedAiuMicros := unitsOf (toString row.reservedAiuMicros)
  expiresAt := unitsOf (Runtime.isoString row.expiresAt)

def assertReservationTokenLineage (hash : String → String) (row : ReservationRow) (claims : UserReservationClaims)
    (token : String) : Except Failure Unit :=
  require (hash token = row.tokenHash ∧
      stringify (claimsJson claims) = stringify (claimsJson ⟨claims.keyVersion, reservationClaims row⟩))
    (.conflict "Reservation token lineage is invalid")

/-- The row of a reservation, with the hash of the token that is signed for it. -/
def issue (hmac : String → List Char → List UInt8) (hash : String → String) (configuration : SigningConfiguration)
    (row : ReservationRow) : ReservationRow :=
  { row with tokenHash := hash (sign hmac configuration (reservationClaims row)) }

/-! ## What is signed is read back -/

theorem unitsOf_injective : Function.Injective unitsOf := by
  intro a b h
  have hsmall (s : String) : ∀ n ∈ Text.units s, n < 0x10000 := by
    intro n hn
    obtain ⟨point, hpoint, hunit⟩ := List.mem_flatMap.mp hn
    have hbound := Text.points_lt s point hpoint
    unfold utf16 at hunit
    split at hunit
    · rw [List.mem_singleton.mp hunit]
      assumption
    · simp only [List.mem_cons, List.not_mem_nil, or_false] at hunit
      omega
  have hback (s : String) : (unitsOf s).map UInt16.toNat = Text.units s := by
    unfold unitsOf
    rw [List.map_map]
    refine (List.map_congr_left fun n hn => ?_).trans (List.map_id _)
    show (UInt16.ofNat n).toNat = n
    rw [UInt16.toNat_ofNat', Nat.mod_eq_of_lt (hsmall s n hn)]
  apply Text.units_injective
  show Text.units a = Text.units b
  rw [← hback a, ← hback b, h]

theorem unitsOf_beq (a b : String) : (unitsOf a == unitsOf b) = decide (a = b) := by
  by_cases h : a = b
  · rw [h]
    simp
  · have hne : unitsOf a ≠ unitsOf b := fun heq => h (unitsOf_injective heq)
    simp [h, hne]

theorem claimsJson_fields (claims : UserReservationClaims) : ∃ fields, claimsJson claims = .obj fields ∧
    fields.map Prod.fst = claimKeys.map unitsOf := ⟨_, rfl, rfl⟩

theorem claimsJson_distinct (claims : UserReservationClaims) : (claimsJson claims).Distinct := by
  have hkeys : (claimKeys.map unitsOf).Nodup := List.Nodup.map unitsOf_injective (by decide)
  refine ⟨hkeys, ?_⟩
  rw [Json.distinctFields_iff]
  intro f hf
  simp only [List.mem_cons, List.not_mem_nil, or_false] at hf
  rcases hf with rfl | rfl | rfl | rfl | rfl | rfl | rfl | rfl | rfl | rfl | rfl <;>
    first
    | trivial
    | exact (Json.distinctItems_iff _).mpr fun a ha => by
        obtain ⟨s, -, rfl⟩ := List.mem_map.mp ha
        trivial

theorem strings_map (l : List Units) : strings (.arr (l.map .str)) = some l := by
  unfold strings
  simp only
  induction l with
  | nil => rfl
  | cons s l ih =>
    rw [List.map_cons, List.mapM_cons, ih]
    rfl

theorem readClaims_claimsJson (claims : UserReservationClaims) : readClaims (claimsJson claims) = some claims := by
  obtain ⟨fields, hfields, hkeys⟩ := claimsJson_fields claims
  have hall : fields.all (fun f => (claimKeys.map unitsOf).contains f.1) = true := by
    rw [List.all_eq_true]
    intro f hf
    rw [List.contains_iff_mem, ← hkeys]
    exact List.mem_map_of_mem hf
  unfold claimsJson at hfields
  cases hfields
  unfold readClaims claimsJson
  simp only [hall, ↓reduceIte, List.lookup_cons, unitsOf_beq, decide_true, decide_false, String.reduceEq, Option.bind_some,
    string, strings_map, Option.bind_eq_bind]

theorem parse_claimsJson (claims : UserReservationClaims) : readPayload (payloadOf claims) = some (claimsJson claims) := by
  unfold readPayload payloadOf stringify
  rw [base64urlDecode_encode, utf8Decode_encode]
  exact Json.parse_render (fun _ => ⟨by decide, rfl⟩) (claimsJson_distinct claims)

theorem payload_injective : Function.Injective payloadOf := by
  intro a b h
  have hjson : claimsJson a = claimsJson b := by
    have := congrArg readPayload h
    rw [parse_claimsJson, parse_claimsJson] at this
    exact Option.some.inj this
  have hread := congrArg readClaims hjson
  rw [readClaims_claimsJson, readClaims_claimsJson] at hread
  exact Option.some.inj hread

section Codec

variable {hmac : String → List Char → List UInt8} {configuration : SigningConfiguration}

theorem sign_split (hmac : String → List Char → List UInt8) (configuration : SigningConfiguration) (terms : ReservationTerms) :
    (sign hmac configuration terms).toList.splitOn '.' =
      [tokenPrefix, payloadOf (configuration.claims terms),
        base64urlEncode (hmac configuration.aiuReservationSigningKey (payloadOf (configuration.claims terms)))] := by
  unfold sign
  rw [String.toList_ofList]
  apply List.splitOn_intercalate
  · intro l hl
    simp only [List.mem_cons, List.not_mem_nil, or_false] at hl
    rcases hl with rfl | rfl | rfl
    · decide
    · exact fun hdot => base64urlEncode_no_dot _ _ hdot rfl
    · exact fun hdot => base64urlEncode_no_dot _ _ hdot rfl
  · simp

/-- What is signed is verified to the same claims exactly when they meet the schema. -/
theorem verify_sign (terms : ReservationTerms) :
    verify hmac configuration (sign hmac configuration terms) = .ok (configuration.claims terms) ↔
      claimsChecked (configuration.claims terms) = true := by
  have hschema : (readPayload (payloadOf (configuration.claims terms))).bind claimsSchema =
      (some (configuration.claims terms)).filter claimsChecked := by
    rw [parse_claimsJson, Option.bind_some]
    unfold claimsSchema
    rw [readClaims_claimsJson]
  unfold verify
  rw [sign_split]
  simp only [true_and, base64urlDecode_encode, ↓reduceIte, hschema]
  by_cases hchecked : claimsChecked (configuration.claims terms) = true
  · rw [Option.filter_some, if_pos hchecked]
    simp only [hchecked, iff_true]
    exact if_pos rfl
  · rw [Option.filter_some, if_neg hchecked]
    simp [hchecked]

/-- What is verified has three parts: the payload is read as the claims, and the signature as
    the HMAC of the payload. -/
theorem verify_ok {token : String} {claims : UserReservationClaims} (h : verify hmac configuration token = .ok claims) :
    ∃ payload signature, token.toList.splitOn '.' = [tokenPrefix, payload, signature] ∧
      base64urlDecode signature = hmac configuration.aiuReservationSigningKey payload ∧
      (readPayload payload).bind claimsSchema = some claims ∧ claims.keyVersion = configuration.keyVersion := by
  unfold verify at h
  split at h
  · rename_i head payload signature hsplit
    split at h
    · rename_i hsigned
      obtain ⟨rfl, hsignature⟩ := hsigned
      split at h
      · cases h
      · rename_i claims' hclaims
        split at h
        · rename_i hversion
          cases h
          exact ⟨payload, signature, hsplit, hsignature, hclaims, hversion⟩
        · cases h
    · cases h
  · cases h

/-- A text with the payload that is signed and the canonical signature. -/
def CanonicalToken (token : String) : Prop := ∃ payload signature,
  token.toList.splitOn '.' = [tokenPrefix, payload, signature] ∧ (∃ claims, payload = payloadOf claims) ∧ Canonical signature

theorem verified_payload {payload : List Char} {claims claims' : UserReservationClaims}
    (h : (readPayload payload).bind claimsSchema = some claims) (hpayload : payload = payloadOf claims') : claims = claims' := by
  rw [hpayload, parse_claimsJson, Option.bind_some] at h
  unfold claimsSchema at h
  rw [readClaims_claimsJson] at h
  exact (Option.some.inj (Option.filter_eq_some_iff.mp h).1).symm

/-- A text that is verified is the token that is signed for its claims exactly when it is canonical. -/
theorem verified_sign_iff {token : String} {claims : UserReservationClaims} (h : verify hmac configuration token = .ok claims) :
    token = sign hmac configuration claims.terms ↔ CanonicalToken token := by
  obtain ⟨payload, signature, hsplit, hsignature, hclaims, hversion⟩ := verify_ok h
  have hown : configuration.claims claims.terms = claims := by
    unfold SigningConfiguration.claims
    rw [← hversion]
  constructor
  · intro heq
    refine ⟨_, _, heq ▸ sign_split hmac configuration claims.terms, ⟨_, rfl⟩, canonical_encode _⟩
  · rintro ⟨payload', signature', hsplit', ⟨claims', hpayload⟩, hcanonical⟩
    rw [hsplit] at hsplit'
    simp only [List.cons.injEq, and_true, true_and] at hsplit'
    obtain ⟨rfl, rfl⟩ := hsplit'
    have hsame := verified_payload hclaims hpayload
    apply String.toList_injective
    unfold sign
    rw [String.toList_ofList, hown, hsame, ← hpayload, ← hsignature, hcanonical, ← hsplit]
    exact (List.intercalate_splitOn '.').symm

/-- Every token that is verified has a second text, with a padding, that is verified as well. -/
theorem padded_token (terms : ReservationTerms) (hchecked : claimsChecked (configuration.claims terms) = true) :
    verify hmac configuration (sign hmac configuration terms ++ "=") = .ok (configuration.claims terms) ∧
      sign hmac configuration terms ++ "=" ≠ sign hmac configuration terms := by
  have htext : (sign hmac configuration terms ++ "=").toList = ['.'].intercalate [tokenPrefix,
      payloadOf (configuration.claims terms),
      base64urlEncode (hmac configuration.aiuReservationSigningKey (payloadOf (configuration.claims terms))) ++ ['=']] := by
    unfold sign
    rw [String.toList_append, String.toList_ofList]
    simp [List.intercalate]
  have hsplit : (sign hmac configuration terms ++ "=").toList.splitOn '.' = [tokenPrefix,
      payloadOf (configuration.claims terms),
      base64urlEncode (hmac configuration.aiuReservationSigningKey (payloadOf (configuration.claims terms))) ++ ['=']] := by
    rw [htext]
    apply List.splitOn_intercalate
    · intro l hl
      simp only [List.mem_cons, List.not_mem_nil, or_false] at hl
      rcases hl with rfl | rfl | rfl
      · decide
      · exact fun hdot => base64urlEncode_no_dot _ _ hdot rfl
      · intro hdot
        rcases List.mem_append.mp hdot with hdot | hdot
        · exact base64urlEncode_no_dot _ _ hdot rfl
        · revert hdot
          decide
    · simp
  have hunpadded := (@verify_sign hmac _ terms).mpr hchecked
  constructor
  · unfold verify at hunpadded ⊢
    rw [sign_split] at hunpadded
    rw [hsplit]
    simp only [true_and, base64urlDecode_encode, base64urlDecode_padded, ↓reduceIte] at hunpadded ⊢
    exact hunpadded
  · intro heq
    have hlength := congrArg (fun s : String => s.toList.length) heq
    simp at hlength

theorem sign_injective {issuer issuer' : SigningConfiguration} {terms terms' : ReservationTerms}
    (h : sign hmac issuer terms = sign hmac issuer' terms') : issuer.keyVersion = issuer'.keyVersion ∧ terms = terms' := by
  have hsplit := sign_split hmac issuer terms
  rw [h, sign_split] at hsplit
  simp only [List.cons.injEq, and_true, true_and] at hsplit
  have hclaims := payload_injective hsplit.1
  exact ⟨(congrArg UserReservationClaims.keyVersion hclaims).symm, (congrArg UserReservationClaims.terms hclaims).symm⟩

/-- Of what is verified, the lineage check takes only the token that was issued for the row. -/
theorem lineage_iff {hash : String → String} (hhash : Function.Injective hash) (issuer : SigningConfiguration)
    (row : ReservationRow) {token : String} {claims : UserReservationClaims} (h : verify hmac configuration token = .ok claims) :
    assertReservationTokenLineage hash (issue hmac hash issuer row) claims token = .ok () ↔
      token = sign hmac issuer (reservationClaims row) := by
  have hrow : reservationClaims (issue hmac hash issuer row) = reservationClaims row := rfl
  unfold assertReservationTokenLineage
  constructor
  · intro hlineage
    exact hhash (require_ok hlineage).1
  · intro htoken
    obtain ⟨payload, signature, hsplit, -, hclaims, -⟩ := verify_ok h
    rw [htoken, sign_split] at hsplit
    simp only [List.cons.injEq, and_true, true_and] at hsplit
    have hsame := verified_payload hclaims hsplit.1.symm
    refine require_of _ ⟨congrArg hash htoken, ?_⟩
    rw [hrow, hsame]
    rfl

/-- Round trips, accepted texts and lineage: signing and verifying give the claims back exactly
    when these meet the schema, a verified text is the signed one exactly when it is canonical,
    and the lineage check takes exactly the token of the row. -/
theorem reservation_tokens (hmac : String → List Char → List UInt8) (configuration : SigningConfiguration) :
    (∀ terms, verify hmac configuration (sign hmac configuration terms) = .ok (configuration.claims terms) ↔
      claimsChecked (configuration.claims terms) = true) ∧
    (∀ token claims, verify hmac configuration token = .ok claims →
      (token = sign hmac configuration claims.terms ↔ CanonicalToken token)) ∧
    (∀ hash : String → String, Function.Injective hash → ∀ issuer row token claims,
      verify hmac configuration token = .ok claims →
      (assertReservationTokenLineage hash (issue hmac hash issuer row) claims token = .ok () ↔
        token = sign hmac issuer (reservationClaims row))) ∧
    ∀ issuer issuer' terms terms', sign hmac issuer terms = sign hmac issuer' terms' → terms = terms' :=
  ⟨verify_sign, fun _ _ h => verified_sign_iff h, fun _ hhash issuer row _ _ h => lineage_iff hhash issuer row h,
    fun _ _ _ _ h => (sign_injective h).2⟩

def sampleTerms : ReservationTerms where
  reservationId := unitsOf "018f3c1e-0000-7000-8000-000000000001"
  applicationId := unitsOf "018f3c1e-0000-7000-8000-000000000002"
  userId := unitsOf "018f3c1e-0000-7000-8000-000000000003"
  quotaId := unitsOf "018f3c1e-0000-7000-8000-000000000004"
  operationId := unitsOf "call-1"
  virtualModel := unitsOf "chat"
  candidateModelIds := [unitsOf "018f3c1e-0000-7000-8000-000000000005"]
  reservedAiuMicros := unitsOf "5"
  expiresAt := unitsOf "2026-07-18T00:05:00.000Z"

def sampleConfiguration : SigningConfiguration := ⟨"reservation-signing-key-of-32-characters", "current"⟩

/-- The HMAC-SHA-256 of the payload of the sample. -/
def sampleHmac (_key : String) (_payload : List Char) : List UInt8 :=
  [183, 164, 153, 50, 113, 59, 26, 190, 170, 34, 30, 98, 188, 162, 150, 109, 60, 133, 43, 49,
    12, 163, 72, 78, 14, 155, 46, 137, 113, 135, 184, 230]

theorem sample_checked : claimsChecked (sampleConfiguration.claims sampleTerms) = true := by decide +kernel

theorem sample_token_verified : verify sampleHmac sampleConfiguration (sign sampleHmac sampleConfiguration sampleTerms) =
    .ok (sampleConfiguration.claims sampleTerms) :=
  ((reservation_tokens sampleHmac sampleConfiguration).1 sampleTerms).mpr sample_checked

/-- The sample with a padding is verified to the same claims, and is not what is signed for them. -/
theorem padded_sample_verified :
    verify sampleHmac sampleConfiguration (sign sampleHmac sampleConfiguration sampleTerms ++ "=") =
        .ok (sampleConfiguration.claims sampleTerms) ∧
      sign sampleHmac sampleConfiguration sampleTerms ++ "=" ≠ sign sampleHmac sampleConfiguration sampleTerms :=
  padded_token sampleTerms sample_checked

end Codec

end TokenPilot.Quota.Token
