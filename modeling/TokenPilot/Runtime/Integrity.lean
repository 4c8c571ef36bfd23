/-
  TokenPilot.Runtime.Integrity — `runtime-snapshot-integrity.ts`: the canonical form, the
  fingerprint, signing and verification of a snapshot.

  `canonical` sorts the keys of every object by their UTF-16 units and writes strings and
  numbers as `JSON.stringify` does. The SHA-256 hex digest is a parameter. Signing takes the
  fingerprint of the value it is given and then parses it; verification parses first and takes
  the fingerprint of what the schema returned.

  `sign_verifies`: a value that parsing leaves as it is verifies after signing, from any
  JSON text of the signed snapshot. `canonical_iff`: two JSON values have one canonical form
  exactly when they differ in the order of keys only.
-/

import TokenPilot.Library.Numeral
import TokenPilot.Runtime.SchemaLaws

namespace TokenPilot.Runtime

open Library

def canonical {σ : Type} [Text σ] (value : Json σ Decimal) : List Char :=
  Json.canonical Numeral.jsNumber Text.units value

theorem canonical_chars (value : Value) : canonical (value.mapStrings asciiChars) = canonical value :=
  @Json.canonical_mapStrings _ _ _ asciiChars _ _ (fun s => congrArg (List.map Char.toNat) (asciiChars_eq s)) _ value

/-- `JSON.stringify` of a value. -/
def stringify (value : Value) : List Char := Json.render Numeral.jsNumber value

/-- The SHA-256 hex digest of a text. -/
abbrev Digest := List Char → String

/-- Its digests have 64 hexadecimal digits. -/
def HexDigest (digest : Digest) : Prop := ∀ text, sha256FingerprintPattern ("sha256:" ++ digest text) = true

/-- 64 lower-case hexadecimal digits. -/
def isHexDigest (digits : String) : Bool :=
  (asciiChars digits).all (fun c => isDigit c || 'a' ≤ c && c ≤ 'f') && (asciiChars digits).length = 64

theorem fingerprint_of {digits : String} (h : isHexDigest digits = true) :
    sha256FingerprintPattern ("sha256:" ++ digits) = true := by
  have hdrop : ("sha256:" ++ digits).toList.drop 7 = digits.toList := by
    rw [String.toList_append]
    exact List.drop_left' (by decide)
  have hhead : "sha256:".toList.isPrefixOf ("sha256:" ++ digits).toList = true := by
    rw [String.toList_append]
    simp
  unfold isHexDigest at h
  rw [asciiChars_eq] at h
  unfold sha256FingerprintPattern
  rw [hhead, hdrop, Bool.true_and]
  exact h

inductive IntegrityError where
  | invalid
  | etagMismatch
  | signatureMismatch
  deriving DecidableEq, Repr

section

variable (digest : Digest) (isHttpUrl : String → Bool)

def runtimeFingerprint (value : Value) : String := "sha256:" ++ digest (canonical value)

def bindingSignature (applicationId etag : String) : String :=
  runtimeFingerprint digest (.obj [("application_id", .str applicationId), ("etag", .str etag)])

/-- The value with its fingerprint and signature, before it is parsed. -/
def stamped (value : UnsignedSnapshot) : Snapshot :=
  { value with
    etag := runtimeFingerprint digest value.toJson
    signature := bindingSignature digest value.applicationId (runtimeFingerprint digest value.toJson) }

def signRuntimeSnapshot (value : UnsignedSnapshot) : Option Snapshot :=
  runtimeSnapshotSchema isHttpUrl (stamped digest value).toJson

def verifyRuntimeSnapshot (value : Value) : Except IntegrityError Snapshot :=
  match runtimeSnapshotSchema isHttpUrl value with
  | none => .error .invalid
  | some parsed =>
    if runtimeFingerprint digest parsed.toUnsignedSnapshot.toJson ≠ parsed.etag then .error .etagMismatch
    else if bindingSignature digest parsed.applicationId parsed.etag ≠ parsed.signature then .error .signatureMismatch
    else .ok parsed

variable {digest isHttpUrl}

theorem verify_ok {value : Value} {parsed : Snapshot} (hparse : runtimeSnapshotSchema isHttpUrl value = some parsed)
    (hetag : parsed.etag = runtimeFingerprint digest parsed.toUnsignedSnapshot.toJson)
    (hsignature : parsed.signature = bindingSignature digest parsed.applicationId parsed.etag) :
    verifyRuntimeSnapshot digest isHttpUrl value = .ok parsed := by
  unfold verifyRuntimeSnapshot
  rw [hparse]
  dsimp only
  rw [if_neg (not_not.mpr hetag.symm), if_neg (not_not.mpr hsignature.symm)]

theorem verified_normal {value : Value} {parsed : Snapshot}
    (h : verifyRuntimeSnapshot digest isHttpUrl value = .ok parsed) : parsed.normal = parsed := by
  unfold verifyRuntimeSnapshot at h
  split at h
  · cases h
  · rename_i source hparse
    split at h
    · cases h
    · split at h
      · cases h
      · cases h
        exact (runtimeSnapshotSchema_lawful isHttpUrl).fixed hparse

/-- Signing a value that parsing leaves alone only stamps it. -/
theorem signed_eq {value : UnsignedSnapshot} {snapshot : Snapshot} (hnormal : value.normal = value)
    (h : signRuntimeSnapshot digest isHttpUrl value = some snapshot) : snapshot = stamped digest value := by
  have hread := (runtimeSnapshotSchema_lawful isHttpUrl).normalises _ _ h
  rw [hread]
  unfold Snapshot.normal stamped
  dsimp only
  rw [hnormal]

theorem stringify_injective : Function.Injective stringify := by
  intro a b h
  have hrender : Json.render Numeral.jsNumber a ++ [] = Json.render Numeral.jsNumber b ++ [] := by
    rw [List.append_nil, List.append_nil]
    exact h
  have hmap := (Json.render_inj Numeral.jsNumber_numeric Numeral.jsNumber_numeric a b [] [] (by simp [Json.Ends])
    (by simp [Json.Ends]) hrender).1
  exact Json.map_injective Numeral.jsNumber_injective hmap

variable (digest isHttpUrl) in
/-- Every value with the JSON text of the snapshot verifies as the snapshot. -/
def Reverified (snapshot : Snapshot) : Prop :=
  ∀ value : Value, stringify value = stringify snapshot.toJson →
    verifyRuntimeSnapshot digest isHttpUrl value = .ok snapshot

theorem sign_verifies {value : UnsignedSnapshot} {snapshot : Snapshot} (hnormal : value.normal = value)
    (h : signRuntimeSnapshot digest isHttpUrl value = some snapshot) : Reverified digest isHttpUrl snapshot := by
  have heq := signed_eq hnormal h
  intro json htext
  rw [stringify_injective htext]
  have hstable := (runtimeSnapshotSchema_lawful isHttpUrl).stable _ _ h
  exact verify_ok hstable (by rw [heq]; rfl) (by rw [heq]; rfl)

end

theorem canonical_iff {σ : Type} [Text σ] {a : Json σ Decimal} (ha : a.Distinct) (b : Json σ Decimal) :
    canonical a = canonical b ↔ Json.KeyOrder a b := by
  exact Json.canonical_eq_iff Numeral.jsNumber_numeric Numeral.jsNumber_injective Text.units_injective ha b

end TokenPilot.Runtime
