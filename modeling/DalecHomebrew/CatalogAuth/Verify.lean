import DalecHomebrew.CatalogKeys.Policy
import DalecHomebrew.CatalogService.Store

/-!
# Verification of catalog sets

`VerifyAccepted` of `internal/catalogauth/jws.go`: an envelope is accepted when one
of the accepted signers verifies, its payload is canonical, it is bound to the
expected request and core snapshot, and the current time is in its validity window.
The codecs of `internal/catalog` are the same parameter as in the model of the
service.
-/

namespace DalecHomebrew.CatalogAuth

open Catalog
open CatalogKeys (validateKeyID)
open CatalogService (Documents)
open Foundation Foundation.GoString Homebrew.Metadata

structure VerifiedSet where
  payload : CatalogSetPayload
  payloadRaw : Bytes
  signatures : List SignatureInfo

section Verify

variable {PublicKey : Type} (documents : Documents) (library : SignatureLibrary PublicKey)

/-- The accepted signers are tried in order until one verifies. -/
def verifyWithAny (envelope : Bytes) (keys : KeySet PublicKey) (unknown : UnknownSignaturePolicy)
    (seenKeyIDs verifyErrs : List String) :
    List String → Except String VerifiedJWS
  | [] => .error ("verify catalog-set JWS with accepted signers: " ++ join verifyErrs "\n")
  | keyID :: rest => do
      withContext "catalog-set accepted signer" (validateKeyID keyID)
      if keyID ∈ seenKeyIDs then
        throw ("catalog-set accepted signer " ++ quote keyID ++ " is duplicated")
      match verifyJWS library envelope keys
          { requiredKeyID := keyID, unknownSignatures := unknown } with
      | .ok verified => return verified
      | .error message =>
        verifyWithAny envelope keys unknown (keyID :: seenKeyIDs)
          (verifyErrs ++ ["kid " ++ quote keyID ++ ": " ++ message]) rest

/-- The time that a validity window is compared with: the wall clock in place of a zero time. -/
def comparedTime (now wallClock : Time) : Time := if now = 0 then wallClock else now

/-- `digest.Parse` and its checks: a canonical SHA-256 digest. -/
def checkExpected (name value : String) : Except String Unit :=
  if (validateSHA256Digest value).toBool then .ok ()
  else .error ("expected " ++ name ++ " digest is required and must be canonical sha256")

/-- The bindings and the validity window of a decoded payload. -/
def checkBindings (payload : CatalogSetPayload)
    (expectedRequestDigest expectedCoreSnapshotDigest : String) (now : Time) :
    Except String Unit := do
  if expectedRequestDigest ≠ "" ∧ payload.requestDigest ≠ expectedRequestDigest then
    throw ("catalog-set request digest " ++ payload.requestDigest ++ " does not match " ++
      expectedRequestDigest)
  if expectedCoreSnapshotDigest ≠ "" ∧
      payload.coreSnapshotDigest ≠ expectedCoreSnapshotDigest then
    throw ("catalog-set core snapshot digest " ++ payload.coreSnapshotDigest ++
      " does not match " ++ expectedCoreSnapshotDigest)
  if now < payload.generatedAt then throw "catalog-set is not valid yet"
  if payload.expiresAt ≤ now then throw "catalog-set expired"

/-- `VerifyAccepted`; `wallClock` is what `time.Now` answers. -/
def verifyAccepted (envelope : Bytes) (keys : KeySet PublicKey) (acceptedKeyIDs : List String)
    (expectedRequestDigest expectedCoreSnapshotDigest : String) (now wallClock : Time)
    (allowUnknownOverlap : Bool) :
    Except String VerifiedSet := do
  checkExpected "request" expectedRequestDigest
  checkExpected "core snapshot" expectedCoreSnapshotDigest
  let unknown : UnknownSignaturePolicy := if allowUnknownOverlap then .ignore else .reject
  if acceptedKeyIDs = [] then throw "catalog-set accepted signer IDs are empty"
  let verified ← verifyWithAny library envelope keys unknown [] [] acceptedKeyIDs
  let payload ← withContext "decode authenticated catalog-set payload"
    (documents.decodeCatalogSetPayload verified.payload)
  let canonical ← documents.canonicalCatalogSetPayload payload
  if verified.payload ≠ canonical then
    throw "authenticated catalog-set payload is not canonical"
  checkBindings payload expectedRequestDigest expectedCoreSnapshotDigest
    (comparedTime now wallClock)
  return { payload, payloadRaw := verified.payload, signatures := verified.signatures }

/-! ## What acceptance establishes -/

/--
A payload whose canonical bytes one of the accepted signers authenticates, bound to a
request and a core snapshot, inside its validity window.
-/
structure Accepted (keys : KeySet PublicKey) (acceptedKeyIDs : List String)
    (expectedRequestDigest expectedCoreSnapshotDigest : String) (time : Time)
    (set : VerifiedSet) : Prop where
  signer : ∃ keyID ∈ acceptedKeyIDs, ∃ effective key,
    effectiveKeys library keys = .ok effective ∧ effective.lookup keyID = some key ∧
      Authenticates library key set.payloadRaw
  canonical : documents.canonicalCatalogSetPayload set.payload = .ok set.payloadRaw
  requestDigest : set.payload.requestDigest = expectedRequestDigest
  coreSnapshotDigest : set.payload.coreSnapshotDigest = expectedCoreSnapshotDigest
  generated : set.payload.generatedAt ≤ time
  unexpired : time < set.payload.expiresAt

variable {documents library} {envelope : Bytes} {keys : KeySet PublicKey}

theorem verifyJWS_of_verifyWithAny {unknown : UnknownSignaturePolicy}
    {seenKeyIDs verifyErrs acceptedKeyIDs : List String} {verified : VerifiedJWS}
    (accepted : verifyWithAny library envelope keys unknown seenKeyIDs verifyErrs acceptedKeyIDs =
      .ok verified) :
    ∃ keyID ∈ acceptedKeyIDs, validateKeyID keyID = .ok () ∧
      verifyJWS library envelope keys { requiredKeyID := keyID, unknownSignatures := unknown } =
        .ok verified := by
  induction acceptedKeyIDs generalizing seenKeyIDs verifyErrs with
  | nil => cases accepted
  | cons keyID rest ih =>
    simp only [verifyWithAny, throw_bind, ite_error_eq_ok, bind_eq_ok, withContext_eq_ok]
      at accepted
    obtain ⟨⟨⟩, valid, -, tried⟩ := accepted
    cases outcome : verifyJWS library envelope keys
        { requiredKeyID := keyID, unknownSignatures := unknown } with
    | ok found =>
      rw [outcome] at tried
      cases tried
      exact ⟨keyID, List.mem_cons_self, valid, outcome⟩
    | error message =>
      rw [outcome] at tried
      obtain ⟨other, member, checked, verifies⟩ := ih tried
      exact ⟨other, List.mem_cons_of_mem _ member, checked, verifies⟩

theorem ne_empty_of_checkExpected {name value : String} (valid : checkExpected name value = .ok ()) :
    value ≠ "" := by
  rintro rfl
  rw [checkExpected, if_neg (by decide)] at valid
  cases valid

variable {expectedRequestDigest expectedCoreSnapshotDigest : String}

/-- `VerifyAccepted` returns only accepted payloads. -/
theorem accepted_of_verifyAccepted {acceptedKeyIDs : List String} {now wallClock : Time}
    {allowUnknownOverlap : Bool} {set : VerifiedSet}
    (accepted : verifyAccepted documents library envelope keys acceptedKeyIDs expectedRequestDigest
      expectedCoreSnapshotDigest now wallClock allowUnknownOverlap = .ok set) :
    Accepted documents library keys acceptedKeyIDs expectedRequestDigest expectedCoreSnapshotDigest
      (comparedTime now wallClock) set := by
  simp only [verifyAccepted, throw_bind, ite_error_eq_ok, bind_eq_ok, withContext_eq_ok,
    pure_eq_ok, not_not] at accepted
  obtain ⟨⟨⟩, requestExpected, ⟨⟩, coreExpected, -, verified, tried, payload, -, canonical,
    encoded, same, ⟨⟩, bound, rfl⟩ := accepted
  simp only [checkBindings, throw_bind, ite_error_eq_ok, ite_throw_eq_ok, not_and, not_not,
    Int.not_lt, Int.not_le] at bound
  obtain ⟨request, core, generated, unexpired⟩ := bound
  obtain ⟨keyID, member, valid, verifies⟩ := verifyJWS_of_verifyWithAny tried
  obtain ⟨effective, key, chosen, held, authentic⟩ :=
    authenticates_of_verifyJWS (by rintro rfl; exact absurd valid (by decide)) verifies
  refine ⟨⟨keyID, member, effective, key, chosen, held, authentic⟩, ?_, ?_, ?_, generated,
    unexpired⟩
  · exact same ▸ encoded
  · exact request (ne_empty_of_checkExpected requestExpected)
  · exact core (ne_empty_of_checkExpected coreExpected)

end Verify

end DalecHomebrew.CatalogAuth
