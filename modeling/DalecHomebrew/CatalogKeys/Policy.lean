import DalecHomebrew.Catalog.CatalogSet
import DalecHomebrew.Homebrew.Signatures

/-!
# The catalog key policy

`internal/catalogkeys/policy.go`: which keys may sign catalog sets, which service
and extractor builds are authorized, and below which sequence a tap catalog is a
rollback.  A policy that passes `validate` lists its floors in strictly ascending
order, so that its canonical form, which sorts them, keeps them.
-/

namespace DalecHomebrew.CatalogKeys

open Catalog Foundation Foundation.GoString Homebrew.Metadata

def schemaVersion : String := "dalec-homebrew-catalog-key-policy/v1"
def maxPolicyBytes : Nat := 2 ^ 20
def catalogSetJWSAlgorithm : String := "PS512"

structure SequenceFloor where
  tap : TapID
  minimum : UInt64
deriving DecidableEq

structure Key where
  id : String
  algorithm : String
  publicPEM : String
deriving DecidableEq

structure Policy where
  schemaVersion : String
  requiredKeyID : String
  overlapKeyIDs : List String := []
  keys : List Key
  catalogServiceDigests : List String
  catalogExtractorDigests : List String
  allowUnknownOverlapSigners : Bool := false
  sequenceFloors : List SequenceFloor := []
deriving DecidableEq

/-- The library functions that the handling of a policy calls. -/
structure PolicyLibrary (PublicKey : Type) where
  /-- `ParseRSAPublicKeyPEM`. -/
  parsePublicKey : String → Except String PublicKey
  /-- `N.BitLen()` of a key. -/
  bitLength : PublicKey → Nat
  /-- Whether the modulus is positive and the exponent at least three. -/
  isUsable : PublicKey → Bool
  /-- The hexadecimal SHA-256 digest of `x509.MarshalPKIXPublicKey`. -/
  fingerprint : PublicKey → Except String String
  /-- The JSON encoder without HTML escaping and without the final newline. -/
  encode : Policy → Bytes
  /-- The strict decoder: one value, no duplicate member, no unknown field. -/
  decode : Bytes → Except String Policy
  /-- `bytes.TrimSpace`. -/
  trimSpace : Bytes → Bytes
  /-- `digest.FromBytes(data).String()`. -/
  fromBytes : Bytes → String

/-! ## Validation -/

def isTokenCharacter (character : Char) : Bool :=
  character.isAlphanum || character == '.' || character == '_' || character == '-'

def safeToken (value : String) : Bool :=
  value != "" && byteLength value ≤ 128 && value.toList.all isTokenCharacter

/-- `ValidateKeyID`. -/
def validateKeyID (value : String) : Except String Unit :=
  if !safeToken value then .error ("key ID " ++ quote value ++ " is empty or unsafe") else .ok ()

/-- The value before a position, as the loops over sorted fields remember it. -/
def notAscending (values : List String) (index : Nat) (value : String) : Bool :=
  match index with
  | 0 => false
  | previous + 1 => decide (value ≤ values.getD previous "")

section Validate

variable {PublicKey : Type} (library : PolicyLibrary PublicKey)

/-- The keys before a position whose material has been recorded under a fingerprint. -/
def priorMaterial (earlier : List Key) (fingerprint : String) : Option Key :=
  earlier.find? fun key =>
    match library.parsePublicKey key.publicPEM with
    | .error _ => false
    | .ok publicKey =>
      !(library.bitLength publicKey < 2048 || (library.bitLength publicKey - 1 + 7) / 8 < 2 * 64 + 2) &&
        (library.fingerprint publicKey).toOption == some fingerprint

def materialFindings (earlier : List Key) (index : Nat) (key : Key) : List String :=
  match library.parsePublicKey key.publicPEM with
  | .error message => [indexed "keys" index ++ ": " ++ message]
  | .ok publicKey =>
    if library.bitLength publicKey < 2048 ∨
        (library.bitLength publicKey - 1 + 7) / 8 < 2 * 64 + 2 then
      [indexed "keys" index ++ " RSA modulus is too small for PS512"]
    else
      match library.fingerprint publicKey with
      | .error message => [indexed "keys" index ++ ": " ++ message]
      | .ok fingerprint =>
        match priorMaterial library earlier fingerprint with
        | some prior =>
          ["keys " ++ quote prior.id ++ " and " ++ quote key.id ++
            " contain identical public key material"]
        | none => []

def keyFindings (policy : Policy) : List String :=
  policy.keys.zipIdx.flatMap fun (key, index) =>
    finding (!safeToken key.id) (indexed "keys" index ++ ".id is empty or unsafe") ++
    finding (key.algorithm != catalogSetJWSAlgorithm)
      (indexed "keys" index ++ " algorithm " ++ quote key.algorithm ++ " is not PS512") ++
    finding ((policy.keys.take index).any fun other => other.id == key.id)
      ("duplicate key ID " ++ quote key.id) ++
    materialFindings library (policy.keys.take index) index key

def overlapFindings (policy : Policy) : List String :=
  policy.overlapKeyIDs.zipIdx.flatMap fun (keyID, index) =>
    finding (!safeToken keyID) (indexed "overlap_key_ids" index ++ " is empty or unsafe") ++
    finding (keyID == policy.requiredKeyID)
      ("overlap key " ++ quote keyID ++ " duplicates required_key_id") ++
    finding (!(policy.keys.any fun key => key.id == keyID))
      ("overlap key " ++ quote keyID ++ " is absent from keys") ++
    finding (notAscending policy.overlapKeyIDs index keyID)
      "overlap_key_ids must be sorted and unique"

def digestFindings (label : String) (values : List String) : List String :=
  values.zipIdx.flatMap fun (value, index) =>
    finding (!(validateSHA256Digest value).toBool)
      (label ++ " contains invalid sha256 digest " ++ quote value) ++
    finding (notAscending values index value) (label ++ " must be sorted and unique")

def floorFindings (policy : Policy) : List String :=
  policy.sequenceFloors.zipIdx.flatMap fun (floor, index) =>
    finding (!(TapID.validate floor.tap).toBool || TapID.isCore floor.tap || floor.minimum == 0)
      (indexed "sequence_floors" index ++ " is invalid") ++
    finding (notAscending (policy.sequenceFloors.map SequenceFloor.tap) index floor.tap)
      "sequence_floors must be sorted and unique by tap"

/-- `metadata.NewKeySetFromPEM`, over the map from key IDs to texts. -/
def newKeySetFromPEM (texts : Table String String) : Except String (KeySet PublicKey) := do
  let parsed ← texts.entries.mapM fun entry => do
    let key ← withContext ("parse verification key " ++ quote entry.1)
      (library.parsePublicKey entry.2)
    return (entry.1, key)
  if parsed = [] then throw "verification key set is empty"
  parsed.foldlM (fun keys (entry : String × PublicKey) =>
    if GoString.trimSpace entry.1 = "" then throw "verification key has an empty kid"
    else if !library.isUsable entry.2 then
      throw ("verification key " ++ quote entry.1 ++ " is not a valid RSA public key")
    else pure (keys.insert entry.1 entry.2)) ∅

/-- The map from key IDs to texts that a policy fills. -/
def Policy.pemTexts (policy : Policy) : Table String String :=
  policy.keys.foldl (fun texts key => texts.insert key.id key.publicPEM) ∅

/-- `Validate`. -/
def validate (policy : Policy) : Except String Unit :=
  joinErrors (
    finding (policy.schemaVersion != schemaVersion)
      ("unsupported schema_version " ++ quote policy.schemaVersion) ++
    finding (!safeToken policy.requiredKeyID) "required_key_id is empty or unsafe" ++
    finding (policy.keys == []) "keys must be non-empty" ++
    keyFindings library policy ++
    finding (!(policy.keys.any fun key => key.id == policy.requiredKeyID))
      ("required key " ++ quote policy.requiredKeyID ++ " is absent") ++
    overlapFindings policy ++
    reported ((newKeySetFromPEM library policy.pemTexts).map fun _ => ()) ++
    finding (policy.catalogServiceDigests == [] || policy.catalogExtractorDigests == [])
      "catalog service and extractor authorization sets must be non-empty" ++
    digestFindings "catalog_service_digests" policy.catalogServiceDigests ++
    digestFindings "catalog_extractor_digests" policy.catalogExtractorDigests ++
    floorFindings policy)

/-! ## The canonical form -/

def canonicalize (policy : Policy) : Policy :=
  { policy with
    keys := sortByKey Key.id policy.keys
    overlapKeyIDs := sortByKey (fun keyID => keyID) policy.overlapKeyIDs
    catalogServiceDigests := sortByKey (fun value => value) policy.catalogServiceDigests
    catalogExtractorDigests := sortByKey (fun value => value) policy.catalogExtractorDigests
    sequenceFloors := sortByKey SequenceFloor.tap policy.sequenceFloors }

/-- `Canonical`. -/
def canonical (policy : Policy) : Except String Bytes := do
  validate library (canonicalize policy)
  return library.encode (canonicalize policy)

/-- `Digest`. -/
def digest (policy : Policy) : Except String String := do
  let data ← canonical library policy
  return library.fromBytes data

/-- `Decode`. -/
def decode (data : Bytes) : Except String Policy := do
  if data.length = 0 ∨ maxPolicyBytes < data.length then
    throw ("catalog key policy size " ++ decimal data.length ++ " is outside 1.." ++
      decimal maxPolicyBytes)
  let decoded ← library.decode data
  let policy := canonicalize decoded
  validate library policy
  let canonical ← canonical library policy
  if library.trimSpace data ≠ canonical then throw "catalog key policy JSON is not canonical"
  return policy

/-! ## Methods -/

/-- `Policy.KeySet`. -/
def Policy.keySet (policy : Policy) : Except String (KeySet PublicKey) := do
  validate library policy
  newKeySetFromPEM library policy.pemTexts

/-- `Policy.AcceptedKeyIDs`. -/
def Policy.acceptedKeyIDs (policy : Policy) : List String :=
  policy.requiredKeyID :: policy.overlapKeyIDs

/-- `Policy.AuthorizePayload`. -/
def Policy.authorizePayload (policy : Policy) (payload : CatalogSetPayload) :
    Except String Unit := do
  validate library policy
  if payload.catalogService.digest ∉ policy.catalogServiceDigests then
    throw ("catalog service digest " ++ payload.catalogService.digest ++ " is not authorized")
  if payload.extractor.digest ∉ policy.catalogExtractorDigests then
    throw ("catalog extractor digest " ++ payload.extractor.digest ++ " is not authorized")

/-- `Policy.MinimumSequences`. -/
def Policy.minimumSequences (policy : Policy) : Table TapID UInt64 :=
  policy.sequenceFloors.foldl (fun floors floor => floors.insert floor.tap floor.minimum) ∅

end Validate

/-! ## Ascending fields -/

/-- The positional check says that the values ascend strictly. -/
theorem pairwise_of_notAscending {values : List String}
    (ascending : ∀ entry ∈ values.zipIdx, notAscending values entry.2 entry.1 = false) :
    values.Pairwise (· < ·) := by
  refine (List.isChain_iff_pairwise (R := fun left right : String => left < right)).mp
    (List.isChain_iff_getElem.mpr ?_)
  intro index inside
  have member : (values[index + 1], index + 1) ∈ values.zipIdx :=
    List.mem_zipIdx_iff_getElem?.mpr (List.getElem?_eq_getElem inside)
  have next := ascending _ member
  simp only [notAscending, decide_eq_false_iff_not, not_le] at next
  rwa [List.getD_eq_getElem?_getD, List.getElem?_eq_getElem (by omega), Option.getD_some] at next

/-- A list whose keys ascend is its own sorted form. -/
theorem sortByKey_eq_self {Item : Type} {key : Item → String} {items : List Item}
    (ascending : (items.map key).Pairwise (· < ·)) : sortByKey key items = items :=
  List.Pairwise.insertionSort_eq
    ((List.pairwise_map.mp ascending).imp fun {_ _} before => before.le)

section Accepted

variable {PublicKey : Type} {library : PolicyLibrary PublicKey} {policy : Policy}

/-- What a policy that passes `validate` guarantees to its users. -/
structure AcceptedPolicy (policy : Policy) : Prop where
  keysDistinct : (policy.keys.map Key.id).Nodup
  keysPresent : policy.keys ≠ []
  overlapAscending : policy.overlapKeyIDs.Pairwise (· < ·)
  floorsAscending : (policy.sequenceFloors.map SequenceFloor.tap).Pairwise (· < ·)

theorem acceptedPolicy_of_validate (valid : validate library policy = .ok ()) :
    AcceptedPolicy policy := by
  simp only [validate, joinErrors_eq_ok, List.append_eq_nil_iff, finding_eq_nil, keyFindings,
    overlapFindings, floorFindings, List.flatMap_eq_nil_iff] at valid
  obtain ⟨⟨⟨⟨⟨⟨⟨⟨⟨⟨-, -⟩, present⟩, keys⟩, -⟩, overlap⟩, -⟩, -⟩, -⟩, -⟩, floors⟩ := valid
  refine ⟨?_, ?_, ?_, ?_⟩
  · exact forall_zipIdx_fresh.mp fun entry member => (keys entry member).1.2
  · simpa using present
  · exact pairwise_of_notAscending fun entry member => (overlap entry member).2
  · refine pairwise_of_notAscending fun entry member => ?_
    rw [List.zipIdx_map] at member
    obtain ⟨original, inside, rfl⟩ := List.mem_map.mp member
    exact (floors original inside).2

/-- The canonical form keeps the floors of an accepted policy. -/
theorem sequenceFloors_canonicalize (accepted : AcceptedPolicy policy) :
    (canonicalize policy).sequenceFloors = policy.sequenceFloors :=
  sortByKey_eq_self accepted.floorsAscending

/-- The canonical form keeps the accepted signers of an accepted policy. -/
theorem acceptedKeyIDs_canonicalize (accepted : AcceptedPolicy policy) :
    (canonicalize policy).acceptedKeyIDs = policy.acceptedKeyIDs := by
  simp only [Policy.acceptedKeyIDs, canonicalize]
  rw [sortByKey_eq_self (by simpa using accepted.overlapAscending)]

end Accepted

end DalecHomebrew.CatalogKeys
