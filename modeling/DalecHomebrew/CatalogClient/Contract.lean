import DalecHomebrew.CatalogClient.Client

/-!
# What a resolved catalog set guarantees

Whatever the server answers, a result of `Client.Resolve` carries a payload that an
accepted key signed for this request and core snapshot, inside its validity window;
one fetched document for each reference of that payload, with the signed size and
digest; and no reference below a floor of the key policy or of the caller.  Signatures
are ideal: a key verifies only what its holder signed.
-/

namespace DalecHomebrew.CatalogClient

open Catalog CatalogAuth CatalogKeys Foundation Foundation.GoString Homebrew.Metadata

section Contract

variable {PublicKey : Type} {library : Library PublicKey}

/-! ## Floors and keys of a configuration -/

/-- The floor of a map for a tap; a missing entry is no floor. -/
def floorOf (floors : Table TapID UInt64) (tap : TapID) : UInt64 := (floors.lookup tap).getD 0

/-- The signers that a configuration accepts, with their keys. -/
def Config.Accepts (library : Library PublicKey) (config : Config PublicKey) (keyID : String)
    (key : PublicKey) : Prop :=
  match config.keyPolicy with
  | some policy =>
    keyID ∈ policy.acceptedKeyIDs ∧ ∃ entry ∈ policy.keys, entry.id = keyID ∧
        library.policies.parsePublicKey entry.publicPEM = .ok key
  | none =>
    keyID = config.requiredKeyID ∧ ∃ keys, effectiveKeys library.signatures config.keys = .ok keys ∧
        keys.lookup keyID = some key

/-- The JSON text of the canonical key policy is read back as that policy. -/
def Config.RoundTrips (library : Library PublicKey) (config : Config PublicKey) : Prop :=
  ∀ policy ∈ config.keyPolicy,
    library.policies.decode (library.policies.encode (canonicalize policy)) =
      .ok (canonicalize policy)

/-! ## Key sets -/

/-- A key set made from texts is not empty and holds only keys that were parsed from them. -/
theorem newKeySetFromPEM_spec {policies : PolicyLibrary PublicKey} {texts : Table String String}
    {keys : KeySet PublicKey} (made : newKeySetFromPEM policies texts = .ok keys) :
    keys.keys ≠ [] ∧ ∀ keyID key, keys.lookup keyID = some key →
        ∃ text, texts.lookup keyID = some text ∧ policies.parsePublicKey text = .ok key := by
  simp only [newKeySetFromPEM, throw_bind, ite_error_eq_ok, bind_eq_ok, mapM_eq_ok,
    withContext_eq_ok, pure_eq_ok] at made
  obtain ⟨parsed, each, nonempty, loop⟩ := made
  have inserted : keys = parsed.foldl (fun keys entry => keys.insert entry.1 entry.2) ∅ := by
    refine foldlM_eq_foldl ?_ loop
    intro source entry target step
    split at step
    · cases step
    · split at step
      · cases step
      · cases step
        rfl
  obtain ⟨known, present⟩ :=
    @Table.lookup_foldl_insertWith String PublicKey _ (String × PublicKey) Prod.fst Prod.snd parsed
  rw [← inserted] at known present
  refine ⟨?_, ?_⟩
  · obtain ⟨first, member⟩ := List.exists_mem_of_ne_nil parsed nonempty
    obtain ⟨key, held⟩ := present first member
    intro empty
    have inside := Table.mem_keys_iff.mpr ⟨key, held⟩
    rw [empty] at inside
    cases inside
  · intro keyID key held
    obtain ⟨entry, member, rfl, rfl⟩ := known keyID key held
    obtain ⟨source, among, key, made, rfl⟩ := exists_left_of_forall₂ each member
    exact ⟨source.2, AList.mem_lookup_iff.mpr among, made⟩

variable {policy : Policy}

/-! ## The key policy -/

theorem canonicalize_canonicalize (policy : Policy) :
    canonicalize (canonicalize policy) = canonicalize policy := by
  simp only [canonicalize, sortByKey_sortByKey]

/-- What `New` takes from a key policy. -/
structure Trusts (library : Library PublicKey) (config : Config PublicKey)
    (trust : Trust PublicKey) : Prop where
  accepts : ∀ keyID ∈ trust.acceptedKeyIDs, ∀ keys key,
    effectiveKeys library.signatures trust.keys = .ok keys → keys.lookup keyID = some key →
      config.Accepts library keyID key
  policyFloor : ∀ policy ∈ config.keyPolicy, ∀ floor ∈ policy.sequenceFloors,
    floor.minimum ≤ floorOf trust.floors floor.tap
  callerFloor : ∀ tap, floorOf config.minimumSequences tap ≤ floorOf trust.floors tap

variable {supplied policyFloors floors : Table TapID UInt64}

/-- The caller's floors that pass the check reach those of the policy. -/
theorem floorOf_le_of_checkFloors
    (checked : checkFloors supplied policyFloors = .ok ()) (tap : TapID) :
    floorOf policyFloors tap ≤ floorOf supplied tap := by
  cases found : policyFloors.lookup tap with
  | none =>
    simp only [floorOf, found, Option.getD_none]
    exact UInt64.zero_le
  | some minimum =>
    have each := forM_eq_ok.mp checked ⟨tap, minimum⟩ (AList.mem_lookup_iff.mp found)
    cases given : supplied.lookup tap with
    | none =>
      simp only [given] at each
      cases each
    | some floor =>
      simp only [given, ite_throw_eq_ok, UInt64.not_lt] at each
      simpa only [floorOf, found, given, Option.getD_some] using each

/-- The chosen floors reach those of the policy and those of the caller. -/
theorem floorOf_le_of_chooseFloors
    (chosen : chooseFloors supplied policyFloors = .ok floors) (tap : TapID) :
    floorOf policyFloors tap ≤ floorOf floors tap ∧ floorOf supplied tap ≤ floorOf floors tap := by
  rw [chooseFloors] at chosen
  by_cases empty : supplied.keys = []
  · rw [if_pos empty, Except.ok.injEq] at chosen
    have absent : supplied.lookup tap = none := by
      rw [AList.lookup_eq_none, AList.mem_keys, empty]
      exact List.not_mem_nil
    refine ⟨chosen ▸ UInt64.le_refl _, ?_⟩
    simp only [floorOf, absent, Option.getD_none]
    exact UInt64.zero_le
  · simp only [empty, if_false, bind_eq_ok, pure_eq_ok] at chosen
    obtain ⟨⟨⟩, checked, rfl⟩ := chosen
    exact ⟨floorOf_le_of_checkFloors checked tap, UInt64.le_refl _⟩

/-- The map of an accepted policy has every floor of the policy. -/
theorem floorOf_minimumSequences (accepted : AcceptedPolicy policy) {floor : SequenceFloor}
    (member : floor ∈ policy.sequenceFloors) :
    floorOf policy.minimumSequences floor.tap = floor.minimum := by
  have distinct : (policy.sequenceFloors.map SequenceFloor.tap).Nodup :=
    accepted.floorsAscending.imp ne_of_lt
  rw [floorOf, Policy.minimumSequences,
    (Table.lookup_foldl_insertWith_of_nodup distinct).mpr ⟨floor, member, rfl, rfl⟩]
  rfl

variable {config : Config PublicKey}

theorem trusts_of_trustPolicy {trust : Trust PublicKey}
    (configured : config.keyPolicy = some policy) (roundTrip : config.RoundTrips library)
    (made : trustPolicy library config policy = .ok trust) :
    Trusts library config trust := by
  simp only [trustPolicy, canonical, decode, Policy.keySet, throw_bind, ite_error_eq_ok,
    bind_eq_ok, withContext_eq_ok, pure_eq_ok] at made
  obtain ⟨⟨⟩, valid, digest, -, -, canonicalBytes, ⟨⟨⟩, -, rfl⟩, snapshot,
    ⟨-, decoded, read, ⟨⟩, -, -, -, -, rfl⟩, keys, ⟨⟨⟩, -, keySet⟩, floors, chosen, rfl⟩ := made
  rw [roundTrip policy configured, Except.ok.injEq] at read
  subst read
  rw [canonicalize_canonicalize] at keySet chosen ⊢
  have accepted := acceptedPolicy_of_validate valid
  have sameFloors : (canonicalize policy).minimumSequences = policy.minimumSequences := by
    rw [Policy.minimumSequences, sequenceFloors_canonicalize accepted, Policy.minimumSequences]
  rw [sameFloors] at chosen
  refine ⟨?_, ?_, ?_⟩
  · intro keyID member effective key held found
    obtain ⟨nonempty, parsed⟩ := newKeySetFromPEM_spec keySet
    simp only [effectiveKeys, nonempty, if_false, Except.ok.injEq] at held
    obtain ⟨text, given, parses⟩ := parsed keyID key (held ▸ found)
    obtain ⟨entry, among, named, rfl⟩ :=
      (@Table.lookup_foldl_insertWith _ _ _ Key Key.id Key.publicPEM _).1 keyID text given
    simp only [Config.Accepts, configured]
    refine ⟨?_, entry, mem_sortByKey.mp among, named, parses⟩
    rw [← acceptedKeyIDs_canonicalize accepted]
    exact member
  · intro other given floor member
    obtain rfl : policy = other := Option.some.inj (configured ▸ given)
    rw [← floorOf_minimumSequences accepted member]
    exact (floorOf_le_of_chooseFloors chosen floor.tap).1
  · intro tap
    exact (floorOf_le_of_chooseFloors chosen tap).2

theorem trusts_of_trust {made : Trust PublicKey} (roundTrip : config.RoundTrips library)
    (trusted : trust library config = .ok made) :
    Trusts library config made := by
  cases configured : config.keyPolicy with
  | some policy =>
    simp only [trust, configured] at trusted
    exact trusts_of_trustPolicy configured roundTrip trusted
  | none =>
    simp only [trust, configured, ite_error_eq_ok, Except.ok.injEq] at trusted
    obtain ⟨-, rfl⟩ := trusted
    refine ⟨?_, ?_, fun tap => UInt64.le_refl _⟩
    · intro keyID member keys key held found
      simp only [Config.Accepts, configured]
      exact ⟨List.mem_singleton.mp member, keys, held, found⟩
    · intro policy given
      rw [configured] at given
      cases given

/-- The copied floors are the floors that were trusted. -/
theorem lookup_of_copyFloor {copied : Table TapID UInt64}
    (loop : floors.entries.foldlM copyFloor ∅ = .ok copied) (tap : TapID) :
    floorOf copied tap = floorOf floors tap := by
  have inserted : copied =
      floors.entries.foldl (fun table entry => table.insert entry.1 entry.2) ∅ := by
    refine foldlM_eq_foldl ?_ loop
    intro source entry target step
    simp only [copyFloor, ite_error_eq_ok, Except.ok.injEq] at step
    exact step.2.symm
  have same : copied.lookup tap = floors.lookup tap := by
    rw [inserted]
    ext minimum
    rw [Table.lookup_foldl_insertWith_of_nodup floors.nodupKeys, ← Option.mem_def,
      AList.mem_lookup_iff]
    constructor
    · rintro ⟨entry, member, rfl, rfl⟩
      exact member
    · intro member
      exact ⟨_, member, rfl, rfl⟩
  rw [floorOf, floorOf, same]

variable {client : Client PublicKey}

/-- What a client that `New` returns was made from. -/
theorem trusts_of_new (roundTrip : config.RoundTrips library)
    (created : new library config = .ok client) :
    ∃ made, Trusts library config made ∧ client.keys = made.keys ∧
      client.acceptedKeyIDs = made.acceptedKeyIDs ∧
      ∀ tap, floorOf client.minimumSequence tap = floorOf made.floors tap := by
  simp only [new, throw_bind, ite_error_eq_ok, bind_eq_ok, withContext_eq_ok, pure_eq_ok] at created
  obtain ⟨origin, -, made, trusted, ⟨⟩, -, ⟨⟩, -, -, floors, loop, rfl⟩ := created
  exact ⟨made, trusts_of_trust roundTrip trusted, rfl, rfl, lookup_of_copyFloor loop⟩

/-! ## Fetched documents -/

/-- The document of a reference: the whole body of one response, of the signed size and digest. -/
def Delivered (library : Library PublicKey) (fetches : Nat → FetchTurn)
    (reference : CatalogReference) (document : TapCatalog) : Prop :=
  ∃ index reply, (fetches index).reply = .ok reply ∧ (reply.body.length : Int) = reference.size ∧
    library.documents.fromBytes reply.body = reference.sha256 ∧
    library.documents.decodeTapCatalog reply.body = .ok document

theorem readDocument_spec {reference : CatalogReference} {reply : Reply} {data : Bytes}
    (read : readDocument library reference reply = .ok data) :
    data = reply.body ∧ (reply.body.length : Int) = reference.size ∧
      library.documents.fromBytes reply.body = reference.sha256 := by
  simp only [readDocument, throw_bind, ite_error_eq_ok, pure_eq_ok, not_not] at read
  obtain ⟨-, -, -, -, size, digest, rfl⟩ := read
  have whole : reply.body.take (reference.size + 1).toNat = reply.body := by
    rw [List.length_take] at size
    exact List.take_of_length_le (by omega)
  rw [whole] at size digest
  exact ⟨whole, size, digest⟩

/-- What the loop over the references has established of those it has seen. -/
structure Fetched (library : Library PublicKey) (client : Client PublicKey)
    (fetches : Nat → FetchTurn) (seen : List (CatalogReference × Nat))
    (state : FetchLoop) : Prop where
  distinct : (seen.map fun entry => entry.1.tap.id).Nodup
  known : ∀ tap document, state.catalogs.lookup tap = some document →
    ∃ entry ∈ seen, entry.1.tap.id = tap
  delivered : ∀ entry ∈ seen, ∃ document, state.catalogs.lookup entry.1.tap.id = some document ∧
      Delivered library fetches entry.1 document
  floors : ∀ entry ∈ seen, floorOf client.minimumSequence entry.1.tap.id ≤ entry.1.sequence

variable {fetches : Nat → FetchTurn}

/-- One more reference. -/
theorem fetched_of_fetchCatalog {seen : List (CatalogReference × Nat)} {source target : FetchLoop}
    {entry : CatalogReference × Nat} (before : Fetched library client fetches seen source)
    (step : fetchCatalog library client fetches source entry = .ok target) :
    Fetched library client fetches (seen ++ [entry]) target := by
  simp only [fetchCatalog, throw_bind, ite_error_eq_ok, bind_eq_ok, withContext_eq_ok, pure_eq_ok,
    not_and, UInt64.not_lt] at step
  obtain ⟨⟨⟩, -, floor, -, ⟨⟩, -, reply, answered, data, read, document, decoded, ⟨⟩, -, fresh,
    rfl⟩ := step
  obtain ⟨rfl, size, digest⟩ := readDocument_spec read
  have absent : source.catalogs.lookup entry.1.tap.id = none := by
    simpa using fresh
  have new : ∀ other ∈ seen, other.1.tap.id ≠ entry.1.tap.id := by
    intro other member same
    obtain ⟨found, held, -⟩ := before.delivered other member
    rw [same, absent] at held
    cases held
  refine ⟨?_, ?_, ?_, ?_⟩
  · rw [List.map_append, List.map_singleton, List.nodup_append]
    refine ⟨before.distinct, List.nodup_singleton _, ?_⟩
    intro tap member other among
    obtain ⟨earlier, inside, rfl⟩ := List.mem_map.mp member
    rw [List.mem_singleton.mp among]
    exact new earlier inside
  · intro tap found held
    rcases Table.lookup_insert_eq_some.mp held with ⟨rfl, _⟩ | ⟨_, old⟩
    · exact ⟨entry, by simp, rfl⟩
    · obtain ⟨earlier, inside, named⟩ := before.known tap found old
      exact ⟨earlier, List.mem_append_left _ inside, named⟩
  · intro other member
    rcases List.mem_append.mp member with earlier | last
    · obtain ⟨found, held, delivered⟩ := before.delivered other earlier
      exact ⟨found, by rw [AList.lookup_insert_ne (new other earlier), held], delivered⟩
    · rw [List.mem_singleton.mp last]
      exact ⟨document, AList.lookup_insert _, entry.2, reply, answered, size, digest, decoded⟩
  · intro other member
    rcases List.mem_append.mp member with earlier | last
    · exact before.floors other earlier
    · rw [List.mem_singleton.mp last, floorOf]
      by_cases positive : 0 < (client.minimumSequence.lookup entry.1.tap.id).getD 0
      · exact floor positive
      · exact UInt64.le_trans (UInt64.not_lt.mp positive) UInt64.zero_le

/-- The whole loop. -/
theorem fetched_of_fetchCatalogs {references : List CatalogReference}
    {catalogs : Table TapID TapCatalog}
    (fetched : fetchCatalogs library client fetches references = .ok catalogs) :
    ∃ aggregate, Fetched library client fetches references.zipIdx { catalogs, aggregate } := by
  simp only [fetchCatalogs, bind_eq_ok, pure_eq_ok] at fetched
  obtain ⟨final, loop, rfl⟩ := fetched
  have started : Fetched library client fetches [] {} := by
    refine ⟨List.nodup_nil, ?_, ?_, ?_⟩
    · intro tap document held
      rw [AList.lookup_empty] at held
      cases held
    · intro entry member
      cases member
    · intro entry member
      cases member
  exact ⟨final.aggregate, foldlM_history (fun _ _ _ _ => fetched_of_fetchCatalog) loop started⟩

/-! ## The contract -/

/-- A key verifies only what its holder signed, and a digest stands for one message. -/
def IdealSignatures (signatures : SignatureLibrary PublicKey)
    (signed : PublicKey → Bytes → Prop) : Prop :=
  ∀ key message signature,
    signatures.verifyPSS key (signatures.sha512 message) signature = .ok () → signed key message

/-- Every behaviour of the server: what the client returns is signed, bound and not rolled back. -/
theorem resolve_contract (library : Library PublicKey) (signed : PublicKey → Bytes → Prop)
    (ideal : IdealSignatures library.signatures signed) (config : Config PublicKey)
    (roundTrip : config.RoundTrips library) (client : Client PublicKey)
    (created : new library config = .ok client) (request : Request) (environment : Environment)
    (result : Result) (resolved : resolve library client request environment = .ok result) :
    (∃ keyID key protectedText payloadRaw, config.Accepts library keyID key ∧
      library.documents.canonicalCatalogSetPayload result.payload = .ok payloadRaw ∧
      signed key (library.signatures.utf8 protectedText ++ [46] ++ payloadRaw)) ∧
    library.documents.requestDigest request = .ok result.payload.requestDigest ∧
    result.payload.coreSnapshotDigest = request.coreSnapshotDigest ∧
    result.payload.generatedAt ≤ comparedTime environment.now environment.wallClock ∧
    comparedTime environment.now environment.wallClock < result.payload.expiresAt ∧
    (result.payload.catalogs.map fun reference => reference.tap.id).Nodup ∧
    (∀ tap, tap ∈ result.catalogs.keys ↔
      ∃ reference ∈ result.payload.catalogs, reference.tap.id = tap) ∧
    (∀ reference ∈ result.payload.catalogs, ∃ document,
      result.catalogs.lookup reference.tap.id = some document ∧
        Delivered library environment.fetches reference document) ∧
    ∀ reference ∈ result.payload.catalogs,
      (∀ policy floor, config.keyPolicy = some policy → floor ∈ policy.sequenceFloors →
        floor.tap = reference.tap.id → floor.minimum ≤ reference.sequence) ∧
      ∀ minimum, config.minimumSequences.lookup reference.tap.id = some minimum →
        minimum ≤ reference.sequence := by
  simp only [resolve, throw_bind, ite_error_eq_ok, bind_eq_ok, withContext_eq_ok,
    pure_eq_ok] at resolved
  obtain ⟨requestDigest, digested, submitted, -, -, verified, accepted, ⟨⟩, -, payloadDigest, -, -,
    ⟨⟩, -, catalogs, fetched, rfl⟩ := resolved
  obtain ⟨made, trusts, keys, keyIDs, floors⟩ := trusts_of_new roundTrip created
  have authentic := accepted_of_verifyAccepted accepted
  obtain ⟨keyID, member, effective, key, chosen, held, protectedText, signature, verifies⟩ :=
    authentic.signer
  obtain ⟨aggregate, documents⟩ := fetched_of_fetchCatalogs fetched
  have reached : ∀ reference ∈ verified.payload.catalogs,
      ∃ entry ∈ verified.payload.catalogs.zipIdx, entry.1 = reference := by
    intro reference inside
    obtain ⟨index, found⟩ := List.mem_iff_getElem?.mp inside
    exact ⟨(reference, index), List.mem_zipIdx_iff_getElem?.mpr found, rfl⟩
  refine ⟨⟨keyID, key, protectedText, verified.payloadRaw, ?_, authentic.canonical,
    ideal key _ signature verifies⟩, ?_, authentic.coreSnapshotDigest, authentic.generated,
    authentic.unexpired, ?_, ?_, ?_, ?_⟩
  · exact trusts.accepts keyID (keyIDs ▸ member) effective key (keys ▸ chosen) held
  · rw [authentic.requestDigest]
    exact digested
  · have distinct := documents.distinct
    rw [← Function.comp_def (fun reference : CatalogReference => reference.tap.id) Prod.fst,
      ← List.map_map, List.zipIdx_map_fst] at distinct
    exact distinct
  · intro tap
    rw [Table.mem_keys_iff]
    constructor
    · rintro ⟨document, lookup⟩
      obtain ⟨entry, among, named⟩ := documents.known tap document lookup
      exact ⟨entry.1, List.fst_mem_of_mem_zipIdx among, named⟩
    · rintro ⟨reference, inside, rfl⟩
      obtain ⟨entry, among, rfl⟩ := reached reference inside
      obtain ⟨document, lookup, -⟩ := documents.delivered entry among
      exact ⟨document, lookup⟩
  · intro reference inside
    obtain ⟨entry, among, rfl⟩ := reached reference inside
    exact documents.delivered entry among
  · intro reference inside
    obtain ⟨entry, among, rfl⟩ := reached reference inside
    have above := documents.floors entry among
    rw [floors] at above
    refine ⟨fun policy floor configured member named => ?_, fun minimum given => ?_⟩
    · exact UInt64.le_trans (trusts.policyFloor policy configured floor member) (named ▸ above)
    · have caller := trusts.callerFloor entry.1.tap.id
      simp only [floorOf, given, Option.getD_some] at caller
      exact UInt64.le_trans caller above

end Contract

/-! ## A set that is accepted -/

namespace Sample

def digest (digit : Char) : String := "sha256:" ++ String.ofList (List.replicate 64 digit)

def commit : String := "71461c31e350cabf4e718a5e1331b39a395a6dc9"

def source : TapSource where
  id := "acme/tools"
  repository := "https://github.com/acme/homebrew-tools"
  commit := commit
  treeDigest := digest 'a'
  archiveDigest := digest 'a'

def tool : Catalog.Formula where
  id := "acme/tools/t"
  name := "t"
  homebrewFullName := "acme/tools/t"
  sourcePath := "t.rb"
  sourceDigest := digest 'a'
  stableVersion := "1"
  revision := 0
  versionScheme := 0

def tools : TapCatalog where
  schemaVersion := tapCatalogSchemaVersion
  tap := source
  publishedAt := 1
  sequence := 7
  formulae := [tool]

def reference : CatalogReference where
  tap := source
  publishedAt := 1
  sequence := 7
  url := "https://ghcr.io" ++ catalogDocumentPathPrefix ++ trimPrefix (digest 'c') "sha256:"
  size := 1
  sha256 := digest 'c'

def request : Request where
  schemaVersion := requestSchemaVersion
  targets := [{
    platform := { os := "linux", architecture := "amd64" }
    externalRoots := some ["acme/tools/t"] }]
  homebrewCommit := commit
  coreSnapshotDigest := digest 'a'

def payload : CatalogSetPayload where
  schemaVersion := catalogSetSchemaVersion
  requestDigest := digest 'b'
  coreSnapshotDigest := digest 'a'
  generatedAt := 2
  expiresAt := 4
  catalogService := { name := "service", version := "1", digest := digest 'a' }
  extractor := { name := "extractor", version := "1", digest := digest 'a' }
  catalogs := [reference]
  results := [{
    platform := { os := "linux", architecture := "amd64" }
    closure := {
      requested := ["acme/tools/t"], requestedMappings := none, normalizationTaps := none,
      nodes := [], installOrder := ["acme/tools/t"] }
    artifacts := [] }]

def policy : Policy where
  schemaVersion := schemaVersion
  requiredKeyID := "catalog-1"
  keys := [{ id := "catalog-1", algorithm := "PS512", publicPEM := "PUBLIC KEY" }]
  catalogServiceDigests := [digest 'a']
  catalogExtractorDigests := [digest 'a']
  sequenceFloors := [{ tap := "acme/tools", minimum := 5 }]

def signedResult : CatalogSetResult where
  schemaVersion := resultSchemaVersion
  requestDigest := digest 'b'
  payloadDigest := digest 'd'
  jws := [4]

def pending : Operation where
  schemaVersion := operationSchemaVersion
  id := "op-1"
  status := .pending
  retryAfterSeconds := 1

def completed : Operation where
  schemaVersion := operationSchemaVersion
  id := "op-1"
  status := .completed
  result := some signedResult

/-- The documents of this exchange, each with a one-byte encoding. -/
def documents : CatalogService.Documents where
  fromBytes := fun data =>
    if data = [1] then digest 'b' else if data = [3] then digest 'c' else digest 'd'
  decodeRequest := fun _ => .ok request
  canonicalRequest := fun _ => .ok [1]
  normalizedTargets := normalizedTargets
  decodeTapCatalog := fun _ => .ok tools
  canonicalTapCatalog := fun _ => .ok [3]
  canonicalPlatformResult := fun _ => .ok []
  validateCatalogSetPayload := fun _ => .ok ()
  decodeCatalogSetPayload := fun _ => .ok payload
  canonicalCatalogSetPayload := fun _ => .ok [2]
  validateCatalogReferenceOrigin := fun _ _ => .ok ()
  decodeReferencedTapCatalog := fun _ _ => .ok tools
  validateJWSShape := fun _ => .ok ()
  marshalOperation := fun _ => []
  marshalTapSource := fun _ => []
  verifyJWS := fun _ _ => .ok [2]
  sign := fun _ _ => .ok [4]

/-- The members of the envelope, of its one signature, and of the protected header. -/
def signatures : SignatureLibrary Unit where
  decodeJSONObject := fun data =>
    if data = [4] then
      .ok (AList.insert "payload" [10] (AList.insert "protected" [11]
        (AList.insert "signature" [12] ∅)))
    else if data = [5] then
      .ok (AList.insert "protected" [11] (AList.insert "signature" [12] ∅))
    else
      .ok (AList.insert "alg" [13] (AList.insert "b64" [14] (AList.insert "crit" [15]
        (AList.insert "kid" [16] ∅))))
  unmarshalString := fun raw =>
    if raw = [10] then .ok "payload"
    else if raw = [11] then .ok "header"
    else if raw = [12] then .ok "signature"
    else if raw = [13] then .ok "PS512"
    else .ok "catalog-1"
  unmarshalArray := fun _ => .error "not an array"
  unmarshalStrings := fun _ => .ok ["b64"]
  unmarshalBool := fun _ => .ok (some false)
  marshalObject := fun _ => .ok [5]
  decodePaddedURL := fun _ => .error "not padded"
  decodeRawURL := fun text => if text = "header" then .ok [6] else .ok [7]
  utf8 := fun text => if text = "payload" then [2] else [8]
  sha512 := id
  digestBytes := fun _ => digest 'e'
  verifyPSS := fun _ message signature =>
    if message = [8, 46, 2] ∧ signature = [7] then .ok () else .error "verification error"
  defaultKeySet := .error "no default key"

def policies : PolicyLibrary Unit where
  parsePublicKey := fun _ => .ok ()
  bitLength := fun _ => 2048
  isUsable := fun _ => true
  fingerprint := fun _ => .ok "fingerprint"
  encode := fun _ => [9]
  decode := fun _ => .ok policy
  trimSpace := id
  fromBytes := fun _ => digest 'f'

def library : Library Unit where
  net := {
    parseURL := fun raw =>
      let path := trimPrefix raw "https://ghcr.io"
      .ok { scheme := "https", host := "ghcr.io", hostname := "ghcr.io", path, escapedPath := path }
    isIP := fun _ => false }
  documents := documents
  signatures := signatures
  policies := policies
  urlString := fun url => "https://" ++ url.host
  unmarshalOperation := fun data => if data = [20] then .ok pending else .ok completed
  unmarshalCatalogSetResult := fun _ => .ok signedResult

/-- The caller has no floor, so that the one of the policy is in force. -/
def config : Config Unit where
  origin := "https://ghcr.io"
  keys := ∅
  requiredKeyID := ""
  allowKeyOverlap := false
  keyPolicy := some policy
  keyPolicyDigest := ""
  pollingDeadline := 0
  minimumSequences := ∅

def client : Client Unit where
  origin := "https://ghcr.io"
  keys := AList.insert "catalog-1" () ∅
  acceptedKeyIDs := ["catalog-1"]
  allowKeyOverlap := false
  keyPolicy := some policy
  pollingDeadline := defaultPollingDeadline
  minimumSequence := AList.insert "acme/tools" 5 ∅

/-- A submission that is accepted, one poll, and the document of the one reference. -/
def environment : Environment where
  posted := .ok { statusCode := 202, body := [20] }
  polls := [{ sleep := fun _ => .ok (), reply := .ok { statusCode := 200, body := [21] } }]
  now := 3
  wallClock := 0
  fetches := fun _ => { reply := .ok { statusCode := 200, contentLength := 1, body := [3] } }

def result : Result where
  payload := payload
  catalogs := AList.insert "acme/tools" tools ∅
  jws := [4]
  signatures := [{
    keyID := "catalog-1", algorithm := "PS512", verified := true, protectedDigest := digest 'e',
    signatureDigest := digest 'e' }]
  minimumSequences := AList.insert "acme/tools" 5 ∅
  setPayloadDigest := digest 'd'
  setEnvelopeDigest := digest 'd'

theorem created : new library config = .ok client := by decide +kernel

theorem resolved : resolve library client request environment = .ok result := by decide +kernel

/-- The holder of the key has signed one message. -/
def signed (_ : Unit) (message : Bytes) : Prop := message = [8, 46, 2]

theorem ideal : IdealSignatures signatures signed := by
  intro key message signature verifies
  by_contra other
  rw [signed] at other
  simp [signatures, other] at verifies

end Sample

/-- A set that is delivered after one poll: its payload is signed and reaches the floor of the
policy. -/
theorem resolve_contract_polled :
    (∃ protectedText,
      Sample.signed () (Sample.signatures.utf8 protectedText ++ [46] ++ [2])) ∧
      (∀ reference ∈ Sample.payload.catalogs, 5 ≤ reference.sequence) := by
  obtain ⟨⟨keyID, key, protectedText, payloadRaw, -, canonical, signed⟩, -, -, -, -, -, -, -,
      floors⟩ :=
    resolve_contract Sample.library Sample.signed Sample.ideal Sample.config
      (by
        rintro policy configured
        obtain rfl := Option.some.inj configured
        rfl)
      Sample.client Sample.created Sample.request Sample.environment Sample.result Sample.resolved
  obtain rfl : [2] = payloadRaw := Except.ok.inj canonical
  refine ⟨⟨protectedText, signed⟩, ?_⟩
  intro reference member
  refine (floors reference member).1 Sample.policy _ rfl (List.mem_singleton_self _) ?_
  rw [List.mem_singleton.mp member]
  rfl

/-! ## Waiting -/

/-- The wait of an operation without its own delay. -/
theorem pollDelay_of_unset {operation : Operation} (unset : operation.retryAfterSeconds = 0)
    (headerRetry : Int) :
    pollDelay operation headerRetry =
      min 60000000000 (if headerRetry ≤ 0 then 2000000000 else headerRetry) := by
  have own : durationProduct operation.retryAfterSeconds second = 0 := by
    rw [unset]
    rfl
  simp only [pollDelay, own, if_true]
  exact min_def_lt _ _ |>.symm

/--
The client waits `min n 60` seconds exactly when the header asks for at most a minute, or
for a number of seconds that still is at least a minute as a 64-bit count of nanoseconds.
-/
theorem pollDelay_iff (operation : Operation) (header : String) (seconds : Int)
    (unset : operation.retryAfterSeconds = 0) (parsed : atoi (trimSpace header) = some seconds)
    (positive : 1 ≤ seconds) :
    pollDelay operation (parseRetryAfter header) = min seconds 60 * second ↔
      seconds ≤ 60 ∨
        (60 * 10 ^ 9 ≤ seconds * 10 ^ 9 % 2 ^ 64 ∧ seconds * 10 ^ 9 % 2 ^ 64 < 2 ^ 63) := by
  have requested : parseRetryAfter header = (seconds * 10 ^ 9).bmod (2 ^ 64) := by
    simp only [parseRetryAfter, parsed]
    exact if_neg (by omega)
  rw [pollDelay_of_unset unset, requested, Int.bmod_def]
  simp only [second, Nat.cast_pow, Nat.cast_ofNat]
  -- the product modulo 2 ^ 64, which is the product itself up to a minute
  have short : seconds ≤ 60 → seconds * 10 ^ 9 % 2 ^ 64 = seconds * 10 ^ 9 := by omega
  have below : seconds * 10 ^ 9 % 2 ^ 64 < 2 ^ 64 := by omega
  generalize seconds * 10 ^ 9 % 2 ^ 64 = wrapped at short below ⊢
  change @Eq Int _ _ ↔ _
  split_ifs <;> omega

def patient : Operation := { Sample.pending with retryAfterSeconds := 0 }

theorem pollDelay_iff_week : pollDelay patient (parseRetryAfter "604800") = 60 * second :=
  (pollDelay_iff patient "604800" 604800 rfl (by decide) (by decide)).mpr (.inr (by decide))

theorem pollDelay_overflow :
    atoi (trimSpace "9223372037") = some 9223372037 ∧
      pollDelay patient (parseRetryAfter "9223372037") = 2 * second ∧
      pollDelay patient (parseRetryAfter "9223372036") = 60 * second := by
  decide

end DalecHomebrew.CatalogClient
