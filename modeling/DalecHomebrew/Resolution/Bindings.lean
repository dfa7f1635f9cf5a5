import DalecHomebrew.Resolution.Accepted

/-!
# What an accepted record binds together

`ValidateV2` of `internal/resolution/v2.go` spreads the identity of a bottle over
its transport, its provenance and, for a bottle that was derived from a prebuilt
archive, its derivation.  `ArtifactBound` collects what the three validators
establish about one node: all of them speak about the same bytes.
-/

namespace DalecHomebrew.Resolution

open Foundation Foundation.GoString Homebrew

/-! ## The statement -/

/-- The digest and the size that each member of a transport promises. -/
def BottleTransport.promises (transport : BottleTransport) : List (String × Int) :=
  (transport.oci.toList.map fun oci => (oci.layer.digest, oci.layer.size)) ++
  (transport.https.toList.map fun https => (https.sha256, https.expectedSize)) ++
  transport.localArtifact.toList.map fun artifact => (artifact.sha256, artifact.size)

/-- What a derivation says about its bottle and about the archive it was made from. -/
structure DerivationBound (bottle : BottleV2) (derivation : PrebuiltDerivationV2) : Prop where
  tag : derivation.derivedBottle.tag = bottle.tag
  filename : derivation.derivedBottle.filename = bottle.filename
  sha256 : derivation.derivedBottle.sha256 = bottle.sha256
  size : derivation.derivedBottle.size = bottle.size
  verification : derivation.derivedBottle.verification = bottle.verification
  /-- The archive is fetched over HTTPS; no other member of the transport is ever read. -/
  source : ∃ https, derivation.source.transport.https = some https ∧
    https.sha256 = derivation.source.sha256 ∧ https.expectedSize = derivation.source.size

/-- The digest that a verified provenance statement has to be about. -/
def BottleV2.subject (bottle : BottleV2) : String :=
  match bottle.prebuiltDerivation with
  | some derivation => derivation.source.sha256
  | none => bottle.sha256

structure ArtifactBound (node : NodeV2) : Prop where
  /-- Exactly one member is set, and it promises the bytes of the bottle. -/
  transport : node.bottle.transport.promises = [(node.bottle.sha256, node.bottle.size)]
  provenance : ∀ verified, node.provenance.verified = some verified →
    verified.subjectDigest = node.bottle.subject
  derivation : ∀ derivation, node.bottle.prebuiltDerivation = some derivation →
    DerivationBound node.bottle derivation

/-! ## Accepted bottles -/

section Bottle

variable {libraries : Libraries} {platform : Platform} {id : FormulaID} {bottle : BottleV2}
  {executablePaths : List String} {components : ComponentsV2} {metadataCommit : String}
  {transport : BottleTransport}

/-- The parts of a bottle that `validateBottleV2` has nothing to object to. -/
structure AcceptedBottle (libraries : Libraries) (platform : Platform) (id : FormulaID)
    (bottle : BottleV2) (executablePaths : List String) (components : ComponentsV2)
    (metadataCommit : String) : Prop where
  members : bottle.transport.members = 1
  header : bottleHeaderFindings libraries id bottle = []
  oci : ∀ transport, bottle.transport.oci = some transport →
    ociFindings libraries platform id bottle transport = []
  https : ∀ transport, bottle.transport.https = some transport →
    httpsFindings libraries platform id bottle transport = []
  localArtifact : ∀ transport, bottle.transport.localArtifact = some transport →
    localFindings libraries platform id bottle transport = []
  derivation : ∀ derivation, bottle.prebuiltDerivation = some derivation →
    validatePrebuiltDerivationV2 libraries platform id bottle derivation executablePaths
      components.catalogServiceOrigin components.tapPolicyDigest metadataCommit = .ok ()

theorem acceptedBottle_of_validate
    (valid : (validateBottleV2 libraries platform id bottle executablePaths components
      metadataCommit).2 = .ok ()) :
    AcceptedBottle libraries platform id bottle executablePaths components metadataCommit := by
  simp only [validateBottleV2] at valid
  split at valid
  · simp at valid
  case isFalse members =>
      simp only [joinErrors_eq_ok, List.append_eq_nil_iff, List.flatMap_eq_nil_iff,
        Option.mem_toList, nested_eq_nil] at valid
      obtain ⟨⟨⟨⟨⟨header, -⟩, oci⟩, https⟩, localArtifact⟩, derivation⟩ := valid
      exact ⟨not_not.mp members, header, oci, https, localArtifact, derivation⟩

theorem digest_of_headerFindings (header : bottleHeaderFindings libraries id bottle = []) :
    validateDigest libraries bottle.sha256 = .ok () := by
  simp only [bottleHeaderFindings, List.append_eq_nil_iff, nested_eq_nil] at header
  exact header.1.1.1.2

/-- The formula path of an accepted bottle is absent, or clean and relative. -/
theorem formulaPath_of_headerFindings (header : bottleHeaderFindings libraries id bottle = []) :
    bottle.bottleFormulaPath = "" ∨ GoPath.isAbs bottle.bottleFormulaPath = false ∧
      GoPath.clean bottle.bottleFormulaPath = bottle.bottleFormulaPath := by
  simp only [bottleHeaderFindings, List.append_eq_nil_iff] at header
  have evidence := header.1.1.2
  split at evidence
  · simp only [deferredFindings, List.append_eq_nil_iff, finding_eq_nil, Bool.or_eq_false_iff,
      bne_eq_false_iff_eq] at evidence
    obtain ⟨-, ⟨⟨⟨⟨-, formulaPath⟩, -⟩, -⟩, -⟩, -⟩ := evidence
    exact .inl formulaPath
  simp only [verifiedFindings, List.append_eq_nil_iff] at evidence
  have source := evidence.1.1.1.2
  unfold bottleSourceFindings at source
  split at source
  · simp only [List.append_eq_nil_iff, finding_eq_nil, Bool.or_eq_false_iff,
      bne_eq_false_iff_eq] at source
    exact .inl source.2.2.2
  split at source
  · simp only [List.append_eq_nil_iff, finding_eq_nil, Bool.or_eq_false_iff,
      bne_eq_false_iff_eq] at source
    exact .inl source.2.2
  split at source
  · cases source
  · simp only [List.append_eq_nil_iff, finding_eq_nil, Bool.or_eq_false_iff,
      bne_eq_false_iff_eq] at source
    exact .inr ⟨source.2.1.1.2, source.2.1.2⟩

theorem promise_of_ociFindings {transport : OCITransport}
    (none : ociFindings libraries platform id bottle transport = []) :
    (transport.layer.digest, transport.layer.size) = (bottle.sha256, bottle.size) := by
  simp only [ociFindings, List.append_eq_nil_iff, finding_eq_nil, bne_eq_false_iff_eq] at none
  obtain ⟨⟨⟨⟨-, size⟩, -⟩, digest⟩, -⟩ := none
  rw [size, digest]

theorem promise_of_httpsFindings {transport : HTTPSTransport}
    (none : httpsFindings libraries platform id bottle transport = []) :
    (transport.sha256, transport.expectedSize) = (bottle.sha256, bottle.size) := by
  simp only [httpsFindings, List.append_eq_nil_iff, finding_eq_nil, bne_eq_false_iff_eq] at none
  obtain ⟨⟨⟨⟨⟨⟨⟨⟨⟨⟨⟨-, size⟩, -⟩, digest⟩, -⟩, -⟩, -⟩, -⟩, -⟩, -⟩, -⟩, -⟩ := none
  rw [size, digest]

theorem promise_of_localFindings {transport : LocalTransport}
    (none : localFindings libraries platform id bottle transport = []) :
    (transport.sha256, transport.size) = (bottle.sha256, bottle.size) := by
  simp only [localFindings, List.append_eq_nil_iff, finding_eq_nil, Bool.or_eq_false_iff,
    bne_eq_false_iff_eq] at none
  obtain ⟨⟨⟨-, ⟨digest, size⟩, -⟩, -⟩, -⟩ := none
  rw [digest, size]

/-- A transport with one member makes one promise. -/
theorem BottleTransport.promises_eq {promise : String × Int} (members : transport.members = 1)
    (oci : ∀ oci, transport.oci = some oci → (oci.layer.digest, oci.layer.size) = promise)
    (https : ∀ https, transport.https = some https → (https.sha256, https.expectedSize) = promise)
    (artifact : ∀ artifact, transport.localArtifact = some artifact →
      (artifact.sha256, artifact.size) = promise) :
    transport.promises = [promise] := by
  obtain ⟨_ | first, _ | second, _ | third⟩ := transport <;>
    simp_all [BottleTransport.members, BottleTransport.promises]

theorem BottleTransport.artifactDigest_eq {digest : String}
    {size : Int} (promised : transport.promises = [(digest, size)]) :
    transport.artifactDigest = digest := by
  obtain ⟨_ | first, _ | second, _ | third⟩ := transport <;>
    simp_all [BottleTransport.promises, BottleTransport.artifactDigest]

theorem AcceptedBottle.promises_eq
    (accepted : AcceptedBottle libraries platform id bottle executablePaths components
      metadataCommit) :
    bottle.transport.promises = [(bottle.sha256, bottle.size)] :=
  BottleTransport.promises_eq accepted.members
    (fun _ set => promise_of_ociFindings (accepted.oci _ set))
    (fun _ set => promise_of_httpsFindings (accepted.https _ set))
    (fun _ set => promise_of_localFindings (accepted.localArtifact _ set))

end Bottle

/-! ## Derivations -/

section Derivation

variable {libraries : Libraries} {platform : Platform} {id : FormulaID} {bottle : BottleV2}
  {derivation : PrebuiltDerivationV2} {executablePaths : List String}
  {origin tapPolicyDigest metadataCommit : String}

theorem identity_of_validatePrebuiltHTTPSTransportV2 {label filename checksum : String}
    {transport : HTTPSTransport} {size : Int}
    (valid : validatePrebuiltHTTPSTransportV2 libraries id label transport filename size checksum =
      .ok ()) : transport.sha256 = checksum ∧ transport.expectedSize = size := by
  simp only [validatePrebuiltHTTPSTransportV2, joinErrors_eq_ok, List.append_eq_nil_iff,
    finding_eq_nil, Bool.or_eq_false_iff, bne_eq_false_iff_eq] at valid
  obtain ⟨⟨⟨⟨⟨⟨-, ⟨size, digest⟩, -⟩, -⟩, -⟩, -⟩, -⟩, -⟩ := valid
  exact ⟨digest, size⟩

/-- What `validatePrebuiltDerivationV2` establishes about paths, transports and identities. -/
structure AcceptedDerivation (libraries : Libraries) (bottle : BottleV2)
    (derivation : PrebuiltDerivationV2) : Prop where
  sourceDigest : validateDigest libraries derivation.source.sha256 = .ok ()
  sourceOCI : derivation.source.transport.oci = none
  sourcePath : validateContainedPrebuiltPathV2 derivation.payload.sourcePath = .ok ()
  destinationPath : ∃ name, derivation.payload.destinationPath = "bin/" ++ name ∧
    validateContainedPrebuiltPathV2 derivation.payload.destinationPath = .ok ()
  formulaPath : ∃ name, GoPath.base derivation.formulaSource.transport.path = name ++ ".rb" ∧
    validateContainedPrebuiltPathV2 derivation.formulaSource.transport.path = .ok ()
  bound : DerivationBound bottle derivation

theorem acceptedDerivation_of_validate (readable : isCanonicalFormulaID id = true)
    (valid : validatePrebuiltDerivationV2 libraries platform id bottle derivation executablePaths
      origin tapPolicyDigest metadataCommit = .ok ()) :
    AcceptedDerivation libraries bottle derivation := by
  simp only [validatePrebuiltDerivationV2, joinErrors_eq_ok, List.append_eq_nil_iff,
    nested_eq_nil, finding_eq_nil, Bool.or_eq_false_iff, bne_eq_false_iff_eq] at valid
  obtain ⟨⟨⟨⟨⟨⟨⟨⟨⟨⟨⟨⟨⟨⟨⟨⟨⟨⟨⟨⟨⟨⟨⟨⟨-, sourceDigest⟩, -⟩, transport⟩, -⟩, -⟩, -⟩, sourcePath⟩,
    destinationPath⟩, destination⟩, -⟩, -⟩, -⟩, -⟩, -⟩, -⟩, -⟩, formula⟩, -⟩, -⟩, -⟩, -⟩, -⟩,
    relation⟩, -⟩ := valid
  obtain ⟨⟨⟨⟨tag, filename⟩, sha256⟩, size⟩, verification⟩ := relation
  obtain ⟨identity, parsed⟩ := exists_eq_ok_of_toBool readable
  rw [parsed] at destination formula
  simp only [List.append_eq_nil_iff, finding_eq_nil, Bool.or_eq_false_iff,
    bne_eq_false_iff_eq] at destination formula
  have contained :
      validateContainedPrebuiltPathV2 derivation.formulaSource.transport.path = .ok () := by
    cases read : validateContainedPrebuiltPathV2 derivation.formulaSource.transport.path with
    | error message => simp [read, Except.toBool] at formula
    | ok _ => rfl
  obtain ⟨sourceOCI, https, set, digest, expectedSize⟩ : derivation.source.transport.oci = none ∧
      ∃ https, derivation.source.transport.https = some https ∧
        https.sha256 = derivation.source.sha256 ∧
        https.expectedSize = derivation.source.size := by
    cases oci : derivation.source.transport.oci with
    | some found => simp [oci] at transport
    | none =>
      cases set : derivation.source.transport.https with
      | none => simp [oci, set] at transport
      | some https =>
        simp only [oci, set, reported_eq_nil] at transport
        exact ⟨rfl, https, rfl, identity_of_validatePrebuiltHTTPSTransportV2 transport⟩
  exact ⟨sourceDigest, sourceOCI, sourcePath, ⟨identity.name, destination, destinationPath⟩,
    ⟨identity.name, formula.2.2, contained⟩, tag, filename, sha256, size, verification, https, set,
    digest, expectedSize⟩

end Derivation

/-! ## Accepted records -/

section Record

variable {libraries : Libraries} {record : RecordV2}

/-- The bottle and the provenance of a node of an accepted record. -/
structure AcceptedNode (libraries : Libraries) (record : RecordV2) (node : NodeV2) : Prop where
  readable : isCanonicalFormulaID node.id = true
  bottle : ∃ commit, AcceptedBottle libraries record.input.platform node.id node.bottle
    node.executablePaths record.components commit
  provenance : validateProvenanceV2 libraries node.id
    (node.bottle.provenanceSubject node.bottle.transport.artifactDigest)
    node.bottle.prebuiltDerivation.isSome node.provenance = .ok ()

theorem acceptedNode_of_validateV2 (valid : validateV2 libraries record = .ok ()) :
    ∀ node ∈ record.nodes, AcceptedNode libraries record node := by
  simp only [validateV2, joinErrors_eq_ok, List.append_eq_nil_iff] at valid
  obtain ⟨⟨⟨⟨-, nodes⟩, -⟩, -⟩, -⟩ := valid
  refine forall_positioned.mp fun entry member => ?_
  obtain ⟨identity, parsed, none⟩ := readable_of_nodeFindingsV2 nodes entry member
  have canonical := string_of_parseCanonicalFormulaID parsed
  simp only [readableNodeFindings, provenanceFindings, List.append_eq_nil_iff, reported_eq_nil,
    canonical] at none
  obtain ⟨⟨⟨⟨⟨-, bottle⟩, -⟩, ⟨provenance, -⟩, -⟩, -⟩, -⟩ := none
  have accepted := acceptedBottle_of_validate bottle
  rw [validateBottleV2, if_neg (not_not.mpr accepted.members)] at provenance
  exact ⟨isCanonicalFormulaID_of_parse parsed, ⟨_, accepted⟩, provenance⟩

theorem subject_of_validateProvenanceV2 {id : FormulaID} {subject : String} {prebuilt : Bool}
    {provenance : Provenance} {verified : VerifiedProvenance}
    (valid : validateProvenanceV2 libraries id subject prebuilt provenance = .ok ())
    (set : provenance.verified = some verified) (known : subject ≠ "") :
    verified.subjectDigest = subject := by
  cases waiver : provenance.waiver with
  | some found => simp [validateProvenanceV2, set, waiver] at valid
  | none =>
    simp only [validateProvenanceV2, set, waiver] at valid
    split at valid
    case h_2 => cases valid
    case h_1 none =>
        simp only [joinErrors_eq_ok, verifiedProvenanceFindings, List.append_eq_nil_iff] at none
        obtain ⟨⟨⟨⟨⟨-, checked⟩, -⟩, -⟩, -⟩, -⟩ := none
        cases digest : validateDigest libraries verified.subjectDigest with
        | error message => simp [digest] at checked
        | ok _ =>
          rw [digest] at checked
          simp only [finding_eq_nil, Bool.and_eq_false_iff, bne_eq_false_iff_eq] at checked
          exact checked.resolve_left known

theorem validateDigest_empty (empty : ∀ algorithm, libraries.parseDigest "" ≠ .ok algorithm) :
    validateDigest libraries "" ≠ .ok () := by
  simp only [validateDigest, ne_eq, bind_eq_ok, not_exists, not_and]
  exact fun algorithm parsed => absurd parsed (empty algorithm)

/--
The transport, the provenance and the derivation of every node of an accepted record
speak about the bytes of its bottle, and the derivation and the provenance of a
derived bottle about one source archive.  `digest.Parse` does not accept the empty
string, so no accepted digest is empty.
-/
theorem accepted_artifacts_bound (libraries : Libraries)
    (empty : ∀ algorithm, libraries.parseDigest "" ≠ .ok algorithm) (record : RecordV2)
    (valid : validateV2 libraries record = .ok ()) :
    ∀ node ∈ record.nodes, ArtifactBound node := by
  intro node member
  obtain ⟨readable, ⟨commit, bottle⟩, provenance⟩ := acceptedNode_of_validateV2 valid node member
  have derived : ∀ derivation, node.bottle.prebuiltDerivation = some derivation →
      AcceptedDerivation libraries node.bottle derivation := fun derivation set =>
    acceptedDerivation_of_validate readable (bottle.derivation derivation set)
  refine ⟨bottle.promises_eq, fun verified set => ?_, fun derivation set => (derived _ set).bound⟩
  rw [BottleTransport.artifactDigest_eq bottle.promises_eq] at provenance
  refine subject_of_validateProvenanceV2 provenance set fun missing => ?_
  have valid : validateDigest libraries node.bottle.subject = .ok () := by
    cases prebuilt : node.bottle.prebuiltDerivation with
    | none =>
      simpa [BottleV2.subject, prebuilt] using digest_of_headerFindings bottle.header
    | some derivation =>
      simpa [BottleV2.subject, prebuilt] using
        (derived derivation prebuilt).sourceDigest
  rw [missing] at valid
  exact validateDigest_empty empty valid

end Record

namespace Sample

/-- The parsers, as they answer on URLs of the form `https://host/path`. -/
def derivedLibraries : Libraries :=
  { libraries with
    parseURL := fun raw =>
      let rest := splitChar (trimPrefix raw "https://") '/'
      .ok {
        scheme := "https", host := rest.headD "", hostname := rest.headD "",
        path := "/" ++ join rest.tail "/" } }

def archive : HTTPSTransport where
  url := "https://acme.dev/app.tar.gz"
  expectedSize := 2
  sha256 := digest 'c'
  filename := "app.tar.gz"
  allowedRedirectHosts := ["acme.dev"]
  fetchPolicyVersion := httpsFetchPolicyVersionV1

def verification : BottleVerificationV2 where
  policyVersion := bottleVerificationPolicyV1
  inventoryDigest := digest 'd'
  entryCount := 1
  expandedSize := 1

/-- A derivation of `acme/tools/app`; the two arguments are what the samples vary. -/
def derivation (artifact : Option LocalTransport) (sourcePath : String) :
    PrebuiltDerivationV2 where
  policyVersion := prebuiltDerivedBottlePolicyV1
  policyDigest := digest 'a'
  source := {
    filename := "app.tar.gz"
    size := 2
    sha256 := digest 'c'
    format := "tar+gzip"
    transport := { https := some archive, localArtifact := artifact } }
  sourceInventory := { inventoryDigest := digest 'd', entryCount := 1, expandedSize := 1 }
  payload := {
    sourcePath := sourcePath, destinationPath := "bin/app", sha256 := digest 'e', size := 1,
    archiveMode := 0o755, derivedMode := 0o555 }
  elf := {
    format := "elf64", machine := "x86_64", staticallyLinked := true, interpreter := "",
    neededLibraries := some [], rpaths := some [], writableExecutableSegments := false }
  formulaSource := {
    transport := {
      tap := {
        id := "acme/tools", repository := "https://github.com/acme/homebrew-tools",
        commit := commit, treeDigest := digest 'a', archiveDigest := digest 'a' }
      path := "Formula/app.rb" }
    sha256 := digest 'f'
    size := 1 }
  recipeDigest := digest 'a'
  derivedBottle := {
    tag := "x86_64_linux", filename := "app.bottle.tar.gz", sha256 := digest 'b', size := 1,
    verification := verification, formulaSourceDigest := digest 'f' }

def derivedNode (artifact : Option LocalTransport) (sourcePath : String) : NodeV2 where
  id := "acme/tools/app"
  tap := "acme/tools"
  name := "app"
  homebrewFullName := "acme/tools/app"
  formulaVersion := "1"
  formulaRevision := 0
  pkgVersion := "1"
  versionScheme := 0
  bottleRebuild := 0
  bottle := {
    tag := "x86_64_linux"
    filename := "app.bottle.tar.gz"
    size := 1
    sha256 := digest 'b'
    cellar := "any"
    tab := { receiptless := true, arch := "x86_64" }
    currentFormulaSourceDigest := digest 'f'
    bottleFormulaSourceDigest := digest 'f'
    prebuiltDerivation := some (derivation artifact sourcePath)
    verification := verification
    transport := {
      localArtifact := some {
        policyVersion := buildLocalArtifactPolicyV1, sha256 := digest 'b', size := 1,
        filename := "app.bottle.tar.gz" } } }
  provenance := {
    verified := some {
      policyVersion := verifiedProvenancePolicyV1, subjectDigest := digest 'c',
      statementDigest := digest 'a', bundleDigest := digest 'a', signerIdentity := "acme",
      issuer := "acme" } }
  executablePaths := ["bin/app"]

/-- A build-local resolution of a bottle that was derived from an upstream archive. -/
def derivedRecord (artifact : Option LocalTransport) (sourcePath : String) : RecordV2 :=
  { upgraded with
    metadataSources := upgraded.metadataSources ++ [{
      tap := "acme/tools"
      commit := commit
      catalogPolicyVersion := "tap-catalog-v1"
      extraction := some {
        policyVersion := buildLocalExtractionPolicyV1, extractorRef := pinned,
        repository := "https://github.com/acme/homebrew-tools", treeDigest := digest 'a',
        archiveDigest := digest 'a', catalogDigest := digest 'b' }
      documents := [{ name := "catalog", digest := digest 'b' }]
      generatedAt := instant
      fetchedAt := instant
      sequence := 1
      rollback := {
        policy := buildLocalRollbackPolicyV1, sequenceFloor := 0, stateDigest := digest 'a' } }]
    requested := [{ requested := "acme/tools/app", id := "acme/tools/app" }]
    nodes := [derivedNode artifact sourcePath]
    installOrder := ["acme/tools/app"]
    components := { components with
      supportedProvenancePolicyVersions := [verifiedProvenancePolicyV1] } }

theorem derivedRecord_valid :
    validateV2 derivedLibraries (derivedRecord none "app/app") = .ok () := by decide +kernel

end Sample

theorem accepted_artifacts_bound_derived :
    validateV2 Sample.derivedLibraries (Sample.derivedRecord none "app/app") = .ok () ∧
      ∀ node ∈ (Sample.derivedRecord none "app/app").nodes, ArtifactBound node :=
  ⟨Sample.derivedRecord_valid, accepted_artifacts_bound Sample.derivedLibraries nofun
      (Sample.derivedRecord none "app/app") Sample.derivedRecord_valid⟩

end DalecHomebrew.Resolution
