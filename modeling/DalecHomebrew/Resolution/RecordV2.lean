import DalecHomebrew.Resolution.EvidenceV2

/-!
# Validation of V2 records

`ValidateV2` of `internal/resolution/v2.go`: the header, the metadata sources, the
nodes, the requested roots, the graph and the runtime policy.  A loop of the
source that fills a map while it checks is here a check of each element against
the elements before it, and the map is the table that the loop leaves behind.  An
identity that `parseCanonicalFormulaID` accepts is its own canonical form, so the
maps are keyed by the recorded strings.
-/

namespace DalecHomebrew.Resolution

open Catalog (Time)
open Foundation Foundation.GoString Homebrew

/-- `Time.Unix`: whole seconds since 1970. -/
def unix (time : Time) : Int := time / 1000000000 - 62135596800

/-- The conversion of a signed number of seconds to `uint64`. -/
def unsigned (value : Int) : Nat := (value % 2 ^ 64).toNat

/-! ## Metadata sources -/

/-- The `sources` map of the validator: the last source of a tap. -/
def RecordV2.sourceTable (record : RecordV2) : Table TapID MetadataSource :=
  Table.ofList MetadataSource.tap (record.metadataSources.filter fun source =>
    isCanonicalTapID source.tap)

/-- The earliest generation time of the sources that have timestamps, or zero. -/
def earliestEpoch (sources : List MetadataSource) : Int :=
  sources.foldl (fun earliest source =>
    if source.generatedAt = 0 ∨ source.fetchedAt = 0 then earliest
    else if earliest = 0 ∨ unix source.generatedAt < earliest then unix source.generatedAt
    else earliest) 0

section Sources

variable (libraries : Libraries) (record : RecordV2)

def tapFindings (label : String) (earlier : List MetadataSource) (source : MetadataSource) :
    List String :=
  match parseCanonicalTapID source.tap with
  | .error message => [label ++ ".tap: " ++ message]
  | .ok tap =>
    finding (earlier.any fun other => other.tap == tap.string)
      ("duplicate metadata source for tap " ++ quote tap.string) ++
    if tap = coreTap then []
    else if source.catalogPolicyVersion = "" then
      [label ++ ".catalog_policy_version is required for non-core tap " ++ quote tap.string]
    else
      finding (!record.components.supportedCatalogPolicyVersions.contains
          source.catalogPolicyVersion)
        (label ++ " catalog policy " ++ quote source.catalogPolicyVersion ++
          " is absent from the release binding")

/-- Whether a source is the one of `homebrew/core`. -/
def MetadataSource.isCore (source : MetadataSource) : Bool :=
  match parseCanonicalTapID source.tap with
  | .ok tap => tap == coreTap
  | .error _ => false

def signerFindings (label : String) (source : MetadataSource) : List String :=
  match source.extraction with
  | some extraction =>
    finding (!isCanonicalTapID source.tap || source.isCore)
      (label ++ " build-local extraction is valid only for non-core taps") ++
    finding (source.signer != {})
      (label ++ " build-local extraction cannot claim a JWS signer") ++
    nested (label ++ ".extraction")
      (validateTapExtractionV2 libraries extraction source record.components)
  | none =>
    finding (isBlank source.signer.keyID) (label ++ ".signer.key_id is required") ++
    finding (source.signer.algorithm != "PS512")
      (label ++ ".signer.algorithm " ++ quote source.signer.algorithm ++ " is unsupported") ++
    finding (!source.signer.verified) (label ++ ".signer is not verified")

def documentFindings (label : String) (source : MetadataSource) : List String :=
  finding source.documents.isEmpty (label ++ " has no authenticated documents") ++
  (source.documents.zipIdx.flatMap fun (document, place) =>
    let path := label ++ "." ++ indexed "documents" place
    finding (!validV2Token document.name)
      (path ++ ".name " ++ quote document.name ++ " is invalid") ++
    finding ((source.documents.take place).any fun earlier => earlier.name == document.name)
      (label ++ " has duplicate document name " ++ quote document.name) ++
    nested (path ++ ".digest") (validateDigest libraries document.digest) ++
    if document.envelopeDigest = "" then []
    else nested (path ++ ".envelope_digest") (validateDigest libraries document.envelopeDigest)) ++
  if isCanonicalTapID source.tap then
    reported (validateMetadataDocumentsV2 label source.isCore source.extraction.isSome
      source.documents)
  else []

def timestampFindings (label : String) (source : MetadataSource) : List String :=
  (if source.isCore then
    finding (source.generatedAtSource != "" &&
        source.generatedAtSource != coreGeneratedAtSignedPayload &&
        source.generatedAtSource != coreGeneratedAtLastModified)
      (label ++ ".generated_at_source " ++ quote source.generatedAtSource ++ " is unsupported")
  else
    finding (source.generatedAtSource != "")
      (label ++ ".generated_at_source is valid only for homebrew/core")) ++
  if source.generatedAt = 0 ∨ source.fetchedAt = 0 then [label ++ " timestamps must be set"]
  else
    finding (unix source.generatedAt ≤ 0)
      (label ++ ".generated_at must be after the Unix epoch") ++
    finding (source.fetchedAt < source.generatedAt)
      (label ++ ".fetched_at precedes generated_at") ++
    finding (record.resolvedAt != 0 && record.resolvedAt < source.fetchedAt)
      (label ++ ".fetched_at is after resolved_at")

def MetadataSource.expectedRollbackPolicy (source : MetadataSource) : String :=
  if source.isCore then coreMetadataRollbackPolicyV1
  else if source.extraction.isSome then buildLocalRollbackPolicyV1
  else metadataRollbackPolicyV1

def rollbackFindings (label : String) (source : MetadataSource) : List String :=
  finding (source.sequence == 0) (label ++ ".sequence must be positive") ++
  (if source.isCore then
    finding (source.generatedAt != 0 && source.sequence != unsigned (unix source.generatedAt))
      (label ++ ".sequence must equal authenticated core generated_at")
  else
    finding (source.extraction.isSome &&
        (source.sequence != 1 || source.rollback.sequenceFloor != 0))
      (label ++ " build-local rollback evidence must use sequence 1 and floor 0")) ++
  finding (source.rollback.policy != source.expectedRollbackPolicy)
    (label ++ ".rollback.policy " ++ quote source.rollback.policy ++
      " is unsupported; expected " ++ quote source.expectedRollbackPolicy) ++
  finding (source.sequence < source.rollback.sequenceFloor)
    (label ++ ".rollback.sequence_floor " ++ decimal source.rollback.sequenceFloor ++
      " exceeds accepted sequence " ++ decimal source.sequence) ++
  nested (label ++ ".rollback.state_digest")
    (validateDigest libraries source.rollback.stateDigest)

def sourceFindings : List String :=
  record.metadataSources.zipIdx.flatMap fun (source, index) =>
    let label := indexed "metadata_sources" index
    tapFindings record label (record.metadataSources.take index) source ++
    finding (!isCommit source.commit)
      (label ++ ".commit is not a lowercase 40-character Git commit") ++
    signerFindings libraries record label source ++
    documentFindings libraries label source ++
    timestampFindings record label source ++
    rollbackFindings libraries label source

/-- The findings about core and about the time that the record is reproduced at. -/
def coreSourceFindings : List String :=
  (match record.sourceTable.lookup coreTap.string with
    | none => ["metadata sources omit homebrew/core"]
    | some core => finding (core.commit != record.components.homebrewCommit)
        ("homebrew/core metadata commit " ++ quote core.commit ++
          " does not match component Homebrew commit " ++
          quote record.components.homebrewCommit)) ++
  finding (0 < earliestEpoch record.metadataSources &&
      record.sourceDateEpoch != earliestEpoch record.metadataSources)
    ("source_date_epoch " ++ decimalInt record.sourceDateEpoch ++
      " does not equal earliest authenticated generation time " ++
      decimalInt (earliestEpoch record.metadataSources))

end Sources

/-! ## Nodes -/

section Nodes

variable (libraries : Libraries) (record : RecordV2)

/-- The findings about the names that a node of a readable identity gives itself. -/
def identityFindings (earlier : List NodeV2) (id : FormulaIdentity) (node : NodeV2) :
    List String :=
  finding (earlier.any fun other => other.id == id.string)
    ("duplicate closure node " ++ quote id.string) ++
  finding (node.tap != id.tap.string)
    ("node " ++ quote id.string ++ " tap " ++ quote node.tap ++
      " does not match Formula ID tap " ++ quote id.tap.string) ++
  finding (node.name != id.name)
    ("node " ++ quote id.string ++ " rack name " ++ quote node.name ++
      " does not match Formula name " ++ quote id.name) ++
  -- A rack belongs to the first readable node that has it; the empty name is no rack.
  (match earlier.find? fun other =>
      isCanonicalFormulaID other.id && other.name != "" && other.name == node.name with
    | some prior => finding (prior.id != id.string)
        ("rack name collision: Formula IDs " ++ quote prior.id ++ " and " ++ quote id.string ++
          " both use rack " ++ quote node.name)
    | none => []) ++
  match parseCanonicalFormulaID node.homebrewFullName with
  | .error message => ["node " ++ quote id.string ++ " homebrew_full_name: " ++ message]
  | .ok fullName => finding (fullName.string != id.string)
      ("node " ++ quote id.string ++ " homebrew_full_name " ++ quote node.homebrewFullName ++
        " identifies a different Formula")

/-- The findings about policies of a node that the release does not bind. -/
def bindingFindings (id : FormulaID) (node : NodeV2) : List String :=
  let fetchPolicies := record.components.supportedFetchPolicyVersions
  let provenancePolicies := record.components.supportedProvenancePolicyVersions
  (node.bottle.transport.https.toList.flatMap fun transport =>
    finding (!fetchPolicies.contains transport.fetchPolicyVersion)
      ("node " ++ quote id ++ " HTTPS fetch policy " ++ quote transport.fetchPolicyVersion ++
        " is absent from the release binding") ++
    finding (node.bottle.prebuiltDerivation.isNone &&
        !provenancePolicies.contains node.bottle.bottleSourceWaiver)
      ("node " ++ quote id ++ " HTTPS source waiver policy " ++
        quote node.bottle.bottleSourceWaiver ++ " is absent from the release binding")) ++
  node.bottle.prebuiltDerivation.toList.flatMap fun derivation =>
    derivation.source.transport.https.toList.flatMap fun transport =>
      finding (!fetchPolicies.contains transport.fetchPolicyVersion)
        ("node " ++ quote id ++ " prebuilt source fetch policy " ++
          quote transport.fetchPolicyVersion ++ " is absent from the release binding")

/-- What the provenance of a bottle is about. -/
def BottleV2.provenanceSubject (bottle : BottleV2) (artifactDigest : String) : String :=
  match bottle.prebuiltDerivation with
  | some derivation => derivation.source.sha256
  | none => artifactDigest

def provenanceFindings (id : FormulaID) (artifactDigest : String) (node : NodeV2) : List String :=
  let provenancePolicies := record.components.supportedProvenancePolicyVersions
  reported (validateProvenanceV2 libraries id (node.bottle.provenanceSubject artifactDigest)
    node.bottle.prebuiltDerivation.isSome node.provenance) ++
  (node.provenance.verified.toList.flatMap fun verified =>
    finding (!provenancePolicies.contains verified.policyVersion)
      ("node " ++ quote id ++ " verified provenance policy " ++ quote verified.policyVersion ++
        " is absent from the release binding")) ++
  node.provenance.waiver.toList.flatMap fun waiver =>
    finding (!provenancePolicies.contains waiver.policy)
      ("node " ++ quote id ++ " provenance waiver policy " ++ quote waiver.policy ++
        " is absent from the release binding")

def dependencyFindings (id : FormulaID) (dependencies : List RequirementV2) : List String :=
  dependencies.zipIdx.flatMap fun (requirement, place) =>
    match parseCanonicalFormulaID requirement.id with
    | .error message =>
      ["node " ++ quote id ++ " " ++ indexed "dependencies" place ++ ".id: " ++ message]
    | .ok dependencyID =>
      finding ((dependencies.take place).any fun earlier => earlier.id == dependencyID.string)
        ("node " ++ quote id ++ " has duplicate dependency " ++ quote dependencyID.string) ++
      finding (requirement.revision < 0 || requirement.bottleRebuild < 0)
        ("node " ++ quote id ++ " dependency " ++ quote dependencyID.string ++
          " has a negative revision")

/-- The findings about a node of a readable identity. -/
def readableNodeFindings (earlier : List NodeV2) (identity : FormulaIdentity) (node : NodeV2) :
    List String :=
  let id := identity.string
  let metadataSource := record.sourceTable.lookup identity.tap.string
  let bottle := validateBottleV2 libraries record.input.platform id node.bottle
    node.executablePaths record.components ((metadataSource.map MetadataSource.commit).getD "")
  identityFindings earlier identity node ++
  finding metadataSource.isNone
    ("node " ++ quote id ++ " has no metadata source for tap " ++ quote identity.tap.string) ++
  finding (node.formulaVersion == "" || node.pkgVersion == "")
    ("node " ++ quote id ++ " has an empty version") ++
  finding (node.formulaRevision < 0 || node.versionScheme < 0 || node.bottleRebuild < 0)
    ("node " ++ quote id ++ " has a negative version or bottle revision") ++
  reported bottle.2 ++
  bindingFindings record id node ++
  provenanceFindings libraries record id bottle.1 node ++
  (if node.upstreamFormulaID = "" then []
    else nested ("node " ++ quote id ++ " upstream_formula_id")
      ((parseCanonicalFormulaID node.upstreamFormulaID).map fun _ => ())) ++
  dependencyFindings id node.dependencies

def nodeFindingsV2 : List String :=
  record.nodes.zipIdx.flatMap fun (node, index) =>
    match parseCanonicalFormulaID node.id with
    | .error message => [indexed "nodes" index ++ ".id: " ++ message]
    | .ok identity =>
      readableNodeFindings libraries record (record.nodes.take index) identity node

end Nodes

/-! ## The record -/

section Validate

variable (libraries : Libraries) (record : RecordV2)

/-- The `nodes` map of the validator: the last node of a readable identity. -/
def RecordV2.nodeTable : Table FormulaID NodeV2 :=
  Table.ofList NodeV2.id (record.nodes.filter fun node => isCanonicalFormulaID node.id)

def requestedFindingsV2 : List String :=
  record.requested.zipIdx.flatMap fun (root, index) =>
    finding (isBlank root.requested) (indexed "requested" index ++ ".requested is empty") ++
    match parseCanonicalFormulaID root.id with
    | .error message => [indexed "requested" index ++ ".id: " ++ message]
    | .ok id =>
      finding ((record.requested.take index).any fun earlier => earlier.id == id.string)
        ("duplicate requested Formula ID " ++ quote id.string) ++
      match record.nodeTable.lookup id.string with
      | none =>
        ["requested root " ++ quote root.requested ++ " resolves to missing node " ++
          quote id.string]
      | some node => finding (root.kegOnly != node.kegOnly)
          ("requested root " ++ quote root.requested ++ " keg_only does not match node " ++
            quote id.string)

/-- What the graph checks of `ValidateV2` read. -/
def RecordV2.graph : Graph NodeV2 where
  nodes := record.nodeTable
  visited := record.nodeTable.entries.map fun entry => (entry.1, entry.2)
  dependencies := fun node => node.dependencies.map RequirementV2.id
  identify := fun raw => (parseCanonicalFormulaID raw).map FormulaIdentity.string
  roots := record.requested.map RequestedRootV2.id
  order := record.installOrder

def headerFindingsV2 : List String :=
  finding (record.schemaVersion != schemaVersionV2)
    ("unsupported schema_version " ++ quote record.schemaVersion) ++
  finding (record.policyVersion != policyVersionV2)
    ("unsupported policy_version " ++ quote record.policyVersion) ++
  reported (validateV2Platform record.input.platform) ++
  nested "input.dalec_spec_digest" (validateDigest libraries record.input.dalecSpecDigest) ++
  finding (record.resolvedAt == 0) "resolved_at must be set" ++
  finding (record.sourceDateEpoch ≤ 0) "source_date_epoch must be positive" ++
  finding record.metadataSources.isEmpty "resolution has no metadata sources" ++
  finding (maxResolutionV2Sources < record.metadataSources.length)
    ("resolution has " ++ decimal record.metadataSources.length ++
      " metadata sources; maximum is " ++ decimal maxResolutionV2Sources) ++
  finding record.requested.isEmpty "resolution has no requested roots" ++
  finding record.nodes.isEmpty "resolution has no closure nodes" ++
  finding (maxResolutionV2Nodes < record.nodes.length)
    ("resolution has " ++ decimal record.nodes.length ++ " closure nodes; maximum is " ++
      decimal maxResolutionV2Nodes) ++
  reported (validateComponentsV2 libraries record.components)

def policyFindingsV2 : List String :=
  reported (validateRuntimeIdentity record.runtime) ++
  finding (record.runtime.profile != "" && record.runtime.profile != runtimeProfileMinimalV1)
    ("unsupported V2 runtime profile " ++ quote record.runtime.profile) ++
  if record.pruningPolicyDigest = "" then []
  else nested "pruning policy" (validateDigest libraries record.pruningPolicyDigest)

/-- `ValidateV2`. -/
def validateV2 : Except String Unit :=
  joinErrors (headerFindingsV2 libraries record ++ sourceFindings libraries record ++
    coreSourceFindings record ++ nodeFindingsV2 libraries record ++ requestedFindingsV2 record ++
    record.graph.findings ++ policyFindingsV2 libraries record)

end Validate

end DalecHomebrew.Resolution
