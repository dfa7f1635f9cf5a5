import DalecHomebrew.Catalog.Types

/-!
# Resolution records

The records of `internal/resolution`: the V1 record of a core resolution and the
V2 record with its taps, transports and provenance.  They are field by field the
source's, under the source's names.  A Go slice is a list, because neither a
validator nor the canonical form tells `nil` from an empty slice; the two slices
of the ELF evidence, for which one does, are optional lists.  A Go map is the
list of its entries in the order of the keys, as `encoding/json` writes it.
-/

namespace DalecHomebrew.Resolution

open Catalog (Time)

def schemaVersionV1 : String := "dalec-homebrew-resolution/v1"
def schemaVersionV2 : String := "dalec-homebrew-resolution/v2"
def policyVersionV1 : String := "homebrew-runtime-v1"
def policyVersionV2 : String := "homebrew-runtime-v2"
def runtimeProfileMinimalV1 : String := "minimal-v1"

/-- The V1 values that the unversioned names of the source keep. -/
def schemaVersion : String := schemaVersionV1
def policyVersion : String := policyVersionV1

/-- A canonical `owner/tap/formula` graph identity of a V2 record. -/
abbrev FormulaID := String

/-- A canonical `owner/tap` identity of a V2 record. -/
abbrev TapID := String

/-! ## What both versions share -/

structure Platform where
  os : String
  architecture : String
  variant : String := ""
deriving DecidableEq

structure Input where
  dalecSpecDigest : String
  targetKey : String := ""
  platform : Platform

structure Signature where
  keyID : String := ""
  algorithm : String := ""
  verified : Bool := false
deriving DecidableEq

structure Descriptor where
  digest : String := ""
  size : Int := 0
  mediaType : String := ""
  platform : Option Platform := none
  metadata : List (String × String) := []
deriving DecidableEq

structure BuiltOn where
  os : String := ""
  osVersion : String := ""
  cpuFamily : String := ""
  oldestCPUFamily : String := ""
  glibcVersion : String := ""
deriving DecidableEq

structure KV where
  key : String
  value : String
deriving DecidableEq

/-- `profile` is never serialized: replay derives it from the pruning policy. -/
structure RuntimePolicy where
  profile : String := ""
  user : String
  uid : Int
  gid : Int
  generatedPATH : List String := []
  writablePaths : List String := []
  cpuBaseline : String := ""

/-! ## V1 records -/

structure MetadataSnapshot where
  digest : String
  formulaDigest : String
  migrationDigest : String
  formulaEnvelopeDigest : String := ""
  migrationEnvelopeDigest : String := ""
  formulaFreshnessSource : String := ""
  migrationFreshnessSource : String := ""
  generatedAt : Time
  fetchedAt : Time
  signatures : List Signature := []
  formulaSignatures : List Signature := []
  migrationSignatures : List Signature := []
  formulaURL : String := ""
  migrationURL : String := ""

structure RequestedRoot where
  requested : String
  canonical : String
  kegOnly : Bool := false

structure Requirement where
  name : String
  minimum : String := ""
  revision : Int := 0
  bottleRebuild : Int := 0
  direct : Bool := false

structure RuntimeDependency where
  fullName : String
  version : String
  revision : Int
  bottleRebuild : Int
  pkgVersion : String
  declaredDirectly : Bool := false

structure BottleTab where
  homebrewVersion : String := ""
  arch : String := ""
  compiler : String := ""
  changedFiles : List String := []
  builtOn : BuiltOn := {}
  dependencies : List RuntimeDependency := []

structure Bottle where
  tag : String
  filename : String
  repository : String
  index : Descriptor
  manifest : Descriptor
  config : Descriptor
  layer : Descriptor
  homebrewSHA256 : String
  cellar : String
  tab : BottleTab
  selectedAnnotations : List KV := []

/-- `policyFormulaID` is a marker of the V2 projection and is never serialized. -/
structure Node where
  name : String
  fullName : String
  formulaVersion : String
  formulaRevision : Int
  pkgVersion : String
  versionScheme : Int
  bottleRebuild : Int
  license : String := ""
  kegOnly : Bool := false
  dependencies : List Requirement := []
  bottle : Bottle
  executablePaths : List String := []
  upstreamFormulaID : String := ""
  policyFormulaID : String := ""

structure Components where
  frontendRef : String := ""
  runtimeBaseRef : String := ""
  materializerRef : String := ""
  homebrewCommit : String := ""
  rubyRuntime : String := ""
  verificationKeys : String := ""
  dalecModule : String := ""
  buildKitModule : String := ""

structure AttestationPolicy where
  identity : String := ""
  waiver : String := ""

/-- A replayable materialization input. -/
structure Record where
  schemaVersion : String
  policyVersion : String
  input : Input
  metadata : MetadataSnapshot
  resolvedAt : Time
  sourceDateEpoch : Int
  requested : List RequestedRoot
  nodes : List Node
  installOrder : List String
  components : Components := {}
  runtime : RuntimePolicy
  attestationPolicy : AttestationPolicy := {}
  pruningPolicyDigest : String := ""

/-! ## V2 records -/

/-- The complete release-bound tuple of a V2 replay record. -/
structure ComponentsV2 where
  frontendIndexRef : String
  frontendRef : String
  runtimeBaseRef : String
  materializerRef : String
  bottleFetcherRef : String
  catalogExtractorRef : String := ""
  catalogServiceOrigin : String := ""
  ingestionJWSKeyPolicyDigest : String := ""
  tapPolicyDigest : String
  executableRuntimePolicyDigest : String
  homebrewCommit : String
  rubyRuntime : String
  verificationKeys : String
  dalecModule : String
  buildKitModule : String
  supportedCatalogPolicyVersions : List String
  supportedFetchPolicyVersions : List String
  supportedProvenancePolicyVersions : List String

/-- The release-pinned extractor and the Git source of a build-local catalog. -/
structure TapExtractionV2 where
  policyVersion : String
  extractorRef : String
  repository : String
  treeDigest : String
  archiveDigest : String
  catalogDigest : String

structure MetadataDocument where
  name : String
  digest : String
  envelopeDigest : String := ""

structure RollbackEvidence where
  policy : String
  sequenceFloor : Nat
  stateDigest : String

/-- One authenticated core or tap metadata source. -/
structure MetadataSource where
  tap : TapID
  commit : String
  catalogPolicyVersion : String := ""
  signer : Signature := {}
  extraction : Option TapExtractionV2 := none
  documents : List MetadataDocument
  generatedAt : Time
  generatedAtSource : String := ""
  fetchedAt : Time
  sequence : Nat
  rollback : RollbackEvidence

structure RequestedRootV2 where
  requested : String
  id : FormulaID
  kegOnly : Bool := false

structure RequirementV2 where
  id : FormulaID
  minimum : String := ""
  revision : Int := 0
  bottleRebuild : Int := 0
  direct : Bool := false
deriving DecidableEq

structure RuntimeDependencyV2 where
  id : FormulaID
  homebrewFullName : FormulaID
  version : String
  revision : Int
  bottleRebuild : Int
  pkgVersion : String
  declaredDirectly : Bool := false
deriving DecidableEq

structure BottleTabV2 where
  receiptless : Bool := false
  homebrewVersion : String := ""
  arch : String := ""
  compiler : String := ""
  changedFiles : List String := []
  builtOn : BuiltOn := {}
  dependencies : List RuntimeDependencyV2 := []
deriving DecidableEq

/-- The complete descriptor chain that replays one bottle. -/
structure OCITransport where
  registry : String
  repository : String
  index : Descriptor
  manifest : Descriptor
  config : Descriptor
  layer : Descriptor
deriving DecidableEq

structure HTTPSTransport where
  url : String
  expectedSize : Int
  sha256 : String
  filename : String
  allowedRedirectHosts : List String
  fetchPolicyVersion : String
deriving DecidableEq

/-- Bytes that the current solve supplies itself. -/
structure LocalTransport where
  policyVersion : String
  sha256 : String
  size : Int
  filename : String
deriving DecidableEq

structure BottleTransport where
  oci : Option OCITransport := none
  https : Option HTTPSTransport := none
  localArtifact : Option LocalTransport := none
deriving DecidableEq

structure BottleVerificationV2 where
  policyVersion : String
  inventoryDigest : String := ""
  entryCount : Int := 0
  expandedSize : Int := 0
deriving DecidableEq

structure PrebuiltSourceArtifactV2 where
  filename : String
  size : Int
  sha256 : String
  format : String
  transport : BottleTransport
deriving DecidableEq

structure PrebuiltSourceInventoryV2 where
  inventoryDigest : String
  entryCount : Int
  expandedSize : Int
deriving DecidableEq

structure PrebuiltPayloadEvidenceV2 where
  sourcePath : String
  destinationPath : String
  sha256 : String
  size : Int
  archiveMode : Nat
  derivedMode : Nat
deriving DecidableEq

structure PrebuiltELFEvidenceV2 where
  format : String
  machine : String
  staticallyLinked : Bool
  interpreter : String
  neededLibraries : Option (List String)
  rpaths : Option (List String)
  writableExecutableSegments : Bool
deriving DecidableEq

structure TapSourceV2 where
  id : TapID
  repository : String
  commit : String
  treeDigest : String
  archiveDigest : String
deriving DecidableEq

structure TapFormulaSourceTransportV2 where
  tap : TapSourceV2
  path : String
deriving DecidableEq

structure PrebuiltFormulaSourceEvidenceV2 where
  transport : TapFormulaSourceTransportV2
  sha256 : String
  size : Int
deriving DecidableEq

structure PrebuiltDerivedBottleRelationV2 where
  tag : String
  filename : String
  sha256 : String
  size : Int
  verification : BottleVerificationV2
  formulaSourceDigest : String
deriving DecidableEq

/-- The upstream archive and every signed input of a derived bottle. -/
structure PrebuiltDerivationV2 where
  policyVersion : String
  policyDigest : String
  source : PrebuiltSourceArtifactV2
  sourceInventory : PrebuiltSourceInventoryV2
  payload : PrebuiltPayloadEvidenceV2
  elf : PrebuiltELFEvidenceV2
  formulaSource : PrebuiltFormulaSourceEvidenceV2
  recipeDigest : String
  derivedBottle : PrebuiltDerivedBottleRelationV2
deriving DecidableEq

structure BottleV2 where
  tag : String
  filename : String
  size : Int
  sha256 : String
  cellar : String
  tab : BottleTabV2
  selectedAnnotations : List KV := []
  currentFormulaSourceDigest : String := ""
  bottleFormulaSourceDigest : String := ""
  bottleSourceRepository : String := ""
  bottleSourceCommit : String := ""
  bottleFormulaPath : String := ""
  bottleSourceWaiver : String := ""
  verification : BottleVerificationV2
  transport : BottleTransport
  prebuiltDerivation : Option PrebuiltDerivationV2 := none
deriving DecidableEq

structure VerifiedProvenance where
  policyVersion : String
  subjectDigest : String
  statementDigest : String
  bundleDigest : String
  signerIdentity : String
  issuer : String
deriving DecidableEq

structure ProvenanceWaiver where
  policy : String
deriving DecidableEq

structure Provenance where
  verified : Option VerifiedProvenance := none
  waiver : Option ProvenanceWaiver := none
deriving DecidableEq

/-- A node with its graph identity and, apart from it, its short rack name. -/
structure NodeV2 where
  id : FormulaID
  tap : TapID
  name : String
  homebrewFullName : FormulaID
  formulaVersion : String
  formulaRevision : Int
  pkgVersion : String
  versionScheme : Int
  bottleRebuild : Int
  license : String := ""
  kegOnly : Bool := false
  dependencies : List RequirementV2 := []
  bottle : BottleV2
  provenance : Provenance
  executablePaths : List String := []
  upstreamFormulaID : FormulaID := ""
deriving DecidableEq

/-- A record that separates graph identity from the rack identity in the file system. -/
structure RecordV2 where
  schemaVersion : String
  policyVersion : String
  input : Input
  metadataSources : List MetadataSource
  resolvedAt : Time
  sourceDateEpoch : Int
  requested : List RequestedRootV2
  nodes : List NodeV2
  installOrder : List FormulaID
  components : ComponentsV2
  runtime : RuntimePolicy
  pruningPolicyDigest : String := ""

end DalecHomebrew.Resolution
