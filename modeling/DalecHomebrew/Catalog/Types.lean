import Mathlib.Algebra.Group.Nat.Defs
import Mathlib.Data.List.Sort

/-!
# Wire types of the catalog protocol

The records of `internal/catalog/types.go`, field by field and under the
source's names.  A Go slice is a list.  The slices for which
the package distinguishes `nil` from an empty slice are optional lists.

`time.Time` values are always UTC and without a monotonic reading when the
catalog packages compare them, so an instant is the number of nanoseconds
since the zero time of Go.
-/

namespace DalecHomebrew.Catalog

/-- Raw document bytes. -/
abbrev Bytes := List UInt8

/-- Nanoseconds since the Go zero time. -/
abbrev Time := Int

/-- A `time.Duration` in nanoseconds. -/
abbrev Duration := Int

/-- A canonical `owner/tap` identity on the wire. -/
abbrev TapID := String

/-- A canonical `owner/tap/formula` identity on the wire. -/
abbrev FormulaID := String

/-! ## Requests -/

structure Platform where
  os : String
  architecture : String
  variant : String := ""
deriving DecidableEq

structure PlatformRequest where
  platform : Platform
  externalRoots : Option (List FormulaID)
  coreRoots : List FormulaID := []
deriving DecidableEq

/--
The body of `POST /v1/catalog-sets`.  `externalRoots` and `platforms` are the
in-memory compatibility bridge of the source and are never serialized.
-/
structure Request where
  schemaVersion : String
  targets : List PlatformRequest
  homebrewCommit : String
  coreSnapshotDigest : String
  externalRoots : List FormulaID := []
  platforms : List Platform := []
deriving DecidableEq

/-! ## Tap catalogs -/

/-- The source identity shared by a catalog and the signed reference to it. -/
structure TapSource where
  id : TapID
  repository : String
  commit : String
  treeDigest : String
  archiveDigest : String
deriving DecidableEq

structure Dependency where
  raw : String
  id : FormulaID
deriving DecidableEq

structure FormulaVariation where
  tag : String
  unavailable : Bool := false
  dependencies : List Dependency := []
  overridesDependencies : Bool := false
  kegOnly : Bool := false
  overridesKegOnly : Bool := false
deriving DecidableEq

structure BottleFile where
  tag : String
  url : String
  sha256 : String
  cellar : String
deriving DecidableEq

structure BottleDeclaration where
  rootURL : String
  rebuild : Int
  files : List BottleFile
deriving DecidableEq

structure PrebuiltArchiveFile where
  tag : String
  url : String
  sha256 : String
  format : String
deriving DecidableEq

structure PrebuiltArchiveDeclaration where
  files : List PrebuiltArchiveFile
deriving DecidableEq

structure Formula where
  id : FormulaID
  name : String
  homebrewFullName : String
  sourcePath : String
  sourceDigest : String
  stableVersion : String
  revision : Int
  versionScheme : Int
  disabled : Bool := false
  kegOnly : Bool := false
  license : String := ""
  dependencies : List Dependency := []
  variations : List FormulaVariation := []
  versionedFormulae : List FormulaID := []
  bottle : Option BottleDeclaration := none
  prebuiltArchive : Option PrebuiltArchiveDeclaration := none
deriving DecidableEq

/-- A signed alias or rename. -/
structure ScopedMapping where
  fromID : FormulaID
  toID : FormulaID
deriving DecidableEq

structure Migration where
  fromID : FormulaID
  rawTarget : String
  toID : FormulaID
deriving DecidableEq

/-- One complete catalog of an exact non-core tap commit. -/
structure TapCatalog where
  schemaVersion : String
  tap : TapSource
  publishedAt : Time
  sequence : UInt64
  formulae : List Formula
  aliases : List ScopedMapping := []
  renames : List ScopedMapping := []
  migrations : List Migration := []
deriving DecidableEq

/-! ## Closures -/

/-- A normalized closure edge. -/
structure Requirement where
  raw : String
  id : FormulaID := ""
  minimumPkgVersion : String := ""
  minimumRevision : Int := 0
  minimumBottleRebuild : Int := 0
  declaredDirectly : Bool := false
deriving DecidableEq

structure Node where
  id : FormulaID
  tap : TapID
  name : String
  homebrewFullName : String
  formulaVersion : String
  formulaRevision : Int
  pkgVersion : String
  versionScheme : Int
  bottleRebuild : Int
  license : String := ""
  kegOnly : Bool := false
  dependencies : List Requirement := []
deriving DecidableEq

structure RequestedMapping where
  requested : FormulaID
  resolved : FormulaID
deriving DecidableEq

structure ClosureResult where
  requested : List FormulaID
  requestedMappings : Option (List RequestedMapping)
  normalizationTaps : Option (List TapID)
  nodes : List Node
  installOrder : List FormulaID
deriving DecidableEq

/-! ## Bottle artifacts -/

structure Annotation where
  key : String
  value : String
deriving DecidableEq

structure Descriptor where
  digest : String
  size : Int
  mediaType : String
  platform : Option Platform := none
  annotations : List Annotation := []
deriving DecidableEq

structure OCITransport where
  registry : String
  repository : String
  index : Descriptor
  manifest : Descriptor
  config : Descriptor
  layer : Descriptor
deriving DecidableEq

structure HTTPSTransport where
  url : String
  expectedSize : Int
  sha256 : String
  filename : String
  allowedRedirectHosts : List String
  fetchPolicyVersion : String
deriving DecidableEq

structure LocalTransport where
  policyVersion : String
  sha256 : String
  size : Int
  filename : String
deriving DecidableEq

/-- A transport union as it is serialized: three optional members. -/
structure Transport where
  oci : Option OCITransport := none
  https : Option HTTPSTransport := none
  «local» : Option LocalTransport := none
deriving DecidableEq

structure BottleVerification where
  policyVersion : String
  inventoryDigest : String
  entryCount : Int
  expandedSize : Int
deriving DecidableEq

structure VerifiedProvenance where
  policyVersion : String
  subjectDigest : String
  statementDigest : String
  bundleDigest : String
  signerIdentity : String
  issuer : String
deriving DecidableEq

structure ProvenanceWaiver where
  policy : String
deriving DecidableEq

structure Provenance where
  verified : Option VerifiedProvenance := none
  waiver : Option ProvenanceWaiver := none
deriving DecidableEq

structure BottleBuiltOn where
  os : String := ""
  osVersion : String := ""
  cpuFamily : String := ""
  oldestCPUFamily : String := ""
  glibcVersion : String := ""
deriving DecidableEq

structure BottleRuntimeDependency where
  id : FormulaID
  homebrewFullName : FormulaID
  version : String
  revision : Int
  bottleRebuild : Int
  pkgVersion : String
  declaredDirectly : Bool := false
deriving DecidableEq

structure BottleTab where
  receiptless : Bool := false
  homebrewVersion : String := ""
  arch : String := ""
  compiler : String := ""
  changedFiles : List String := []
  builtOn : BottleBuiltOn := {}
  dependencies : List BottleRuntimeDependency := []
deriving DecidableEq

structure PrebuiltSourceArtifact where
  filename : String
  size : Int
  sha256 : String
  format : String
  transport : Transport
deriving DecidableEq

structure PrebuiltSourceInventory where
  inventoryDigest : String
  entryCount : Int
  expandedSize : Int
deriving DecidableEq

structure PrebuiltPayloadEvidence where
  sourcePath : String
  destinationPath : String
  sha256 : String
  size : Int
  archiveMode : UInt32
  derivedMode : UInt32
deriving DecidableEq

/-- The two lists distinguish a missing array from an empty one. -/
structure PrebuiltELFEvidence where
  format : String
  machine : String
  staticallyLinked : Bool
  interpreter : String
  neededLibraries : Option (List String)
  rpaths : Option (List String)
  writableExecutableSegments : Bool
deriving DecidableEq

structure TapFormulaSourceTransport where
  tap : TapSource
  path : String
deriving DecidableEq

structure PrebuiltFormulaSourceEvidence where
  transport : TapFormulaSourceTransport
  sha256 : String
  size : Int
deriving DecidableEq

structure PrebuiltDerivedBottleRelation where
  tag : String
  filename : String
  sha256 : String
  size : Int
  verification : BottleVerification
  formulaSourceDigest : String
deriving DecidableEq

/-- The authorized upstream archive and the transformation of a derived bottle. -/
structure PrebuiltDerivation where
  policyVersion : String
  policyDigest : String
  source : PrebuiltSourceArtifact
  sourceInventory : PrebuiltSourceInventory
  payload : PrebuiltPayloadEvidence
  elf : PrebuiltELFEvidence
  formulaSource : PrebuiltFormulaSourceEvidence
  recipeDigest : String
  derivedBottle : PrebuiltDerivedBottleRelation
deriving DecidableEq

structure BottleArtifact where
  id : FormulaID
  platform : Platform
  tag : String
  filename : String
  sha256 : String
  size : Int
  cellar : String
  tab : BottleTab
  currentFormulaSourceDigest : String
  bottleFormulaSourceDigest : String
  bottleSourceRepository : String
  bottleSourceCommit : String
  bottleFormulaPath : String
  bottleSourceWaiver : String := ""
  executablePaths : List String := []
  transport : Transport
  verification : BottleVerification
  provenance : Provenance
  prebuiltDerivation : Option PrebuiltDerivation := none
deriving DecidableEq

structure PlatformResult where
  platform : Platform
  closure : ClosureResult
  artifacts : List BottleArtifact
deriving DecidableEq

/-! ## Signed catalog sets -/

structure ComponentIdentity where
  name : String
  version : String
  digest : String
deriving DecidableEq

/-- The signed immutable locator of one reached tap catalog. -/
structure CatalogReference where
  tap : TapSource
  publishedAt : Time
  sequence : UInt64
  url : String
  size : Int
  sha256 : String
deriving DecidableEq

structure CatalogSetPayload where
  schemaVersion : String
  requestDigest : String
  coreSnapshotDigest : String
  generatedAt : Time
  expiresAt : Time
  catalogService : ComponentIdentity
  extractor : ComponentIdentity
  catalogs : List CatalogReference
  results : List PlatformResult
deriving DecidableEq

structure CatalogSetResult where
  schemaVersion : String
  requestDigest : String
  payloadDigest : String
  jws : Bytes
deriving DecidableEq

/-! ## Operations -/

inductive OperationStatus where
  | pending
  | completed
  | failed
deriving DecidableEq

inductive FailureCode where
  | timeout
  | unavailable
  | invalidTap
  | missingBottle
  | policy
  | signature
deriving DecidableEq

structure Failure where
  code : FailureCode
  message : String := ""
deriving DecidableEq

/-- A status union as it is serialized. -/
structure Operation where
  schemaVersion : String
  id : String
  status : OperationStatus
  retryAfterSeconds : Int := 0
  result : Option CatalogSetResult := none
  failure : Option Failure := none
deriving DecidableEq

/-! ## Limits and schema versions -/

def requestSchemaVersion : String := "dalec-homebrew-catalog-request/v1"
def tapCatalogSchemaVersion : String := "dalec-homebrew-tap-catalog/v1"
def catalogSetSchemaVersion : String := "dalec-homebrew-catalog-set/v1"
def operationSchemaVersion : String := "dalec-homebrew-catalog-operation/v1"
def resultSchemaVersion : String := "dalec-homebrew-catalog-result/v1"
def catalogDocumentPathPrefix : String := "/v1/catalogs/sha256/"
def maxTaps : Nat := 16
def maxClosureNodes : Nat := 256
def maxOperationIDBytes : Nat := 128
def maxFailureMessageBytes : Nat := 1024
def maxJWSBytes : Nat := 64 * 2 ^ 20
def maxRequestBytes : Nat := 2 ^ 20
def maxOperationBytes : Nat := 64 * 2 ^ 20

/-- `24 * time.Hour`. -/
def maxCatalogSetLifetime : Duration := 24 * 3600 * 1000000000

end DalecHomebrew.Catalog
