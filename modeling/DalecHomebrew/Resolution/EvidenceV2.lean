import DalecHomebrew.Homebrew.FormulaID
import DalecHomebrew.Resolution.Record

/-!
# Evidence of V2 records

The parts of `internal/resolution/v2.go` that judge one piece of evidence at a
time: identities, hosts and URLs, the component tuple, the documents of a metadata
source, and the bottle of a node with its transports, its prebuilt derivation and
its provenance.
-/

namespace DalecHomebrew.Resolution

open Foundation Foundation.GoString Homebrew

def metadataRollbackPolicyV1 : String := "monotonic-sequence-v1"
def buildLocalExtractionPolicyV1 : String := "build-local-tap-extraction-v1"
def buildLocalRollbackPolicyV1 : String := "build-local-exact-commit-no-cross-build-rollback-v1"
def coreMetadataRollbackPolicyV1 : String := "homebrew-core-generated-at-v1"
def coreGeneratedAtSignedPayload : String := "signed-payload"
def coreGeneratedAtLastModified : String := "http-last-modified"
def httpsFetchPolicyVersionV1 : String := "homebrew-bottle-fetch-v1"
def buildLocalArtifactPolicyV1 : String := "build-local-artifact-v1"
def verifiedProvenancePolicyV1 : String := "sigstore-in-toto-v1"
def provenanceWaiverPolicyV1 : String := "tap-catalog-buildkit-and-verified-checksum-v1"
def prebuiltProvenanceWaiverPolicyV1 : String :=
  "prebuilt-archive-buildkit-and-verified-checksum-v1"
def prebuiltDerivedBottlePolicyV1 : String := "prebuilt-derived-bottle-v1"
def httpsBottleSourceWaiverPolicyV1 : String := "https-bottle-embedded-formula-digest-only-v1"
def bottleVerificationPolicyV1 : String := "homebrew-bottle-static-v1"
def coreBottleVerificationDeferredV1 : String := "homebrew-core-static-verify-before-exec-v1"
def coreProvenanceWaiverPolicyV1 : String := "homebrew-jws-and-verified-oci-chain-v1"
def maxResolutionV2Nodes : Nat := 256
def maxResolutionV2Sources : Nat := 17
def maxResolutionV2BottleBytes : Int := 2 ^ 30
def maxResolutionV2Redirects : Nat := 5

/-! ## Identities -/

def parseCanonicalFormulaID (raw : FormulaID) : Except String FormulaIdentity :=
  match parse raw with
  | .error message => .error message
  | .ok parsed =>
    if parsed.string = raw then .ok parsed
    else .error ("Formula ID " ++ quote raw ++ " is not canonical; use " ++ quote parsed.string)

def parseCanonicalTapID (raw : TapID) : Except String Tap :=
  match parseTap raw with
  | .error message => .error message
  | .ok parsed =>
    if parsed.string = raw then .ok parsed
    else .error ("tap ID " ++ quote raw ++ " is not canonical; use " ++ quote parsed.string)

theorem parseCanonicalFormulaID_eq_ok {raw : FormulaID} {identity : FormulaIdentity} :
    parseCanonicalFormulaID raw = .ok identity ↔ parse raw = .ok identity ∧ identity.string = raw := by
  unfold parseCanonicalFormulaID
  cases parse raw with
  | error message => simp
  | ok parsed =>
    by_cases same : parsed.string = raw
    · simp only [if_pos same, Except.ok.injEq]
      exact ⟨fun found => ⟨found, found ▸ same⟩, And.left⟩
    · simp only [if_neg same, Except.ok.injEq, reduceCtorEq, false_iff]
      rintro ⟨rfl, canonical⟩
      exact same canonical

/-- Whether an identity is one that the validator reads without an error. -/
def isCanonicalFormulaID (raw : FormulaID) : Bool := (parseCanonicalFormulaID raw).toBool

def isCanonicalTapID (raw : TapID) : Bool := (parseCanonicalTapID raw).toBool

/-- The repository that a tap has by default. -/
def defaultRepository (tap : Tap) : String :=
  "https://github.com/" ++ tap.owner ++ "/homebrew-" ++ tap.name

/-! ## Texts -/

/-- A Git commit in the only spelling that a record accepts. -/
def isCommit (value : String) : Bool :=
  byteLength value == 40 && value.toList.all isLowerHex

def validV2Token (value : String) : Bool :=
  value != "" && byteLength value ≤ 64 && value.toList.all fun character =>
    isLowerAlphaNumeric character || "._-".toList.contains character

def validateBottleFilename (filename : String) : Except String Unit :=
  if filename = "" ∨ 255 < byteLength filename ∨ filename = "." ∨ filename = ".." ∨
      GoPath.base filename ≠ filename ∨ containsAny filename "/\\" ∨
      filename.toList.any isControl then
    .error ("unsafe bottle filename " ++ quote filename)
  else .ok ()

def validateContainedPrebuiltPathV2 (value : String) : Except String Unit :=
  if value = "" ∨ 1024 < byteLength value ∨ GoPath.isAbs value ∨ containsChar value '\\' then
    .error "path must be a bounded relative slash-separated path"
  else if value.toList.any isControl then .error "path contains a control character"
  else if GoPath.clean value ≠ value ∨ GoPath.clean value = "." ∨
      hasPrefix (GoPath.clean value) "../" then
    .error ("path " ++ quote value ++ " is not clean and contained")
  else .ok ()

def validateV2Platform (platform : Platform) : Except String Unit :=
  if platform.os ≠ "linux" ∨ (platform.architecture ≠ "amd64" ∧ platform.architecture ≠ "arm64") ∨
      platform.variant ≠ "" then
    .error ("unsupported platform " ++ platform.os ++ "/" ++ platform.architecture)
  else .ok ()

/-! ## Hosts, URLs and references -/

def validateDNSLabel (label : String) : Except String Unit :=
  if label = "" ∨ 63 < byteLength label ∨ label.toList.head? = some '-' ∨
      label.toList.getLast? = some '-' then
    .error "DNS hostname label is malformed"
  else if ¬ label.toList.all fun character => isLowerAlphaNumeric character || character == '-' then
    .error "DNS hostname contains unsupported characters"
  else .ok ()

section Evidence

variable (libraries : Libraries)

def validatePublicHostname (host : String) : Except String Unit := do
  if host = "" ∨ host ≠ toLower host ∨ trimSpace host ≠ host then
    throw "host must be a non-empty lowercase DNS name"
  if libraries.isIP host then throw "IP-literal hosts are not allowed"
  if host = "localhost" ∨ hasSuffix host ".localhost" ∨ hasSuffix host ".local" then
    throw "local hostnames are not allowed"
  if 253 < byteLength host ∨ hasPrefix host "." ∨ hasSuffix host "." ∨ containsText host ".." then
    throw "DNS hostname is malformed"
  (splitChar host '.').forM validateDNSLabel

def validateHTTPSURL (raw : String) : Except String ParsedURL := do
  if raw = "" ∨ 8 * 2 ^ 10 < byteLength raw ∨ trimSpace raw ≠ raw then
    throw "URL is empty, overlong, or contains surrounding whitespace"
  let parsed ← libraries.parseURL raw
  if parsed.scheme ≠ "https" ∨ parsed.host = "" ∨ parsed.opaqueData ≠ "" then
    throw "URL must be an absolute HTTPS URL"
  if parsed.hasUser then throw "URL userinfo is not allowed"
  if parsed.fragment ≠ "" then throw "URL fragments are not allowed"
  if parsed.port ≠ "" ∧ parsed.port ≠ "443" then
    throw ("URL port " ++ quote parsed.port ++ " is unsupported")
  if parsed.hostname ≠ toLower parsed.hostname then throw "URL hostname must be lowercase"
  validatePublicHostname libraries parsed.hostname
  return parsed

def validateHTTPSOriginV2 (raw : String) : Except String Unit := do
  if raw = "" then throw "HTTPS origin is required"
  if raw ≠ trimSpace raw then throw "origin must not contain surrounding whitespace"
  let parsed ← libraries.parseURL raw
  if parsed.scheme ≠ "https" ∨ parsed.host = "" ∨ parsed.hostname = "" then
    throw "origin must use HTTPS and include a host"
  if parsed.opaqueData ≠ "" ∨ parsed.hasUser then
    throw "origin must not contain opaque data or user information"
  if parsed.path ≠ "" ∨ parsed.rawPath ≠ "" ∨ parsed.rawQuery ≠ "" ∨ parsed.forceQuery ∨
      parsed.fragment ≠ "" then
    throw "origin must not contain a path, query, or fragment"
  if parsed.port ≠ "" ∧ ¬ ((atoi parsed.port).any fun value => 1 ≤ value ∧ value ≤ 65535) then
    throw "origin has an invalid port"

def validateRegistry (registry : String) : Except String Unit := do
  if registry = "" ∨ registry ≠ toLower registry ∨ trimSpace registry ≠ registry then
    throw "registry must be a non-empty lowercase host"
  if containsAny registry "/\\@" ∨ containsText registry "://" then
    throw "registry must not contain a scheme, path, or userinfo"
  match libraries.parseURL ("https://" ++ registry) with
  | .error _ => throw "registry host is invalid"
  | .ok parsed =>
    if parsed.hostname = "" ∨ parsed.path ≠ "" then throw "registry host is invalid"
    if parsed.port ≠ "" ∧ parsed.port ≠ "443" then
      throw ("registry port " ++ quote parsed.port ++ " is unsupported")
    validatePublicHostname libraries parsed.hostname

def validateRepository (registry repository : String) : Except String Unit := do
  if repository = "" ∨ repository ≠ toLower repository ∨ trimSpace repository ≠ repository then
    throw "repository must be a non-empty lowercase path"
  if hasPrefix repository "/" ∨ hasSuffix repository "/" ∨ containsChar repository '\\' ∨
      containsChar repository '@' then
    throw "repository path is malformed"
  if (splitChar repository '/').any fun component =>
      component == "" || component == "." || component == ".." then
    throw "repository path contains an unsafe component"
  let named ← libraries.parseReference (registry ++ "/" ++ repository)
  if named.tagged then throw "repository must not contain a tag"
  if named.digest.isSome then throw "repository must not contain a digest"
  if named.domain ≠ registry ∨ named.path ≠ repository then
    throw "repository is not canonical for the recorded registry"

def validatePinnedReference (ref : String) : Except String Unit :=
  if isBlank ref then .error "digest-pinned reference is required"
  else
    match libraries.parseReference ref with
    | .error message => .error ("invalid OCI reference " ++ quote ref ++ ": " ++ message)
    | .ok named =>
      match named.digest with
      | none => .error ("reference " ++ quote ref ++ " is not digest-pinned")
      | some value => validateDigest libraries value

def sameReferenceRepository (left right : String) : Bool :=
  match libraries.parseReference left, libraries.parseReference right with
  | .ok first, .ok second => equalFold first.domain second.domain && first.path == second.path
  | _, _ => false

/-! ## The component tuple -/

/-- The checks of one supported version; `earlier` are the ones before it. -/
def validatePolicyVersion (name : String) (earlier : List String) (value : String) :
    Except String Unit :=
  if value = "" ∨ 128 < byteLength value then
    .error ("supported " ++ name ++ " policy version " ++ quote value ++ " has invalid length")
  else if value.toList.any fun character =>
      character.toNat < 0x21 || 0x7e < character.toNat || character == ',' then
    .error ("supported " ++ name ++ " policy version " ++ quote value ++
      " is not a printable comma-free ASCII identifier")
  else if value ∈ earlier then
    .error ("supported " ++ name ++ " policy version " ++ quote value ++ " is duplicated")
  else .ok ()

def validatePolicyVersionsV2 (name : String) (values : List String) : Except String Unit := do
  if values = [] then throw ("supported " ++ name ++ " policy versions are required")
  if 32 < values.length then
    throw ("supported " ++ name ++ " policy versions exceed 32 entries")
  values.zipIdx.forM fun (value, index) => validatePolicyVersion name (values.take index) value

def validateComponentsV2 (components : ComponentsV2) : Except String Unit :=
  let localMode := components.catalogExtractorRef != ""
  let serviceMode := components.catalogServiceOrigin != "" ||
    components.ingestionJWSKeyPolicyDigest != ""
  joinErrors (
    ([("frontend index", components.frontendIndexRef), ("frontend", components.frontendRef),
        ("runtime base", components.runtimeBaseRef),
        ("materializer", components.materializerRef),
        ("bottle fetcher", components.bottleFetcherRef)].flatMap fun (name, value) =>
      nested ("V2 " ++ name ++ " component") (validatePinnedReference libraries value)) ++
    finding (!sameReferenceRepository libraries components.frontendIndexRef components.frontendRef)
      "V2 frontend index and child use different repositories" ++
    finding (localMode == serviceMode)
      ("V2 component tuple must select exactly one of build-local extractor or hosted catalog " ++
        "service") ++
    (if localMode then
      nested "V2 catalog extractor component"
        (validatePinnedReference libraries components.catalogExtractorRef) ++
      finding (components.catalogServiceOrigin != "" ||
          components.ingestionJWSKeyPolicyDigest != "")
        "V2 build-local tuple contains hosted catalog-service fields"
    else
      nested "V2 catalog service origin"
        (validateHTTPSOriginV2 libraries components.catalogServiceOrigin) ++
      nested "V2 ingestion JWS key policy"
        (validateDigest libraries components.ingestionJWSKeyPolicyDigest)) ++
    ([("tap policy", components.tapPolicyDigest),
        ("executable runtime policy", components.executableRuntimePolicyDigest),
        ("verification key set", components.verificationKeys)].flatMap fun (name, value) =>
      nested ("V2 " ++ name) (validateDigest libraries value)) ++
    finding (!isCommit components.homebrewCommit)
      "V2 component tuple has an invalid pinned Homebrew commit" ++
    finding (isBlank components.rubyRuntime)
      "V2 component tuple is missing the portable Ruby identity" ++
    finding (components.dalecModule == "" || components.dalecModule == "unknown" ||
        components.buildKitModule == "" || components.buildKitModule == "unknown")
      "V2 component tuple is missing Dalec or BuildKit module versions" ++
    ([("catalog", components.supportedCatalogPolicyVersions),
        ("fetch", components.supportedFetchPolicyVersions),
        ("provenance", components.supportedProvenancePolicyVersions)].flatMap
      fun (name, values) => reported (validatePolicyVersionsV2 name values)))

/-! ## Metadata documents -/

def validateTapExtractionV2 (extraction : TapExtractionV2) (source : MetadataSource)
    (components : ComponentsV2) :
    Except String Unit :=
  joinErrors (
    finding (extraction.policyVersion != buildLocalExtractionPolicyV1)
      ("unsupported policy_version " ++ quote extraction.policyVersion) ++
    (match validatePinnedReference libraries extraction.extractorRef with
      | .error message => ["extractor_ref: " ++ message]
      | .ok _ => finding (extraction.extractorRef != components.catalogExtractorRef)
          "extractor_ref does not match component tuple") ++
    (match parseCanonicalTapID source.tap with
      | .error _ => []
      | .ok tap => finding (extraction.repository != defaultRepository tap)
          ("repository " ++ quote extraction.repository ++ " does not match " ++
            quote (defaultRepository tap))) ++
    ([("tree_digest", extraction.treeDigest), ("archive_digest", extraction.archiveDigest),
        ("catalog_digest", extraction.catalogDigest)].flatMap fun (name, value) =>
      nested name (validateDigest libraries value)) ++
    (match source.documents with
      | [document] => finding (document.name == "catalog" &&
            document.digest != extraction.catalogDigest)
          "catalog_digest does not match metadata document"
      | _ => []))

/-- The documents that a source must have, and whether each carries an envelope. -/
def requiredDocuments (core extracted : Bool) : List (String × Bool) :=
  if core then [("formula", true), ("migrations", true)]
  else if extracted then [("catalog", false)]
  else [("catalog", false), ("set", true)]

def requiredDescription (core extracted : Bool) : String :=
  if core then "formula and migrations" else if extracted then "catalog" else "catalog and set"

def validateMetadataDocumentsV2 (label : String) (core extracted : Bool)
    (documents : List MetadataDocument) :
    Except String Unit :=
  let requirements := requiredDocuments core extracted
  let description := requiredDescription core extracted
  joinErrors (
    finding (documents.length != requirements.length)
      (label ++ " documents must contain exactly " ++ description) ++
    (documents.flatMap fun document =>
      finding (!requirements.any fun required => required.1 == document.name)
        (label ++ " has unexpected authenticated document " ++ quote document.name ++
          "; expected exactly " ++ description)) ++
    requirements.flatMap fun (name, requiresEnvelope) =>
      match documents.reverse.find? fun document => document.name == name with
      | none => [label ++ " is missing required authenticated document " ++ quote name]
      | some document =>
        finding (requiresEnvelope && document.envelopeDigest == "")
          (label ++ " document " ++ quote name ++ " requires an authenticated envelope digest") ++
        finding (!requiresEnvelope && document.envelopeDigest != "")
          (label ++ " document " ++ quote name ++ " must not carry a separate envelope digest"))

/-! ## Bottles -/

/-- The transports that a bottle sets. -/
def BottleTransport.members (transport : BottleTransport) : Nat :=
  transport.oci.toList.length + transport.https.toList.length +
    transport.localArtifact.toList.length

variable (id : FormulaID)

def expectedOCIRepository : Except String String :=
  match parseCanonicalFormulaID id with
  | .error message => .error message
  | .ok parsed =>
    let escaped := String.ofList (parsed.name.toList.map fun character =>
      if character = '@' then '/' else if character = '+' then 'x' else character)
    if escaped = "" ∨ hasPrefix escaped "/" ∨ hasSuffix escaped "/" then
      .error "escaped Formula repository name is invalid"
    else .ok (parsed.tap.owner ++ "/" ++ parsed.tap.name ++ "/" ++ escaped)

/-- Without a manifest only the tag and the architecture of the tab are compared. -/
def validateBottleTarget (platform : Platform) (id : FormulaID) (tag tabArch : String)
    (manifest : Option Descriptor) :
    Except String Unit :=
  let expected := expectedTarget platform
  if tag = "all" then
    if tabArch ≠ "" then
      .error ("node " ++ quote id ++ " all bottle has architecture " ++ quote tabArch)
    else if manifest.any fun descriptor => descriptor.platform.isSome then
      .error ("node " ++ quote id ++ " all bottle manifest unexpectedly has a platform")
    else .ok ()
  else if tag = expected.1 then
    if tabArch ≠ expected.2 then
      .error ("node " ++ quote id ++ " bottle tab architecture " ++ quote tabArch ++
        ", expected " ++ quote expected.2)
    else if manifest.any fun descriptor => !matchesTarget platform descriptor.platform then
      .error ("node " ++ quote id ++ " bottle manifest platform does not match target")
    else .ok ()
  else .error ("node " ++ quote id ++ " bottle tag " ++ quote tag ++ " does not match target")

/-- The request that fetches a transport. -/
def HTTPSTransport.fetchRequest (transport : HTTPSTransport) (id : FormulaID) :
    Fetcher.Request where
  schemaVersion := Fetcher.requestSchemaVersion
  fetchPolicyVersion := transport.fetchPolicyVersion
  artifactID := id
  url := transport.url
  expectedSize := transport.expectedSize
  sha256 := trimPrefix transport.sha256 "sha256:"
  filename := transport.filename
  allowedRedirectHosts := transport.allowedRedirectHosts

/-- The findings about redirect hosts, under the context of the bottle or of its source. -/
def redirectHostFindings (context : String) (hosts : List String) : List String :=
  hosts.zipIdx.flatMap fun (host, index) =>
    nested (context ++ " HTTPS redirect host " ++ quote host)
      (validatePublicHostname libraries host) ++
    finding ((hosts.take index).contains host)
      (context ++ " HTTPS redirect host " ++ quote host ++ " is duplicated")

def validatePrebuiltHTTPSTransportV2 (label : String) (transport : HTTPSTransport)
    (filename : String) (size : Int) (checksum : String) :
    Except String Unit :=
  let parsed := validateHTTPSURL libraries transport.url
  joinErrors (
    nested (label ++ " HTTPS URL") (parsed.map fun _ => ()) ++
    finding (transport.expectedSize != size || transport.sha256 != checksum ||
        transport.filename != filename)
      (label ++ " HTTPS transport does not match signed artifact identity") ++
    finding (transport.fetchPolicyVersion != httpsFetchPolicyVersionV1)
      (label ++ " HTTPS fetch policy " ++ quote transport.fetchPolicyVersion ++
        " is unsupported") ++
    finding (transport.allowedRedirectHosts == [] ||
        maxResolutionV2Redirects + 1 < transport.allowedRedirectHosts.length)
      (label ++ " HTTPS redirect host allowlist has invalid size " ++
        decimal transport.allowedRedirectHosts.length) ++
    redirectHostFindings libraries label transport.allowedRedirectHosts ++
    (match parsed with
      | .ok url => finding (!transport.allowedRedirectHosts.contains url.hostname)
          (label ++ " HTTPS redirect allowlist omits origin host " ++ quote url.hostname)
      | .error _ => []) ++
    nested (label ++ " HTTPS fetch contract")
      ((Fetcher.validateRequest libraries.toLibrary (transport.fetchRequest id)).map fun _ => ()))

def validateCatalogArtifactTransportV2 (transport : HTTPSTransport) (origin : String)
    (bottle : BottleV2) :
    Except String Unit :=
  match libraries.parseURL origin with
  | .error _ => .error "catalog service origin is invalid"
  | .ok parsedOrigin =>
    let expectedURL := origin ++ "/v1/artifacts/sha256/" ++ trimPrefix bottle.sha256 "sha256:"
    if parsedOrigin.hostname = "" then .error "catalog service origin is invalid"
    else
      joinErrors (
        finding (transport.url != expectedURL)
          ("derived bottle URL " ++ quote transport.url ++
            " does not match catalog service artifact URL " ++ quote expectedURL) ++
        finding (transport.allowedRedirectHosts != [parsedOrigin.hostname])
          ("derived bottle redirect hosts must contain only catalog service host " ++
            quote parsedOrigin.hostname))

/-- The conditions on the mode of the payload in its archive. -/
def isArchiveMode (mode : Nat) : Bool :=
  mode != 0 && mode &&& 0o777 == mode && mode &&& 0o111 != 0 && mode &&& 0o022 == 0

def validatePrebuiltDerivationV2 (platform : Platform) (id : FormulaID) (bottle : BottleV2)
    (derivation : PrebuiltDerivationV2) (executablePaths : List String)
    (catalogServiceOrigin tapPolicyDigest metadataCommit : String) :
    Except String Unit :=
  let maxSourceEntries : Int := 4096
  let maxSourceExpandedBytes : Int := 4 * 2 ^ 30
  let maxFormulaSourceBytes : Int := 4 * 2 ^ 20
  let parsedID := parseCanonicalFormulaID id
  let source := derivation.source
  let payload := derivation.payload
  let elf := derivation.elf
  let expectedMachine := if platform.architecture = "arm64" then "aarch64" else "x86_64"
  let formulaSource := derivation.formulaSource
  let formulaTap := formulaSource.transport.tap
  let relation := derivation.derivedBottle
  joinErrors (
    (match parsedID with
      | .error message => [message]
      | .ok parsed => finding (parsed.tap == coreTap)
          "prebuilt derivation is not supported for homebrew/core") ++
    finding (derivation.policyVersion != prebuiltDerivedBottlePolicyV1)
      ("unsupported policy version " ++ quote derivation.policyVersion) ++
    (match validateDigest libraries derivation.policyDigest with
      | .error message => ["policy digest: " ++ message]
      | .ok _ => finding (derivation.policyDigest != tapPolicyDigest)
          ("policy digest " ++ quote derivation.policyDigest ++
            " does not match release tap policy " ++ quote tapPolicyDigest)) ++
    finding (source.format != "tar+gzip")
      ("unsupported source format " ++ quote source.format) ++
    nested "source filename" (validateBottleFilename source.filename) ++
    finding (source.size ≤ 0 || maxResolutionV2BottleBytes < source.size)
      ("source size " ++ decimalInt source.size ++ " is outside 1.." ++
        decimalInt maxResolutionV2BottleBytes) ++
    nested "source digest" (validateDigest libraries source.sha256) ++
    finding (source.sha256 == bottle.sha256 && source.sha256 != "")
      "source archive and derived bottle must have distinct digests" ++
    (match source.transport.oci, source.transport.https with
      | none, some transport =>
        reported (validatePrebuiltHTTPSTransportV2 libraries id "source" transport
          source.filename source.size source.sha256)
      | _, _ => ["source transport must contain HTTPS only"]) ++
    nested "source inventory digest"
      (validateDigest libraries derivation.sourceInventory.inventoryDigest) ++
    finding (derivation.sourceInventory.entryCount ≤ 0 ||
        maxSourceEntries < derivation.sourceInventory.entryCount)
      ("source inventory entry count " ++ decimalInt derivation.sourceInventory.entryCount ++
        " is outside 1.." ++ decimalInt maxSourceEntries) ++
    finding (derivation.sourceInventory.expandedSize ≤ 0 ||
        maxSourceExpandedBytes < derivation.sourceInventory.expandedSize)
      ("source inventory expanded size " ++ decimalInt derivation.sourceInventory.expandedSize ++
        " is outside 1.." ++ decimalInt maxSourceExpandedBytes) ++
    nested "payload source path" (validateContainedPrebuiltPathV2 payload.sourcePath) ++
    nested "payload destination path" (validateContainedPrebuiltPathV2 payload.destinationPath) ++
    (match parsedID with
      | .error _ => []
      | .ok parsed => finding (payload.destinationPath != "bin/" ++ parsed.name)
          ("payload destination " ++ quote payload.destinationPath ++
            " does not match Formula rack " ++ quote parsed.name)) ++
    finding (!executablePaths.contains payload.destinationPath)
      ("payload destination " ++ quote payload.destinationPath ++
        " is absent from node executable paths") ++
    nested "payload digest" (validateDigest libraries payload.sha256) ++
    (if payload.size ≤ 0 ∨ maxSourceExpandedBytes < payload.size then
      ["payload size " ++ decimalInt payload.size ++ " is outside 1.." ++
        decimalInt maxSourceExpandedBytes]
    else
      finding (0 < derivation.sourceInventory.expandedSize &&
          derivation.sourceInventory.expandedSize < payload.size)
        "payload size exceeds verified source inventory") ++
    finding (!isArchiveMode payload.archiveMode)
      ("payload archive mode " ++ octal payload.archiveMode ++
        " is not a non-group-writable executable mode") ++
    finding (payload.derivedMode != 0o555)
      ("payload derived mode " ++ octal payload.derivedMode ++ " must be 0555") ++
    finding (elf.format != "elf64" || elf.machine != expectedMachine || !elf.staticallyLinked ||
        elf.interpreter != "" || elf.neededLibraries != some [] || elf.rpaths != some [] ||
        elf.writableExecutableSegments)
      ("ELF evidence does not describe a static " ++ expectedMachine ++ " elf64 executable") ++
    (match parseCanonicalTapID formulaTap.id, parsedID with
      | .error message, _ => ["Formula source tap: " ++ message]
      | .ok tap, .ok parsed => finding (tap.string != parsed.tap.string)
          ("Formula source tap " ++ quote tap.string ++ " does not match node tap " ++
            quote parsed.tap.string)
      | .ok _, .error _ => []) ++
    (match parsedID with
      | .error _ => []
      | .ok parsed =>
        finding (formulaTap.repository != defaultRepository parsed.tap)
          ("Formula source repository " ++ quote formulaTap.repository ++ " does not match " ++
            quote (defaultRepository parsed.tap)) ++
        finding (!(validateContainedPrebuiltPathV2 formulaSource.transport.path).toBool ||
            GoPath.base formulaSource.transport.path != parsed.name ++ ".rb")
          ("Formula source path " ++ quote formulaSource.transport.path ++
            " does not match node " ++ quote id)) ++
    (if !isCommit formulaTap.commit then ["Formula source commit is invalid"]
    else
      finding (metadataCommit != "" && formulaTap.commit != metadataCommit)
        ("Formula source commit " ++ quote formulaTap.commit ++
          " does not match metadata source commit " ++ quote metadataCommit)) ++
    ([("Formula source tree", formulaTap.treeDigest),
        ("Formula source archive", formulaTap.archiveDigest),
        ("Formula source", formulaSource.sha256), ("recipe", derivation.recipeDigest)].flatMap
      fun (label, value) => nested (label ++ " digest") (validateDigest libraries value)) ++
    finding (formulaSource.size ≤ 0 || maxFormulaSourceBytes < formulaSource.size)
      ("Formula source size " ++ decimalInt formulaSource.size ++ " is outside 1.." ++
        decimalInt maxFormulaSourceBytes) ++
    finding (formulaSource.sha256 != bottle.currentFormulaSourceDigest ||
        formulaSource.sha256 != bottle.bottleFormulaSourceDigest ||
        formulaSource.sha256 != relation.formulaSourceDigest)
      ("Formula source digest does not bind current, embedded, and derived-bottle evidence") ++
    finding (!bottle.tab.receiptless) "derived bottle must be marked receiptless" ++
    finding (relation.tag != bottle.tag || relation.filename != bottle.filename ||
        relation.sha256 != bottle.sha256 || relation.size != bottle.size ||
        relation.verification != bottle.verification)
      "derived-bottle relation does not match outer bottle" ++
    (match bottle.transport.https with
      | none => []
      | some transport =>
        reported (validateCatalogArtifactTransportV2 libraries transport catalogServiceOrigin
          bottle)))

/-- Whether a core bottle leaves its evidence to the prepare phase. -/
def BottleV2.deferredCore (bottle : BottleV2) (id : FormulaID) : Bool :=
  hasPrefix id "homebrew/core/" &&
    bottle.verification.policyVersion == coreBottleVerificationDeferredV1

def deferredFindings (bottle : BottleV2) : List String :=
  nested ("node " ++ quote id ++ " current Formula source digest")
    (validateDigest libraries bottle.currentFormulaSourceDigest) ++
  finding (bottle.bottleFormulaSourceDigest != "" || bottle.bottleSourceRepository != "" ||
      bottle.bottleSourceCommit != "" || bottle.bottleFormulaPath != "" ||
      bottle.bottleSourceWaiver != "" || bottle.verification.inventoryDigest != "" ||
      bottle.verification.entryCount != 0 || bottle.verification.expandedSize != 0)
    ("node " ++ quote id ++ " deferred core verification contains premature bottle evidence")

/-- The findings about where the bottle was built, by its kind of transport. -/
def bottleSourceFindings (bottle : BottleV2) : List String :=
  let asserted := bottle.bottleSourceRepository != "" || bottle.bottleSourceCommit != "" ||
    bottle.bottleFormulaPath != ""
  if bottle.prebuiltDerivation.isSome then
    finding (bottle.transport.https.isNone && bottle.transport.localArtifact.isNone)
      ("node " ++ quote id ++ " prebuilt-derived bottle requires HTTPS or build-local transport") ++
    finding (bottle.bottleSourceWaiver != "" || asserted)
      ("node " ++ quote id ++
        " prebuilt-derived bottle conflicts with native bottle source evidence")
  else if bottle.transport.https.isSome then
    finding (bottle.bottleSourceWaiver != httpsBottleSourceWaiverPolicyV1)
      ("node " ++ quote id ++ " HTTPS bottle requires source waiver " ++
        quote httpsBottleSourceWaiverPolicyV1) ++
    finding asserted
      ("node " ++ quote id ++ " HTTPS source waiver conflicts with asserted historical source")
  else if bottle.transport.localArtifact.isSome then
    ["node " ++ quote id ++ " build-local transport is limited to prebuilt-derived bottles"]
  else
    finding (bottle.bottleSourceWaiver != "")
      ("node " ++ quote id ++ " OCI bottle cannot use an HTTPS source waiver") ++
    (match parseCanonicalFormulaID id with
      | .error _ => []
      | .ok parsed => finding (bottle.bottleSourceRepository != defaultRepository parsed.tap)
          ("node " ++ quote id ++ " bottle source repository " ++
            quote bottle.bottleSourceRepository ++ " does not match " ++
            quote (defaultRepository parsed.tap))) ++
    finding (!isCommit bottle.bottleSourceCommit)
      ("node " ++ quote id ++ " bottle source commit is invalid") ++
    finding (bottle.bottleFormulaPath == "" || GoPath.isAbs bottle.bottleFormulaPath ||
        GoPath.clean bottle.bottleFormulaPath != bottle.bottleFormulaPath ||
        containsChar bottle.bottleFormulaPath '\\')
      ("node " ++ quote id ++ " bottle Formula path is invalid")

def verifiedFindings (bottle : BottleV2) : List String :=
  ([("current Formula source", bottle.currentFormulaSourceDigest),
      ("bottle Formula source", bottle.bottleFormulaSourceDigest),
      ("inventory", bottle.verification.inventoryDigest)].flatMap fun (label, value) =>
    nested ("node " ++ quote id ++ " " ++ label ++ " digest") (validateDigest libraries value)) ++
  bottleSourceFindings id bottle ++
  finding (bottle.verification.policyVersion != bottleVerificationPolicyV1)
    ("node " ++ quote id ++ " bottle verification policy " ++
      quote bottle.verification.policyVersion ++ " is unsupported") ++
  finding (bottle.verification.entryCount ≤ 0 || 250000 < bottle.verification.entryCount)
    ("node " ++ quote id ++ " bottle verification entry count " ++
      decimalInt bottle.verification.entryCount ++ " is invalid") ++
  finding (bottle.verification.expandedSize ≤ 0 || 8 * 2 ^ 30 < bottle.verification.expandedSize)
    ("node " ++ quote id ++ " bottle verification expanded size " ++
      decimalInt bottle.verification.expandedSize ++ " is invalid")

def annotationFindings (annotations : List KV) : List String :=
  annotations.zipIdx.flatMap fun (pair, index) =>
    finding (pair.key == "")
      ("node " ++ quote id ++ " " ++ indexed "selected_annotations" index ++ " has an empty key") ++
    finding ((annotations.take index).any fun earlier => earlier.key == pair.key)
      ("node " ++ quote id ++ " has duplicate selected annotation " ++ quote pair.key)

/-- A dependency whose identity cannot be read is not looked at further. -/
def tabDependencyFindings (dependencies : List RuntimeDependencyV2) : List String :=
  dependencies.zipIdx.flatMap fun (dependency, index) =>
    match parseCanonicalFormulaID dependency.id with
    | .error message =>
      ["node " ++ quote id ++ " bottle tab " ++ indexed "runtime_dependencies" index ++
        ".id: " ++ message]
    | .ok dependencyID =>
      let canonicalID := dependencyID.string
      finding ((dependencies.take index).any fun earlier => earlier.id == canonicalID)
        ("node " ++ quote id ++ " bottle tab has duplicate runtime dependency " ++
          quote canonicalID) ++
      (match parseCanonicalFormulaID dependency.homebrewFullName with
        | .error message =>
          ["node " ++ quote id ++ " bottle tab runtime dependency " ++ quote canonicalID ++
            " homebrew_full_name: " ++ message]
        | .ok fullName => finding (fullName.string != dependencyID.string)
            ("node " ++ quote id ++ " bottle tab runtime dependency " ++ quote canonicalID ++
              " has mismatched homebrew_full_name " ++ quote dependency.homebrewFullName)) ++
      finding (dependency.revision < 0 || dependency.bottleRebuild < 0)
        ("node " ++ quote id ++ " bottle tab runtime dependency " ++ quote canonicalID ++
          " has a negative revision")

def tabFindings (tab : BottleTabV2) : List String :=
  finding (tab.receiptless && (tab.homebrewVersion != "" || tab.compiler != "" ||
      tab.changedFiles != [] || tab.builtOn != {} || tab.dependencies != []))
    ("node " ++ quote id ++ " receiptless bottle tab claims receipt-only metadata") ++
  tabDependencyFindings id tab.dependencies

def OCITransport.descriptors (transport : OCITransport) : List (String × Descriptor) :=
  [("index", transport.index), ("manifest", transport.manifest), ("config", transport.config),
    ("layer", transport.layer)]

def ociFindings (platform : Platform) (id : FormulaID) (bottle : BottleV2)
    (transport : OCITransport) :
    List String :=
  (match expectedOCIRepository id with
    | .error message => ["node " ++ quote id ++ " OCI identity: " ++ message]
    | .ok expected =>
      finding (transport.registry != "ghcr.io" || transport.repository != expected)
        ("node " ++ quote id ++ " OCI transport " ++ transport.registry ++ "/" ++
          transport.repository ++ " does not match canonical ghcr.io/" ++ expected)) ++
  nested ("node " ++ quote id ++ " OCI registry") (validateRegistry libraries transport.registry) ++
  nested ("node " ++ quote id ++ " OCI repository")
    (validateRepository libraries transport.registry transport.repository) ++
  (transport.descriptors.flatMap fun (name, descriptor) =>
    nested ("node " ++ quote id ++ " OCI " ++ name ++ " descriptor")
      (validateDescriptor libraries descriptor)) ++
  finding (transport.layer.size != bottle.size)
    ("node " ++ quote id ++ " OCI layer size " ++ decimalInt transport.layer.size ++
      " does not match bottle size " ++ decimalInt bottle.size) ++
  finding (maxResolutionV2BottleBytes < transport.layer.size)
    ("node " ++ quote id ++ " OCI layer size " ++ decimalInt transport.layer.size ++ " exceeds " ++
      decimalInt maxResolutionV2BottleBytes) ++
  finding (transport.layer.digest != bottle.sha256)
    ("node " ++ quote id ++ " OCI layer digest does not match authenticated Homebrew checksum") ++
  reported (validateBottleTarget platform id bottle.tag bottle.tab.arch transport.manifest)

def httpsFindings (platform : Platform) (id : FormulaID) (bottle : BottleV2)
    (transport : HTTPSTransport) :
    List String :=
  let parsed := validateHTTPSURL libraries transport.url
  nested ("node " ++ quote id ++ " HTTPS URL") (parsed.map fun _ => ()) ++
  finding (transport.expectedSize ≤ 0 || maxResolutionV2BottleBytes < transport.expectedSize)
    ("node " ++ quote id ++ " HTTPS expected_size " ++ decimalInt transport.expectedSize ++
      " is outside 1.." ++ decimalInt maxResolutionV2BottleBytes) ++
  finding (transport.expectedSize != bottle.size)
    ("node " ++ quote id ++ " HTTPS expected_size " ++ decimalInt transport.expectedSize ++
      " does not match bottle size " ++ decimalInt bottle.size) ++
  nested ("node " ++ quote id ++ " HTTPS sha256") (validateDigest libraries transport.sha256) ++
  finding (transport.sha256 != bottle.sha256)
    ("node " ++ quote id ++ " HTTPS checksum does not match authenticated Homebrew checksum") ++
  (match validateBottleFilename transport.filename with
    | .error message => ["node " ++ quote id ++ " HTTPS filename: " ++ message]
    | .ok _ => finding (transport.filename != bottle.filename)
        ("node " ++ quote id ++ " HTTPS filename " ++ quote transport.filename ++
          " does not match bottle filename " ++ quote bottle.filename)) ++
  finding (transport.fetchPolicyVersion != httpsFetchPolicyVersionV1)
    ("node " ++ quote id ++ " HTTPS fetch policy " ++ quote transport.fetchPolicyVersion ++
      " is unsupported") ++
  finding (transport.allowedRedirectHosts == [])
    ("node " ++ quote id ++ " HTTPS redirect host allowlist is empty") ++
  finding (maxResolutionV2Redirects + 1 < transport.allowedRedirectHosts.length)
    ("node " ++ quote id ++ " HTTPS redirect host allowlist has " ++
      decimal transport.allowedRedirectHosts.length ++ " entries; maximum is " ++
      decimal (maxResolutionV2Redirects + 1)) ++
  redirectHostFindings libraries ("node " ++ quote id) transport.allowedRedirectHosts ++
  (match parsed with
    | .ok url => finding (!transport.allowedRedirectHosts.contains url.hostname)
        ("node " ++ quote id ++ " HTTPS redirect host allowlist omits origin host " ++
          quote url.hostname)
    | .error _ => []) ++
  nested ("node " ++ quote id ++ " HTTPS fetch contract")
    ((Fetcher.validateRequest libraries.toLibrary (transport.fetchRequest id)).map fun _ => ()) ++
  reported (validateBottleTarget platform id bottle.tag bottle.tab.arch none)

def localFindings (platform : Platform) (id : FormulaID) (bottle : BottleV2)
    (transport : LocalTransport) :
    List String :=
  finding (transport.policyVersion != buildLocalArtifactPolicyV1)
    ("node " ++ quote id ++ " build-local policy " ++ quote transport.policyVersion ++
      " is unsupported") ++
  finding (transport.sha256 != bottle.sha256 || transport.size != bottle.size ||
      transport.filename != bottle.filename)
    ("node " ++ quote id ++ " build-local transport does not match bottle identity") ++
  nested ("node " ++ quote id ++ " build-local digest")
    (validateDigest libraries transport.sha256) ++
  reported (validateBottleTarget platform id bottle.tag bottle.tab.arch none)

/-- The findings that `validateBottleV2` makes before it looks at the transport. -/
def bottleHeaderFindings (bottle : BottleV2) : List String :=
  finding (bottle.tag == "") ("node " ++ quote id ++ " bottle tag is empty") ++
  finding (bottle.cellar == "") ("node " ++ quote id ++ " bottle Cellar policy is empty") ++
  nested ("node " ++ quote id ++ " bottle filename") (validateBottleFilename bottle.filename) ++
  finding (bottle.size ≤ 0 || maxResolutionV2BottleBytes < bottle.size)
    ("node " ++ quote id ++ " bottle size " ++ decimalInt bottle.size ++ " is outside 1.." ++
      decimalInt maxResolutionV2BottleBytes) ++
  nested ("node " ++ quote id ++ " authenticated bottle digest")
    (validateDigest libraries bottle.sha256) ++
  (if bottle.deferredCore id then deferredFindings libraries id bottle
    else verifiedFindings libraries id bottle) ++
  annotationFindings id bottle.selectedAnnotations ++
  tabFindings id bottle.tab

/-- The digest of the bytes that the transport delivers; of several, the last one. -/
def BottleTransport.artifactDigest (transport : BottleTransport) : String :=
  match transport.localArtifact, transport.https, transport.oci with
  | some artifact, _, _ => artifact.sha256
  | none, some https, _ => https.sha256
  | none, none, some oci => oci.layer.digest
  | none, none, none => ""

/-- The digest of the bottle's bytes, and what is wrong with the bottle. -/
def validateBottleV2 (platform : Platform) (id : FormulaID) (bottle : BottleV2)
    (executablePaths : List String) (components : ComponentsV2) (metadataCommit : String) :
    String × Except String Unit :=
  let header := bottleHeaderFindings libraries id bottle
  if bottle.transport.members ≠ 1 then
    ("", joinErrors (header ++
      ["node " ++ quote id ++ " bottle transport must set exactly one of oci, https, or local"]))
  else
    (bottle.transport.artifactDigest, joinErrors (header ++
      finding (bottle.tab.receiptless && bottle.transport.https.isNone &&
          bottle.transport.localArtifact.isNone)
        ("node " ++ quote id ++
          " receiptless tab marker is supported only for HTTPS or build-local bottles") ++
      bottle.transport.oci.toList.flatMap (ociFindings libraries platform id bottle) ++
      bottle.transport.https.toList.flatMap (httpsFindings libraries platform id bottle) ++
      bottle.transport.localArtifact.toList.flatMap (localFindings libraries platform id bottle) ++
      bottle.prebuiltDerivation.toList.flatMap fun derivation =>
        nested ("node " ++ quote id ++ " prebuilt derivation")
          (validatePrebuiltDerivationV2 libraries platform id bottle derivation executablePaths
            components.catalogServiceOrigin components.tapPolicyDigest metadataCommit)))

/-! ## Provenance -/

def verifiedProvenanceFindings (subjectDigest : String) (prebuilt : Bool)
    (verified : VerifiedProvenance) :
    List String :=
  finding (verified.policyVersion != verifiedProvenancePolicyV1)
    ("unsupported verified provenance policy " ++ quote verified.policyVersion) ++
  (match validateDigest libraries verified.subjectDigest with
    | .error message => ["subject digest: " ++ message]
    | .ok _ => finding (subjectDigest != "" && verified.subjectDigest != subjectDigest)
        ("subject digest " ++ quote verified.subjectDigest ++ " does not match " ++
          (if prebuilt then "prebuilt source archive" else "bottle") ++ " digest " ++
          quote subjectDigest)) ++
  nested "statement digest" (validateDigest libraries verified.statementDigest) ++
  nested "bundle digest" (validateDigest libraries verified.bundleDigest) ++
  finding (isBlank verified.signerIdentity) "signer identity is required" ++
  finding (isBlank verified.issuer) "issuer is required"

def validateProvenanceV2 (subjectDigest : String) (prebuilt : Bool) (provenance : Provenance) :
    Except String Unit :=
  match provenance.verified, provenance.waiver with
  | some verified, none =>
    match joinErrors (verifiedProvenanceFindings libraries subjectDigest prebuilt verified) with
    | .ok _ => .ok ()
    | .error message => .error ("node " ++ quote id ++ " verified provenance: " ++ message)
  | none, some waiver =>
    if prebuilt then
      if waiver.policy ≠ prebuiltProvenanceWaiverPolicyV1 then
        .error ("node " ++ quote id ++ " prebuilt provenance waiver " ++ quote waiver.policy ++
          " is unsupported")
      else .ok ()
    else if waiver.policy ≠ provenanceWaiverPolicyV1 ∧
        ¬ (hasPrefix id "homebrew/core/" ∧ waiver.policy = coreProvenanceWaiverPolicyV1) then
      .error ("node " ++ quote id ++ " provenance waiver " ++ quote waiver.policy ++
        " is unsupported")
    else .ok ()
  | _, _ =>
    .error ("node " ++ quote id ++ " provenance must set exactly one of verified or waiver")

end Evidence

end DalecHomebrew.Resolution
