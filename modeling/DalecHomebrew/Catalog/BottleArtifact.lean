import DalecHomebrew.Catalog.CatalogSet

/-!
# Validation of bottle artifacts

`ValidateBottleArtifact` of `internal/catalog/validate.go` with everything it
calls: the bottle tab, the transport union, the provenance, and the derivation of
a bottle that was made from a prebuilt archive.  What the validator establishes
about the transports and about the paths of an accepted artifact is collected in
`AcceptedArtifact`.
-/

namespace DalecHomebrew.Catalog

open Foundation Foundation.GoString Homebrew

def httpsFetchPolicyVersion : String := "homebrew-bottle-fetch-v1"
def bottleVerificationPolicy : String := "homebrew-bottle-static-v1"
def prebuiltELFFormatELF64 : String := "elf64"
def prebuiltELFMachineX8664 : String := "x86_64"
def prebuiltELFMachineAArch64 : String := "aarch64"
def verifiedProvenancePolicy : String := "sigstore-in-toto-v1"
def checksumProvenanceWaiver : String := "tap-catalog-buildkit-and-verified-checksum-v1"
def prebuiltProvenanceWaiver : String := "prebuilt-archive-buildkit-and-verified-checksum-v1"
def httpsBottleSourceWaiver : String := "https-bottle-embedded-formula-digest-only-v1"
def buildLocalArtifactPolicyVersion : String := "build-local-artifact-v1"
def maxBottleBytes : Int := 2 ^ 30
def maxPrebuiltArchiveEntries : Int := 4096
def maxPrebuiltArchiveExpandedBytes : Int := 4 * 2 ^ 30
def maxPrebuiltFormulaSourceBytes : Int := 4 * 2 ^ 20
def maxRedirects : Nat := 5

/-- The library functions that the validation of artifacts calls. -/
structure ArtifactLibrary extends NetLibrary where
  /-- `reference.Path` of what `reference.ParseNormalizedNamed` reads. -/
  repositoryPath : String → Option String
  /-- `url.PathUnescape`. -/
  pathUnescape : String → Option String

/-! ## Paths and names -/

/-- The condition under which an executable path or a changed file is unsafe. -/
def isUnsafePath (value : String) : Bool :=
  value == "" || value == "." || value == ".." || hasControl value || GoPath.isAbs value ||
    GoPath.clean value != value || hasPrefix value "../" || containsChar value '\\'

def validateContainedSlashPath (value : String) : Except String Unit :=
  if value = "" ∨ maxSourcePathBytes < byteLength value ∨ hasControl value ∨
      containsChar value '\\' ∨ GoPath.isAbs value then
    .error "must be a bounded relative slash-separated path"
  else if GoPath.clean value ≠ value ∨ GoPath.clean value = "." ∨
      hasPrefix (GoPath.clean value) "../" then
    .error ("path " ++ quote value ++ " is not clean and contained")
  else .ok ()

def validateFormulaSourceFilePath (value : String) : Except String Unit := do
  validateContainedSlashPath value
  let base := GoPath.base value
  if !hasSuffix base ".rb" ∨ base = ".rb" then throw "path must name a Formula .rb file"
  validateRackName (trimSuffix base ".rb")

def validateSafeFilename (value : String) : Except String Unit :=
  if value = "" ∨ 255 < byteLength value ∨ hasControl value ∨ containsAny value "/\\" ∨
      GoPath.base value ≠ value ∨ value = "." ∨ value = ".." then
    .error ("unsafe filename " ++ quote value)
  else .ok ()

def hasControlExceptWhitespace (value : String) : Bool :=
  value.toList.any fun character =>
    (character.toNat < 0x20 && character != '\n' && character != '\r' && character != '\t') ||
      character.toNat == 0x7f

def isPolicyCharacter (character : Char) : Bool :=
  isLowerAlphaNumeric character || character == '.' || character == '_' || character == '-' ||
    character == '/'

def validatePolicyVersion (name value : String) : Except String Unit := do
  if value = "" ∨ 256 < byteLength value ∨ hasControl value ∨ value ≠ toLower value then
    throw (name ++ " is empty, overlong, contains control characters, or is not lowercase")
  if let some character := value.toList.find? fun character => !isPolicyCharacter character then
    throw (name ++ " contains unsupported character " ++ quoteRune character)
  if ¬ (value.toList.head?.any isLowerAlphaNumeric ∧
      value.toList.getLast?.any isLowerAlphaNumeric) then
    throw (name ++ " must start and end with a lowercase letter or digit")

/-! ## Transports -/

def isRepositoryCharacter (character : Char) : Bool :=
  isLowerAlphaNumeric character || character == '.' || character == '_' || character == '-'

def validateRepositoryPart (repository part : String) : Except String Unit := do
  if part = "" ∨ part = "." ∨ part = ".." ∨ ¬ part.toList.head?.any isLowerAlphaNumeric ∨
      ¬ part.toList.getLast?.any isLowerAlphaNumeric then
    throw ("repository " ++ quote repository ++ " contains an invalid component")
  if let some character := part.toList.find? fun character => !isRepositoryCharacter character then
    throw ("repository " ++ quote repository ++ " contains unsupported character " ++
      quoteRune character)

def validateOCIRepository (library : ArtifactLibrary) (repository : String) :
    Except String Unit := do
  if repository = "" ∨ 255 < byteLength repository ∨ repository ≠ toLower repository ∨
      containsChar repository '\\' then
    throw ("repository " ++ quote repository ++
      " is empty, overlong, non-canonical, or contains a backslash")
  if (splitChar repository '/').length < 2 then
    throw ("repository " ++ quote repository ++ " must contain at least two path components")
  (splitChar repository '/').forM (validateRepositoryPart repository)
  if library.repositoryPath ("example.invalid/" ++ repository) ≠ some repository then
    throw ("repository " ++ quote repository ++ " does not follow OCI repository grammar")

def validateDescriptor (descriptor : Descriptor) : Except String Unit :=
  joinErrors (
    nested "digest" (validateSHA256Digest descriptor.digest) ++
    finding (descriptor.size ≤ 0) ("size must be positive, got " ++ decimalInt descriptor.size) ++
    finding (isBlank descriptor.mediaType || hasControl descriptor.mediaType)
      "media_type is required and cannot contain control characters" ++
    (descriptor.platform.toList.flatMap fun platform => nested "platform" platform.validate) ++
    descriptor.annotations.zipIdx.flatMap fun (pair, index) =>
      nested (indexed "annotations" index)
        (validateBoundedText "key" pair.key 1024 false) ++
      finding (16 * 2 ^ 10 < byteLength pair.value || hasControlExceptWhitespace pair.value)
        (indexed "annotations" index ++
          ".value is overlong or contains unsupported control characters") ++
      finding ((descriptor.annotations.take index).any fun earlier =>
          earlier.key == pair.key)
        ("duplicate annotation key " ++ quote pair.key))

/-- What a transport is checked against: the fields of its artifact or source archive. -/
structure TransportBinding where
  tag : String := ""
  platform : Platform := { os := "", architecture := "" }
  filename : String
  size : Int
  sha256 : String
  derived : Bool := false

def BottleArtifact.binding (artifact : BottleArtifact) : TransportBinding where
  tag := artifact.tag
  platform := artifact.platform
  filename := artifact.filename
  size := artifact.size
  sha256 := artifact.sha256
  derived := artifact.prebuiltDerivation.isSome

section Transports

variable (library : ArtifactLibrary) (binding : TransportBinding)

def validateOCITransport (transport : OCITransport) : Except String Unit :=
  joinErrors (
    nested "registry" (validatePublicHostname library.toNetLibrary transport.registry) ++
    nested "repository" (validateOCIRepository library transport.repository) ++
    ([("index", transport.index), ("manifest", transport.manifest), ("config", transport.config),
        ("layer", transport.layer)].flatMap fun (name, descriptor) =>
      nested name (validateDescriptor descriptor)) ++
    finding (transport.layer.digest != binding.sha256)
      ("layer digest " ++ quote transport.layer.digest ++ " does not match artifact digest " ++
        quote binding.sha256) ++
    finding (transport.layer.size != binding.size)
      ("layer size " ++ decimalInt transport.layer.size ++ " does not match artifact size " ++
        decimalInt binding.size) ++
    if binding.tag = "all" then
      finding transport.manifest.platform.isSome "all bottle manifest must not carry a platform"
    else
      finding (transport.manifest.platform != some binding.platform)
        "manifest platform does not match artifact platform")

def validateHTTPSTransport (transport : HTTPSTransport) : Except String Unit :=
  joinErrors (
    nested "url" (validateHTTPSURL library.toNetLibrary transport.url true) ++
    finding (transport.expectedSize != binding.size)
      ("expected_size " ++ decimalInt transport.expectedSize ++ " does not match artifact size " ++
        decimalInt binding.size) ++
    finding (transport.expectedSize ≤ 0 || maxBottleBytes < transport.expectedSize)
      ("expected_size " ++ decimalInt transport.expectedSize ++ " is outside 1.." ++
        decimalInt maxBottleBytes) ++
    finding (transport.sha256 != binding.sha256)
      ("sha256 " ++ quote transport.sha256 ++ " does not match artifact digest " ++
        quote binding.sha256) ++
    nested "sha256" (validateSHA256Digest transport.sha256) ++
    finding (transport.filename != binding.filename)
      ("filename " ++ quote transport.filename ++ " does not match artifact filename " ++
        quote binding.filename) ++
    nested "filename" (validateSafeFilename transport.filename) ++
    finding (transport.fetchPolicyVersion != httpsFetchPolicyVersion)
      ("unsupported fetch_policy_version " ++ quote transport.fetchPolicyVersion) ++
    finding (transport.allowedRedirectHosts == [])
      "allowed_redirect_hosts must be a non-empty array" ++
    finding (maxRedirects + 1 < transport.allowedRedirectHosts.length)
      ("allowed_redirect_hosts has " ++ decimal transport.allowedRedirectHosts.length ++
        " entries, limit is " ++ decimal (maxRedirects + 1)) ++
    (transport.allowedRedirectHosts.zipIdx.flatMap fun (host, index) =>
      nested (indexed "allowed_redirect_hosts" index)
        (validatePublicHostname library.toNetLibrary host) ++
      finding ((transport.allowedRedirectHosts.take index).contains host)
        ("duplicate allowed redirect host " ++ quote host)) ++
    match library.parseURL transport.url with
    | .error _ => []
    | .ok parsed => finding (!transport.allowedRedirectHosts.contains parsed.hostname)
        ("initial URL host " ++ quote parsed.hostname ++ " is absent from allowed_redirect_hosts"))

def validateLocalTransport (transport : LocalTransport) : Except String Unit :=
  joinErrors (
    finding (!binding.derived) "build-local transport is limited to prebuilt-derived bottles" ++
    finding (transport.policyVersion != buildLocalArtifactPolicyVersion)
      ("unsupported policy_version " ++ quote transport.policyVersion) ++
    finding (transport.sha256 != binding.sha256) "sha256 does not match artifact digest" ++
    finding (transport.size != binding.size) "size does not match artifact size" ++
    finding (transport.filename != binding.filename)
      "filename does not match artifact filename" ++
    nested "sha256" (validateSHA256Digest transport.sha256) ++
    finding (transport.size ≤ 0 || maxBottleBytes < transport.size)
      ("size " ++ decimalInt transport.size ++ " is outside 1.." ++ decimalInt maxBottleBytes) ++
    nested "filename" (validateSafeFilename transport.filename))

/-- The number of members that are set. -/
def Transport.members (transport : Transport) : Nat :=
  transport.oci.toList.length + transport.https.toList.length + transport.local.toList.length

def validateTransport (transport : Transport) : Except String Unit :=
  if transport.members ≠ 1 then .error "must set exactly one of oci, https, or local"
  else
    match transport.oci, transport.https, transport.local with
    | some oci, _, _ => validateOCITransport library binding oci
    | none, some https, _ => validateHTTPSTransport library binding https
    | none, none, some artifact => validateLocalTransport binding artifact
    -- One member is set.
    | none, none, none => .ok ()

end Transports

/-! ## Tabs, verification and provenance -/

def validateBottleTab (tab : BottleTab) (platform : Platform) (tag : String) :
    Except String Unit :=
  let expectedArch := if platform.architecture = "arm64" then "arm64" else "x86_64"
  joinErrors (
    (if tag = "all" then
      finding (tab.arch != "") ("all bottle has architecture " ++ quote tab.arch)
    else
      finding (tab.arch != expectedArch)
        ("architecture " ++ quote tab.arch ++ " does not match " ++ quote expectedArch)) ++
    finding (tab.receiptless && (tab.homebrewVersion != "" || tab.compiler != "" ||
        tab.changedFiles != [] || tab.builtOn != {} || tab.dependencies != []))
      "receiptless tab cannot claim receipt-only metadata" ++
    (tab.dependencies.zipIdx.flatMap fun (dependency, index) =>
      let label := indexed "runtime_dependencies" index
      nested (label ++ ".id") (FormulaID.validate dependency.id) ++
      finding (!(FormulaID.validate dependency.homebrewFullName).toBool ||
          dependency.homebrewFullName != dependency.id)
        (label ++ " has mismatched full identity") ++
      finding (dependency.version == "" || dependency.pkgVersion == "" ||
          dependency.revision < 0 || dependency.bottleRebuild < 0)
        (label ++ " has invalid version metadata") ++
      finding ((tab.dependencies.take index).any fun earlier => earlier.id == dependency.id)
        ("duplicate runtime dependency " ++ quote dependency.id)) ++
    tab.changedFiles.zipIdx.flatMap fun (changed, index) =>
      finding (isUnsafePath changed) (indexed "changed_files" index ++ " is unsafe"))

def validateBottleVerification (verification : BottleVerification) : Except String Unit :=
  joinErrors (
    finding (verification.policyVersion != bottleVerificationPolicy)
      ("unsupported policy_version " ++ quote verification.policyVersion) ++
    nested "inventory_digest" (validateSHA256Digest verification.inventoryDigest) ++
    finding (verification.entryCount ≤ 0) "entry_count must be positive" ++
    finding (verification.expandedSize ≤ 0) "expanded_size must be positive")

def validateProvenance (provenance : Provenance) (subjectDigest : String) :
    Except String Unit :=
  match provenance.verified, provenance.waiver with
  | none, some waiver =>
    if waiver.policy ≠ checksumProvenanceWaiver ∧ waiver.policy ≠ prebuiltProvenanceWaiver then
      .error ("unsupported waiver policy " ++ quote waiver.policy)
    else .ok ()
  | some verified, none =>
    joinErrors (
      finding (verified.policyVersion != verifiedProvenancePolicy)
        ("unsupported verified policy_version " ++ quote verified.policyVersion) ++
      nested "subject_digest" (validateSHA256Digest verified.subjectDigest) ++
      finding (verified.subjectDigest != subjectDigest)
        ("subject_digest " ++ quote verified.subjectDigest ++ " does not match bottle digest " ++
          quote subjectDigest) ++
      nested "statement_digest" (validateSHA256Digest verified.statementDigest) ++
      nested "bundle_digest" (validateSHA256Digest verified.bundleDigest) ++
      reported (validateBoundedText "signer_identity" verified.signerIdentity 2048 false) ++
      reported (validateBoundedText "issuer" verified.issuer 2048 false))
  | _, _ => .error "must set exactly one of verified or waiver"

/-! ## Prebuilt derivations -/

/-- The source archive; a local member of its transport is not looked at. -/
def validatePrebuiltSourceArtifact (library : ArtifactLibrary) (source : PrebuiltSourceArtifact) :
    Except String Unit :=
  joinErrors (
    nested "filename" (validateSafeFilename source.filename) ++
    finding (source.size ≤ 0 || maxBottleBytes < source.size)
      ("size " ++ decimalInt source.size ++ " is outside 1.." ++ decimalInt maxBottleBytes) ++
    nested "sha256" (validateSHA256Digest source.sha256) ++
    finding (source.transport.oci.isNone == source.transport.https.isNone)
      "transport must set exactly one of oci or https" ++
    finding source.transport.oci.isSome "transport must use HTTPS, not OCI" ++
    match source.transport.https with
    | some https =>
      nested "transport.https" (validateHTTPSTransport library
        { filename := source.filename, size := source.size, sha256 := source.sha256 } https) ++
      (match library.parseURL https.url with
        | .error _ => []
        | .ok parsed =>
          let name := library.pathUnescape (GoPath.base parsed.escapedPath)
          finding (name != some source.filename)
            ("filename " ++ quote source.filename ++
              " does not match source URL basename " ++ quote (name.getD ""))) ++
      nested "format" (validatePrebuiltArchiveFormat library.toNetLibrary source.format https.url)
    | none => finding (source.format != prebuiltArchiveFormatTarGzip)
        ("unsupported format " ++ quote source.format))

def validatePrebuiltSourceInventory (inventory : PrebuiltSourceInventory) :
    Except String Unit :=
  joinErrors (
    nested "inventory_digest" (validateSHA256Digest inventory.inventoryDigest) ++
    finding (inventory.entryCount ≤ 0 || maxPrebuiltArchiveEntries < inventory.entryCount)
      ("entry_count " ++ decimalInt inventory.entryCount ++ " is outside 1.." ++
        decimalInt maxPrebuiltArchiveEntries) ++
    finding (inventory.expandedSize ≤ 0 || maxPrebuiltArchiveExpandedBytes < inventory.expandedSize)
      ("expanded_size " ++ decimalInt inventory.expandedSize ++ " is outside 1.." ++
        decimalInt maxPrebuiltArchiveExpandedBytes))

def validatePrebuiltPayloadEvidence (payload : PrebuiltPayloadEvidence) : Except String Unit :=
  joinErrors (
    nested "source_path" (validateContainedSlashPath payload.sourcePath) ++
    nested "destination_path" (validateContainedSlashPath payload.destinationPath) ++
    nested "sha256" (validateSHA256Digest payload.sha256) ++
    finding (payload.size ≤ 0 || maxPrebuiltArchiveExpandedBytes < payload.size)
      ("size " ++ decimalInt payload.size ++ " is outside 1.." ++
        decimalInt maxPrebuiltArchiveExpandedBytes) ++
    finding (payload.archiveMode == 0 || payload.archiveMode &&& ~~~0o777 != 0 ||
        payload.archiveMode &&& 0o111 == 0 || payload.archiveMode &&& 0o022 != 0)
      ("archive_mode " ++ octal payload.archiveMode.toNat ++
        " is not a non-group-writable executable mode") ++
    finding (payload.derivedMode != 0o555)
      ("derived_mode " ++ octal payload.derivedMode.toNat ++ " must be 0555"))

def validatePrebuiltELFEvidence (evidence : PrebuiltELFEvidence) : Except String Unit :=
  joinErrors (
    finding (evidence.format != prebuiltELFFormatELF64)
      ("unsupported format " ++ quote evidence.format) ++
    finding (evidence.machine != prebuiltELFMachineX8664 &&
        evidence.machine != prebuiltELFMachineAArch64)
      ("unsupported machine " ++ quote evidence.machine) ++
    finding (!evidence.staticallyLinked) "statically_linked must be true" ++
    finding (evidence.interpreter != "") "interpreter must be empty for a static executable" ++
    finding (evidence.neededLibraries != some [])
      "needed_libraries must be an explicit empty array" ++
    finding (evidence.rpaths != some []) "rpaths must be an explicit empty array" ++
    finding evidence.writableExecutableSegments "writable_executable_segments must be false")

def validatePrebuiltFormulaSourceEvidence (evidence : PrebuiltFormulaSourceEvidence) :
    Except String Unit :=
  joinErrors (
    nested "transport.tap" (validateTapSource evidence.transport.tap) ++
    nested "transport.path" (validateFormulaSourceFilePath evidence.transport.path) ++
    nested "sha256" (validateSHA256Digest evidence.sha256) ++
    finding (evidence.size ≤ 0 || maxPrebuiltFormulaSourceBytes < evidence.size)
      ("size " ++ decimalInt evidence.size ++ " is outside 1.." ++
        decimalInt maxPrebuiltFormulaSourceBytes))

def validatePrebuiltDerivedBottleRelation (relation : PrebuiltDerivedBottleRelation) :
    Except String Unit :=
  joinErrors (
    finding (relation.tag != "x86_64_linux" && relation.tag != "arm64_linux")
      ("unsupported tag " ++ quote relation.tag) ++
    nested "filename" (validateSafeFilename relation.filename) ++
    nested "sha256" (validateSHA256Digest relation.sha256) ++
    finding (relation.size ≤ 0 || maxBottleBytes < relation.size)
      ("size " ++ decimalInt relation.size ++ " is outside 1.." ++ decimalInt maxBottleBytes) ++
    nested "verification" (validateBottleVerification relation.verification) ++
    nested "formula_source_digest" (validateSHA256Digest relation.formulaSourceDigest))

def validatePrebuiltDerivation (library : ArtifactLibrary) (derivation : PrebuiltDerivation) :
    Except String Unit :=
  joinErrors (
    reported (validatePolicyVersion "policy_version" derivation.policyVersion) ++
    nested "policy_digest" (validateSHA256Digest derivation.policyDigest) ++
    nested "source" (validatePrebuiltSourceArtifact library derivation.source) ++
    nested "source_inventory" (validatePrebuiltSourceInventory derivation.sourceInventory) ++
    nested "payload" (validatePrebuiltPayloadEvidence derivation.payload) ++
    finding (derivation.sourceInventory.expandedSize < derivation.payload.size &&
        0 < derivation.sourceInventory.expandedSize)
      "payload size exceeds verified source expanded size" ++
    nested "elf" (validatePrebuiltELFEvidence derivation.elf) ++
    nested "formula_source" (validatePrebuiltFormulaSourceEvidence derivation.formulaSource) ++
    nested "recipe_digest" (validateSHA256Digest derivation.recipeDigest) ++
    nested "derived_bottle" (validatePrebuiltDerivedBottleRelation derivation.derivedBottle) ++
    finding (derivation.derivedBottle.formulaSourceDigest != derivation.formulaSource.sha256)
      "derived bottle Formula source digest does not match authenticated Formula source" ++
    finding (derivation.source.sha256 != "" &&
        derivation.source.sha256 == derivation.derivedBottle.sha256)
      "upstream source archive and derived bottle must have distinct digests")

def validatePrebuiltDerivationBinding (derivation : PrebuiltDerivation)
    (artifact : BottleArtifact) :
    Except String Unit :=
  let relation := derivation.derivedBottle
  let formulaSource := derivation.formulaSource
  let expectedMachine :=
    if artifact.platform.architecture = "arm64" then prebuiltELFMachineAArch64
    else prebuiltELFMachineX8664
  joinErrors (
    finding (!artifact.tab.receiptless) "derived bottle must be marked receiptless" ++
    finding (relation.tag != artifact.tag)
      "derived bottle tag does not match selected artifact" ++
    finding (relation.filename != artifact.filename)
      "derived bottle filename does not match selected artifact" ++
    finding (relation.sha256 != artifact.sha256)
      "derived bottle digest does not match selected artifact" ++
    finding (relation.size != artifact.size)
      "derived bottle size does not match selected artifact" ++
    finding (relation.verification != artifact.verification)
      "derived bottle verification does not match selected artifact" ++
    finding (formulaSource.transport.tap.id != FormulaID.tap artifact.id)
      "Formula source tap does not match selected Formula ID" ++
    nested "Formula source path"
      (validateFormulaSourcePath formulaSource.transport.path (FormulaID.name artifact.id)) ++
    finding (formulaSource.sha256 != artifact.currentFormulaSourceDigest ||
        formulaSource.sha256 != artifact.bottleFormulaSourceDigest ||
        relation.formulaSourceDigest != artifact.bottleFormulaSourceDigest)
      "Formula source digest does not bind current, embedded, and derived-bottle evidence" ++
    finding (derivation.elf.machine != expectedMachine)
      ("ELF machine " ++ quote derivation.elf.machine ++ " does not match platform " ++
        artifact.platform.key) ++
    finding (!artifact.executablePaths.contains derivation.payload.destinationPath)
      "payload destination is absent from selected executable paths")

/-! ## Artifacts -/

/-- `Platform.bottleTag`. -/
def Platform.bottleTag (platform : Platform) : String :=
  if platform.os ≠ "linux" then ""
  else if platform.architecture = "amd64" then "x86_64_linux"
  else if platform.architecture = "arm64" then "arm64_linux"
  else ""

/-- The findings about where the bottle was built, by its kind. -/
def artifactSourceFindings (artifact : BottleArtifact) : List String :=
  let asserted := artifact.bottleSourceRepository != "" || artifact.bottleSourceCommit != "" ||
    artifact.bottleFormulaPath != ""
  if artifact.prebuiltDerivation.isSome then
    finding (artifact.transport.https.isNone && artifact.transport.local.isNone)
      "prebuilt-derived bottle requires HTTPS or build-local transport" ++
    finding artifact.transport.oci.isSome "prebuilt-derived bottle cannot use OCI transport" ++
    finding (artifact.bottleSourceWaiver != "")
      "prebuilt-derived bottle cannot use the native HTTPS bottle source waiver" ++
    finding asserted
      ("prebuilt-derived bottle cannot combine derivation evidence with native bottle source " ++
        "fields")
  else if artifact.transport.https.isSome then
    finding (artifact.bottleSourceWaiver != httpsBottleSourceWaiver)
      ("HTTPS bottle requires source waiver " ++ quote httpsBottleSourceWaiver) ++
    finding asserted
      "HTTPS bottle source waiver cannot be combined with an asserted historical source"
  else
    let expectedRepository := TapID.defaultGitHubRepository (FormulaID.tap artifact.id)
    finding (artifact.bottleSourceWaiver != "") "OCI bottle cannot use the HTTPS source waiver" ++
    finding (artifact.bottleSourceRepository != expectedRepository)
      ("bottle_source_repository " ++ quote artifact.bottleSourceRepository ++
        " does not match " ++ quote expectedRepository) ++
    nested "bottle_source_commit" (validateCommit artifact.bottleSourceCommit) ++
    nested "bottle_formula_path"
      (validateFormulaSourcePath artifact.bottleFormulaPath (FormulaID.name artifact.id))

def executableFindings (paths : List String) : List String :=
  paths.zipIdx.flatMap fun (executable, index) =>
    finding (isUnsafePath executable) (indexed "executable_paths" index ++ " is unsafe") ++
    finding ((paths.take index).contains executable)
      ("duplicate executable path " ++ quote executable)

def derivationFindings (library : ArtifactLibrary) (artifact : BottleArtifact) : List String :=
  match artifact.prebuiltDerivation with
  | some derivation =>
    finding (!artifact.provenance.waiver.any fun waiver =>
        waiver.policy == prebuiltProvenanceWaiver)
      "prebuilt derivation requires the dedicated provenance waiver" ++
    nested "prebuilt_derivation" (validatePrebuiltDerivation library derivation) ++
    nested "prebuilt_derivation binding" (validatePrebuiltDerivationBinding derivation artifact)
  | none =>
    finding (artifact.provenance.waiver.any fun waiver =>
        waiver.policy == prebuiltProvenanceWaiver)
      "prebuilt provenance waiver requires derivation evidence"

/-- `ValidateBottleArtifact`. -/
def validateBottleArtifact (library : ArtifactLibrary) (artifact : BottleArtifact) :
    Except String Unit :=
  joinErrors (
    nested "id" (FormulaID.validate artifact.id) ++
    nested "platform" artifact.platform.validate ++
    finding (artifact.tag != "all" && artifact.tag != artifact.platform.bottleTag)
      ("tag " ++ quote artifact.tag ++ " does not match platform " ++ artifact.platform.key) ++
    nested "tab" (validateBottleTab artifact.tab artifact.platform artifact.tag) ++
    nested "filename" (validateSafeFilename artifact.filename) ++
    nested "sha256" (validateSHA256Digest artifact.sha256) ++
    finding (artifact.size ≤ 0 || maxBottleBytes < artifact.size)
      ("size " ++ decimalInt artifact.size ++ " is outside 1.." ++ decimalInt maxBottleBytes) ++
    nested "cellar" (validateCellarPolicy artifact.cellar) ++
    nested "current_formula_source_digest"
      (validateSHA256Digest artifact.currentFormulaSourceDigest) ++
    nested "bottle_formula_source_digest"
      (validateSHA256Digest artifact.bottleFormulaSourceDigest) ++
    artifactSourceFindings artifact ++
    executableFindings artifact.executablePaths ++
    nested "transport" (validateTransport library artifact.binding artifact.transport) ++
    finding (artifact.tab.receiptless && artifact.transport.https.isNone &&
        artifact.transport.local.isNone)
      "receiptless tab marker is supported only for HTTPS or build-local bottles" ++
    nested "verification" (validateBottleVerification artifact.verification) ++
    nested "provenance" (validateProvenance artifact.provenance artifact.sha256) ++
    derivationFindings library artifact)

/-! ## Accepted artifacts -/

theorem normal_of_isUnsafePath {value : String} (safe : isUnsafePath value = false) :
    GoPath.Normal value ∧ value ≠ ".." := by
  simp only [isUnsafePath, Bool.or_eq_false_iff, bne_eq_false_iff_eq, beq_eq_false_iff_ne] at safe
  obtain ⟨⟨⟨⟨⟨-, self⟩, -⟩, relative⟩, clean⟩, parent⟩ := safe.1
  exact ⟨⟨relative, clean, parent⟩, self⟩

theorem normal_of_validateContainedSlashPath {value : String}
    (valid : validateContainedSlashPath value = .ok ()) : GoPath.Normal value := by
  simp only [validateContainedSlashPath, ite_error_eq_ok, not_or, not_not,
    Bool.not_eq_true] at valid
  obtain ⟨⟨-, -, -, -, relative⟩, ⟨clean, -, parent⟩, -⟩ := valid
  exact ⟨relative, clean, clean ▸ parent⟩

theorem normal_of_validateFormulaSourcePath {value name : String}
    (valid : validateFormulaSourcePath value name = .ok ()) :
    GoPath.Normal value ∧ value ≠ ".." := by
  simp only [validateFormulaSourcePath, ite_error_eq_ok, not_or, not_not, Bool.not_eq_true] at valid
  obtain ⟨⟨-, -, -, -, relative⟩, ⟨clean, -, parent⟩, base, -⟩ := valid
  exact ⟨⟨relative, clean, clean ▸ parent⟩, GoPath.ne_parent_of_base base⟩

/-- What the validator establishes about a derivation. -/
structure AcceptedDerivation (artifact : BottleArtifact) (derivation : PrebuiltDerivation) :
    Prop where
  sourceOCI : derivation.source.transport.oci = none
  sourceHTTPS : derivation.source.transport.https.isSome = true
  sourcePath : validateContainedSlashPath derivation.payload.sourcePath = .ok ()
  destinationPath : derivation.payload.destinationPath ∈ artifact.executablePaths
  formulaPath : validateFormulaSourcePath derivation.formulaSource.transport.path
    (FormulaID.name artifact.id) = .ok ()

/-- What the validator establishes about the transports and the paths of an artifact. -/
structure AcceptedArtifact (artifact : BottleArtifact) : Prop where
  members : artifact.transport.members = 1
  changedFiles : ∀ changed ∈ artifact.tab.changedFiles, isUnsafePath changed = false
  executablePaths : ∀ executable ∈ artifact.executablePaths, isUnsafePath executable = false
  formulaPath : artifact.bottleFormulaPath = "" ∨
    validateFormulaSourcePath artifact.bottleFormulaPath (FormulaID.name artifact.id) = .ok ()
  derivation : ∀ derivation, artifact.prebuiltDerivation = some derivation →
    AcceptedDerivation artifact derivation

section Accepted

variable {library : ArtifactLibrary} {artifact : BottleArtifact}

theorem changedFiles_of_validateBottleTab {tab : BottleTab} {platform : Platform} {tag : String}
    (valid : validateBottleTab tab platform tag = .ok ()) :
    ∀ changed ∈ tab.changedFiles, isUnsafePath changed = false := by
  simp only [validateBottleTab, joinErrors_eq_ok, List.append_eq_nil_iff] at valid
  refine forall_zipIdx.mp fun entry member => ?_
  exact finding_eq_nil.mp (List.flatMap_eq_nil_iff.mp valid.2 entry member)

theorem safe_of_executableFindings {paths : List String} (none : executableFindings paths = []) :
    ∀ executable ∈ paths, isUnsafePath executable = false := by
  refine forall_zipIdx.mp fun entry member => ?_
  have checked := List.flatMap_eq_nil_iff.mp none entry member
  exact finding_eq_nil.mp (List.append_eq_nil_iff.mp checked).1

theorem formulaPath_of_artifactSourceFindings (none : artifactSourceFindings artifact = []) :
    artifact.bottleFormulaPath = "" ∨
      validateFormulaSourcePath artifact.bottleFormulaPath (FormulaID.name artifact.id) =
        .ok () := by
  unfold artifactSourceFindings at none
  split at none
  · simp only [List.append_eq_nil_iff, finding_eq_nil, Bool.or_eq_false_iff,
      bne_eq_false_iff_eq] at none
    exact .inl none.2.2
  split at none
  · simp only [List.append_eq_nil_iff, finding_eq_nil, Bool.or_eq_false_iff,
      bne_eq_false_iff_eq] at none
    exact .inl none.2.2
  · simp only [List.append_eq_nil_iff, nested_eq_nil] at none
    exact .inr none.2

theorem acceptedDerivation_of_validate {derivation : PrebuiltDerivation}
    (valid : validatePrebuiltDerivation library derivation = .ok ())
    (bound : validatePrebuiltDerivationBinding derivation artifact = .ok ()) :
    AcceptedDerivation artifact derivation := by
  simp only [validatePrebuiltDerivation, joinErrors_eq_ok, List.append_eq_nil_iff,
    nested_eq_nil] at valid
  obtain ⟨⟨⟨⟨⟨⟨⟨⟨⟨-, source⟩, -⟩, payload⟩, -⟩, -⟩, -⟩, -⟩, -⟩, -⟩ := valid.1
  simp only [validatePrebuiltSourceArtifact, joinErrors_eq_ok, List.append_eq_nil_iff,
    finding_eq_nil] at source
  obtain ⟨⟨⟨-, exactly⟩, oci⟩, -⟩ := source
  simp only [validatePrebuiltPayloadEvidence, joinErrors_eq_ok, List.append_eq_nil_iff,
    nested_eq_nil] at payload
  simp only [validatePrebuiltDerivationBinding, joinErrors_eq_ok, List.append_eq_nil_iff,
    nested_eq_nil, finding_eq_nil, Bool.not_eq_false', List.contains_iff_mem] at bound
  obtain ⟨⟨⟨⟨-, formulaPath⟩, -⟩, -⟩, destinationPath⟩ := bound
  have absent : derivation.source.transport.oci = none := by simpa using oci
  refine ⟨absent, ?_, payload.1.1.1.1.1, destinationPath, formulaPath⟩
  rw [absent] at exactly
  cases set : derivation.source.transport.https with
  | none => simp [set] at exactly
  | some https => rfl

theorem acceptedArtifact_of_validate (valid : validateBottleArtifact library artifact = .ok ()) :
    AcceptedArtifact artifact := by
  simp only [validateBottleArtifact, joinErrors_eq_ok, List.append_eq_nil_iff,
    nested_eq_nil] at valid
  obtain ⟨⟨⟨⟨⟨⟨⟨checks, source⟩, executables⟩, transport⟩, -⟩, -⟩, -⟩, derived⟩ := valid
  obtain ⟨⟨⟨⟨⟨⟨⟨-, tab⟩, -⟩, -⟩, -⟩, -⟩, -⟩, -⟩ := checks
  refine ⟨?_, changedFiles_of_validateBottleTab tab, safe_of_executableFindings executables,
    formulaPath_of_artifactSourceFindings source, fun derivation set => ?_⟩
  · by_contra several
    rw [validateTransport, if_pos several] at transport
    cases transport
  rw [derivationFindings, set] at derived
  simp only [List.append_eq_nil_iff, nested_eq_nil] at derived
  exact acceptedDerivation_of_validate derived.1.2 derived.2

end Accepted

end DalecHomebrew.Catalog
