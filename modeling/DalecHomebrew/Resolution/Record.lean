import DalecHomebrew.Fetcher.Request
import DalecHomebrew.Foundation.GoPath
import DalecHomebrew.Resolution.Graph
import DalecHomebrew.Resolution.Types

/-!
# Validation of V1 records

`Validate` of `internal/resolution/record.go` with everything it calls.  It
collects the texts of its findings and joins them, so that `.ok` means that there
was none.  Where the source ranges over a map literal the findings come in the
order of the literal.
-/

namespace DalecHomebrew.Resolution

open Catalog (Time)
open Foundation Foundation.GoString

/-! ## Library code -/

/-- The answer of `reference.ParseNormalizedNamed`. -/
structure Reference where
  domain : String
  path : String
  tagged : Bool := false
  digest : Option String := none
deriving DecidableEq

/-- The parsers of third-party packages that the validators call. -/
structure Libraries extends Fetcher.Library where
  /-- `digest.Parse`: the algorithm of a digest that the library has validated. -/
  parseDigest : String → Except String String
  parseReference : String → Except String Reference

/-! ## Digests, descriptors and identities -/

section Checks

variable (libraries : Libraries)

/-- The source validates the digest once more, which `digest.Parse` has already done. -/
def validateDigest (value : String) : Except String Unit := do
  let algorithm ← libraries.parseDigest value
  if algorithm ≠ "sha256" then throw ("only sha256 is allowed, got " ++ algorithm)

def validateDescriptor (descriptor : Descriptor) : Except String Unit := do
  validateDigest libraries descriptor.digest
  if descriptor.size ≤ 0 then throw ("invalid size " ++ decimalInt descriptor.size)
  if isBlank descriptor.mediaType then throw "empty media type"

end Checks

def isHexDigit (character : Char) : Bool :=
  isLowerHex character || ('A' ≤ character ∧ character ≤ 'F')

/-- The first byte of the UTF-8 encoding of a character. -/
def leadingByte (character : Char) : Nat :=
  if character.toNat < 0x80 then character.toNat
  else if character.toNat < 0x800 then 0xc0 + character.toNat / 0x40
  else if character.toNat < 0x10000 then 0xe0 + character.toNat / 0x1000
  else 0xf0 + character.toNat / 0x40000

/-- `%#U` of a byte that does not continue a UTF-8 sequence. -/
def codePoint (byte : Nat) : String :=
  let digit (value : Nat) : Char := (hexDigit value).toUpper
  "U+00" ++ String.ofList [digit (byte / 16), digit (byte % 16)] ++
    if byte < 0x20 ∨ byte = 0x7f then ""
    else " " ++ String.ofList [Char.ofNat 39, Char.ofNat byte, Char.ofNat 39]

/-- Either case is accepted: `hex.DecodeString` reads both. -/
def validateSHA256Hex (value : String) : Except String Unit :=
  if byteLength value ≠ 64 then .error "expected 64 hex characters"
  else
    match value.toList.find? fun character => !isHexDigit character with
    | some character =>
      .error ("encoding/hex: invalid byte: " ++ codePoint (leadingByte character))
    | none => .ok ()

def validateRuntimeIdentity (runtime : RuntimePolicy) : Except String Unit :=
  let user := trimSpace runtime.user
  if runtime.uid ≤ 0 ∨ runtime.gid ≤ 0 then
    .error "runtime identity must have positive non-root uid/gid"
  else if user = "linuxbrew" ∨ user = "linuxbrew:linuxbrew" then
    if runtime.uid ≠ 1000 ∨ runtime.gid ≠ 1000 then
      .error "linuxbrew runtime identity must be uid/gid 1000"
    else .ok ()
  else
    match splitChar user ':' with
    | [first, second] =>
      match atoi first, atoi second with
      | some uid, some gid =>
        if uid ≤ 0 ∨ gid ≤ 0 ∨ uid ≠ runtime.uid ∨ gid ≠ runtime.gid then
          .error ("runtime user " ++ quote user ++ " does not match recorded uid/gid " ++
            decimalInt runtime.uid ++ ":" ++ decimalInt runtime.gid)
        else .ok ()
      | _, _ => .error ("runtime user " ++ quote user ++ " is unsupported")
    | _ => .error ("numeric runtime user " ++ quote user ++ " must be uid:gid")

/-! ## Nodes -/

/-- The bottle tag and the tab architecture of a target. -/
def expectedTarget (platform : Platform) : String × String :=
  if platform.architecture = "arm64" then ("arm64_linux", "arm64")
  else ("x86_64_linux", "x86_64")

/-- Whether the platform of a manifest is the target. -/
def matchesTarget (target : Platform) (platform : Option Platform) : Bool :=
  platform.any fun found =>
    found.os == "linux" && found.architecture == target.architecture && found.variant == ""

def targetFindings (platform : Platform) (node : Node) : List String :=
  let expected := expectedTarget platform
  if node.bottle.tag = "all" then
    finding (node.bottle.tab.arch != "")
      ("node " ++ quote node.name ++ " all bottle has architecture " ++
        quote node.bottle.tab.arch) ++
    finding node.bottle.manifest.platform.isSome
      ("node " ++ quote node.name ++ " all bottle manifest unexpectedly has a platform")
  else if node.bottle.tag = expected.1 then
    finding (node.bottle.tab.arch != expected.2)
      ("node " ++ quote node.name ++ " bottle tab architecture " ++ quote node.bottle.tab.arch ++
        ", expected " ++ quote expected.2) ++
    finding (!matchesTarget platform node.bottle.manifest.platform)
      ("node " ++ quote node.name ++ " bottle manifest platform does not match target")
  else
    ["node " ++ quote node.name ++ " bottle tag " ++ quote node.bottle.tag ++
      " does not match target"]

section Validate

variable (libraries : Libraries) (record : Record)

def Bottle.descriptors (bottle : Bottle) : List (String × Descriptor) :=
  [("index", bottle.index), ("manifest", bottle.manifest), ("config", bottle.config),
    ("layer", bottle.layer)]

def nodeFindings : List String :=
  record.nodes.zipIdx.flatMap fun (node, index) =>
    finding (node.name == "" || node.fullName != "homebrew/core/" ++ node.name)
      ("node " ++ quote node.name ++ " has invalid homebrew/core identity " ++
        quote node.fullName) ++
    finding ((record.nodes.take index).any fun earlier => earlier.name == node.name)
      ("duplicate closure node " ++ quote node.name) ++
    finding (node.formulaVersion == "" || node.pkgVersion == "")
      ("node " ++ quote node.name ++ " has empty version") ++
    finding (node.bottle.filename != "" &&
        (GoPath.base node.bottle.filename != node.bottle.filename ||
          containsAny node.bottle.filename "/\\"))
      ("node " ++ quote node.name ++ " has unsafe bottle filename " ++
        quote node.bottle.filename) ++
    finding (node.bottle.repository == "" || node.bottle.filename == "" || node.bottle.tag == "")
      ("node " ++ quote node.name ++ " has incomplete bottle identity") ++
    targetFindings record.input.platform node ++
    (node.bottle.descriptors.flatMap fun (label, descriptor) =>
      nested ("node " ++ quote node.name ++ " " ++ label ++ " descriptor")
        (validateDescriptor libraries descriptor)) ++
    nested ("node " ++ quote node.name ++ " homebrew checksum")
      (validateSHA256Hex node.bottle.homebrewSHA256) ++
    finding (node.bottle.layer.digest != "sha256:" ++ toLower node.bottle.homebrewSHA256)
      ("node " ++ quote node.name ++
        " layer digest does not match authenticated Homebrew checksum") ++
    node.dependencies.zipIdx.flatMap fun (dependency, place) =>
      finding (dependency.name == "") ("node " ++ quote node.name ++ " has empty dependency") ++
      finding ((node.dependencies.take place).any fun earlier => earlier.name == dependency.name)
        ("node " ++ quote node.name ++ " has duplicate dependency " ++ quote dependency.name)

/-- The `nodes` map of the validator: the last node of a name. -/
def Record.nodeTable : Table String Node := Table.ofList Node.name record.nodes

/-- What the graph checks of `Validate` read: names, without any reading of them. -/
def Record.graph : Graph Node where
  nodes := record.nodeTable
  visited := record.nodes.map fun node => (node.name, node)
  dependencies := fun node => node.dependencies.map Requirement.name
  identify := .ok
  roots := record.requested.map RequestedRoot.canonical
  order := record.installOrder

def requestedFindings : List String :=
  record.requested.flatMap fun root =>
    finding (record.nodeTable.lookup root.canonical).isNone
      ("requested root " ++ quote root.requested ++ " resolves to missing node " ++
        quote root.canonical)

def headerFindings : List String :=
  finding (record.schemaVersion != schemaVersion)
    ("unsupported schema_version " ++ quote record.schemaVersion) ++
  finding (record.policyVersion != policyVersion)
    ("unsupported policy_version " ++ quote record.policyVersion) ++
  finding (record.input.platform.os != "linux" || (record.input.platform.architecture != "amd64" &&
        record.input.platform.architecture != "arm64") ||
      record.input.platform.variant != "")
    ("unsupported platform " ++ record.input.platform.os ++ "/" ++
      record.input.platform.architecture) ++
  ([("input.dalec_spec_digest", record.input.dalecSpecDigest),
      ("metadata.digest", record.metadata.digest),
      ("metadata.formula_digest", record.metadata.formulaDigest),
      ("metadata.migration_digest", record.metadata.migrationDigest)].flatMap
    fun (field, value) => nested field (validateDigest libraries value)) ++
  finding (record.sourceDateEpoch ≤ 0) "source_date_epoch must be positive" ++
  finding (record.resolvedAt == 0 || record.metadata.generatedAt == 0 ||
      record.metadata.fetchedAt == 0)
    "resolution and metadata timestamps must be set" ++
  finding record.requested.isEmpty "resolution has no requested roots" ++
  finding record.nodes.isEmpty "resolution has no closure nodes"

def policyFindings : List String :=
  reported (validateRuntimeIdentity record.runtime) ++
  finding (record.runtime.profile != "")
    "V1 runtime policy must not select a runtime profile" ++
  finding ((record.attestationPolicy.identity == "") == (record.attestationPolicy.waiver == ""))
    "attestation policy must set exactly one of identity or waiver"

/-- `Validate`. -/
def validate : Except String Unit :=
  joinErrors (headerFindings libraries record ++ nodeFindings libraries record ++
    requestedFindings record ++ record.graph.findings ++ policyFindings record)

end Validate

end DalecHomebrew.Resolution
