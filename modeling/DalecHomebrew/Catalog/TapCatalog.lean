import DalecHomebrew.Catalog.Validate
import DalecHomebrew.Foundation.GoPath
import DalecHomebrew.Foundation.GoURL

/-!
# Validation of tap catalogs

`ValidateTapCatalog` of `internal/catalog/validate.go` with everything it calls:
the identity and the digests of the source tree, every Formula with its
dependencies, overlays, bottles and prebuilt archives, and the mappings between
names.
-/

namespace DalecHomebrew.Catalog

open Foundation Foundation.GoString Homebrew

/-! ## Digests, paths and names -/

def validateCommit (value : String) : Except String Unit :=
  if byteLength value ≠ 40 ∨ !value.toList.all isLowerHex then
    .error "expected 40 lowercase hexadecimal characters"
  else .ok ()

/-- The decoding of 64 lowercase digits, which the source tries last, cannot fail. -/
def validateSHA256Digest (value : String) : Except String Unit :=
  if !hasPrefix value "sha256:" then .error "expected sha256:<hex>"
  else
    let hexValue := trimPrefix value "sha256:"
    if byteLength hexValue ≠ 64 ∨ !hexValue.toList.all isLowerHex then
      .error "expected 64 lowercase hexadecimal characters"
    else .ok ()

def maxSourcePathBytes : Nat := 1024

def validateFormulaSourcePath (value formulaName : String) : Except String Unit :=
  if value = "" ∨ maxSourcePathBytes < byteLength value ∨ hasControl value ∨
      containsChar value '\\' ∨ hasPrefix value "/" then
    .error "must be a bounded relative slash-separated path"
  else if GoPath.clean value ≠ value ∨ GoPath.clean value = "." ∨
      hasPrefix (GoPath.clean value) "../" then
    .error ("path " ++ quote value ++ " is not clean and contained")
  else if GoPath.base value ≠ formulaName ++ ".rb" then
    .error ("path basename " ++ quote (GoPath.base value) ++ " does not match Formula " ++
      quote formulaName)
  else .ok ()

def validateCellarPolicy (value : String) : Except String Unit :=
  if value ∈ ["any", ":any", "any_skip_relocation", ":any_skip_relocation",
      "/home/linuxbrew/.linuxbrew/Cellar"] then .ok ()
  else .error ("unsupported Cellar policy " ++ quote value)

def validBottleTag (tag : String) : Bool :=
  tag == "x86_64_linux" || tag == "arm64_linux" || tag == "all"

/-! ## URLs -/

def isHostCharacter (character : Char) : Bool :=
  isLowerAlphaNumeric character || character == '-'

def numericDottedHost (host : String) : Bool :=
  host != "" && (host.toList.all fun character => isDigit character || character == '.') &&
    containsChar host '.'

/-- `%q` of a character. -/
def quoteRune (character : Char) : String :=
  String.ofList (Char.ofNat 39 :: quoteChar character ++ [Char.ofNat 39])

def validateHostLabel (host label : String) : Except String Unit :=
  if label = "" ∨ 63 < byteLength label ∨ label.toList.head? = some '-' ∨
      label.toList.getLast? = some '-' then
    .error ("hostname " ++ quote host ++ " contains an invalid label")
  else
    match label.toList.find? fun character => !isHostCharacter character with
    | some character =>
      .error ("hostname " ++ quote host ++ " contains unsupported character " ++
        quoteRune character)
    | none => .ok ()

def validatePublicHostname (net : NetLibrary) (host : String) : Except String Unit := do
  if host = "" ∨ 253 < byteLength host ∨ host ≠ toLower host ∨ hasSuffix host "." then
    throw ("hostname " ++ quote host ++ " is empty, overlong, non-canonical, or has a trailing dot")
  if net.isIP host ∨ numericDottedHost host then
    throw ("IP-literal or numeric shorthand hostname " ++ quote host ++ " is not allowed")
  if host = "localhost" ∨ hasSuffix host ".localhost" then
    throw ("localhost hostname " ++ quote host ++ " is not allowed")
  if (splitChar host '.').length < 2 then
    throw ("hostname " ++ quote host ++ " must be a public DNS name")
  (splitChar host '.').forM (validateHostLabel host)

def validateHTTPSURL (net : NetLibrary) (value : String) (allowQuery : Bool) :
    Except String Unit := do
  if value = "" ∨ 16 * 2 ^ 10 < byteLength value ∨ hasControl value then
    throw "URL is empty, overlong, or contains control characters"
  let parsed ← net.parseURL value
  if parsed.scheme ≠ "https" ∨ parsed.opaqueData ≠ "" ∨ parsed.host = "" then
    throw "URL must be an absolute HTTPS URL"
  if parsed.hasUser then throw "URL userinfo is not allowed"
  if parsed.fragment ≠ "" ∨ parsed.rawFragment ≠ "" ∨ containsChar value '#' then
    throw "URL fragments are not allowed"
  if !allowQuery ∧ (parsed.rawQuery ≠ "" ∨ parsed.forceQuery ∨ containsChar value '?') then
    throw "URL queries are not allowed"
  if hasSuffix parsed.host ":" then throw "URL has an explicit empty port"
  if parsed.port ≠ "" ∧ parsed.port ≠ "443" then
    throw ("URL port " ++ quote parsed.port ++ " is not allowed")
  validatePublicHostname net parsed.hostname

def prebuiltArchiveFormatTarGzip : String := "tar+gzip"

def validatePrebuiltArchiveFormat (net : NetLibrary) (format sourceURL : String) :
    Except String Unit := do
  if format ≠ prebuiltArchiveFormatTarGzip then
    throw ("unsupported archive format " ++ quote format)
  if sourceURL ≠ "" then
    let parsed ← net.parseURL sourceURL
    if !hasSuffix parsed.path ".tar.gz" ∧ !hasSuffix parsed.path ".tgz" then
      throw ("URL path " ++ quote parsed.path ++ " does not match " ++ quote format)

/-! ## Formulae -/

/-- `TapID.DefaultGitHubRepository`. -/
def TapID.defaultGitHubRepository (id : TapID) : String :=
  if TapID.owner id = "" ∨ TapID.name id = "" then ""
  else "https://github.com/" ++ TapID.owner id ++ "/homebrew-" ++ TapID.name id

def validateTapSource (source : TapSource) : Except String Unit :=
  joinErrors (
    (match TapID.validate source.id with
      | .error message => ["id: " ++ message]
      | .ok _ => finding (TapID.isCore source.id)
          "homebrew/core is authenticated separately and cannot be a tap catalog source") ++
    finding (source.repository != TapID.defaultGitHubRepository source.id)
      ("repository " ++ quote source.repository ++ " does not match default GitHub repository " ++
        quote (TapID.defaultGitHubRepository source.id)) ++
    nested "commit" (validateCommit source.commit) ++
    nested "tree_digest" (validateSHA256Digest source.treeDigest) ++
    nested "archive_digest" (validateSHA256Digest source.archiveDigest))

def validateBottleDeclaration (net : NetLibrary) (bottle : BottleDeclaration) :
    Except String Unit :=
  joinErrors (
    nested "root_url" (validateHTTPSURL net bottle.rootURL false) ++
    finding (bottle.rebuild < 0) "rebuild must be non-negative" ++
    finding (bottle.files == []) "files must be a non-empty array" ++
    bottle.files.zipIdx.flatMap fun (file, index) =>
      finding (!validBottleTag file.tag)
        (indexed "files" index ++ " has unsupported tag " ++ quote file.tag) ++
      finding ((bottle.files.take index).any fun earlier => earlier.tag == file.tag)
        ("duplicate bottle tag " ++ quote file.tag) ++
      nested (indexed "files" index ++ ".url") (validateHTTPSURL net file.url true) ++
      nested (indexed "files" index ++ ".sha256") (validateSHA256Digest file.sha256) ++
      nested (indexed "files" index ++ ".cellar") (validateCellarPolicy file.cellar))

def validatePrebuiltArchiveDeclaration (net : NetLibrary)
    (declaration : PrebuiltArchiveDeclaration) :
    Except String Unit :=
  joinErrors (
    finding (declaration.files == []) "files must be a non-empty array" ++
    finding (2 < declaration.files.length)
      ("files has " ++ decimal declaration.files.length ++ " entries, limit is 2") ++
    declaration.files.zipIdx.flatMap fun (file, index) =>
      finding (file.tag != "x86_64_linux" && file.tag != "arm64_linux")
        (indexed "files" index ++ " has unsupported tag " ++ quote file.tag) ++
      finding ((declaration.files.take index).any fun earlier => earlier.tag == file.tag)
        ("duplicate prebuilt archive tag " ++ quote file.tag) ++
      nested (indexed "files" index ++ ".url") (validateHTTPSURL net file.url true) ++
      nested (indexed "files" index ++ ".sha256") (validateSHA256Digest file.sha256) ++
      nested (indexed "files" index ++ ".format")
        (validatePrebuiltArchiveFormat net file.format file.url))

def validateVariation (tap : TapID) (earlier : List FormulaVariation) (index : Nat)
    (variation : FormulaVariation) :
    List String :=
  finding (!validBottleTag variation.tag)
    (indexed "variations" index ++ " has unsupported tag " ++ quote variation.tag) ++
  finding (earlier.any fun other => other.tag == variation.tag)
    ("duplicate variation tag " ++ quote variation.tag) ++
  finding (variation.unavailable && (variation.dependencies != [] ||
      variation.overridesDependencies || variation.kegOnly || variation.overridesKegOnly))
    ("variation " ++ quote variation.tag ++ " is unavailable but also overrides Formula fields") ++
  finding (variation.dependencies != [] && !variation.overridesDependencies)
    ("variation " ++ quote variation.tag ++ " has dependencies without overrides_dependencies") ++
  finding (variation.kegOnly && !variation.overridesKegOnly)
    ("variation " ++ quote variation.tag ++ " sets keg_only without overrides_keg_only") ++
  nested ("variation " ++ quote variation.tag ++ " dependencies")
    (validateDependencies variation.dependencies tap)

/-- A tag may have a native bottle or a prebuilt archive, but not both. -/
def overlappingTags (formula : Formula) : List String :=
  match formula.bottle, formula.prebuiltArchive with
  | some bottle, some archive =>
    archive.files.flatMap fun file =>
      finding (bottle.files.any fun native => native.tag == file.tag || native.tag == "all")
        ("tag " ++ quote file.tag ++ " is declared as both a native bottle and prebuilt archive")
  | _, _ => []

def validateFormula (net : NetLibrary) (formula : Formula) (tap : TapID) : Except String Unit :=
  joinErrors (
    nested "id" (FormulaID.validate formula.id) ++
    finding (FormulaID.tap formula.id != tap)
      ("Formula " ++ quote formula.id ++ " does not belong to tap " ++ quote tap) ++
    nested "name" (validateRackName formula.name) ++
    finding (formula.name != FormulaID.name formula.id)
      ("name " ++ quote formula.name ++ " does not match Formula ID " ++ quote formula.id) ++
    finding (formula.homebrewFullName != formula.id)
      ("homebrew_full_name " ++ quote formula.homebrewFullName ++
        " does not match Formula ID " ++ quote formula.id) ++
    nested "source_path" (validateFormulaSourcePath formula.sourcePath formula.name) ++
    nested "source_digest" (validateSHA256Digest formula.sourceDigest) ++
    finding (isBlank formula.stableVersion || hasControl formula.stableVersion)
      "stable_version is required and cannot contain control characters" ++
    finding (formula.revision < 0 || formula.versionScheme < 0)
      "revision and version_scheme must be non-negative" ++
    finding (hasControl formula.license) "license cannot contain control characters" ++
    nested "dependencies" (validateDependencies formula.dependencies tap) ++
    (formula.variations.zipIdx.flatMap fun (variation, index) =>
      validateVariation tap (formula.variations.take index) index variation) ++
    (formula.versionedFormulae.zipIdx.flatMap fun (id, index) =>
      nested (indexed "versioned_formulae" index) (FormulaID.validate id) ++
      finding ((formula.versionedFormulae.take index).contains id)
        ("duplicate versioned Formula " ++ quote id)) ++
    (match formula.bottle with
      | some bottle => nested "bottle" (validateBottleDeclaration net bottle)
      | none => []) ++
    (match formula.prebuiltArchive with
      | some archive => nested "prebuilt_archive" (validatePrebuiltArchiveDeclaration net archive)
      | none => []) ++
    overlappingTags formula)

/-! ## Mappings -/

def validateScopedMapping (mapping : ScopedMapping) (tap : TapID) (formulae : List FormulaID) :
    Except String Unit :=
  joinErrors (
    ([("from", mapping.fromID), ("to", mapping.toID)].flatMap fun (field, id) =>
      nested field (FormulaID.validate id) ++
      finding (FormulaID.tap id != tap)
        (field ++ " " ++ quote id ++ " leaves tap " ++ quote tap)) ++
    finding (mapping.fromID == mapping.toID) "mapping source and target are identical" ++
    finding (formulae.contains mapping.fromID)
      ("mapping source " ++ quote mapping.fromID ++ " is also a canonical Formula") ++
    finding (!formulae.contains mapping.toID)
      ("mapping target " ++ quote mapping.toID ++ " is not a canonical Formula"))

def rawTargetFindings (migration : Migration) : List String :=
  if countChar migration.rawTarget '/' ≠ 2 then
    ["migration target " ++ quote migration.rawTarget ++ " must be fully qualified"]
  else
    match parseFormulaID migration.rawTarget with
    | .error message => ["raw_target: " ++ message]
    | .ok parsed =>
      finding (parsed != migration.toID)
        ("raw_target " ++ quote migration.rawTarget ++ " does not match normalized target " ++
          quote migration.toID)

def validateMigration (migration : Migration) (tap : TapID) (formulae : List FormulaID) :
    Except String Unit :=
  joinErrors (
    nested "from" (FormulaID.validate migration.fromID) ++
    finding (FormulaID.tap migration.fromID != tap)
      ("migration source " ++ quote migration.fromID ++ " leaves tap " ++ quote tap) ++
    finding (formulae.contains migration.fromID)
      ("migration source " ++ quote migration.fromID ++ " is also a canonical Formula") ++
    rawTargetFindings migration ++
    nested "to" (FormulaID.validate migration.toID) ++
    finding (migration.fromID == migration.toID) "migration source and target are identical" ++
    finding (FormulaID.tap migration.toID == tap && !formulae.contains migration.toID)
      ("same-tap migration target " ++ quote migration.toID ++ " is not a canonical Formula"))

/-- One alias, rename or migration with its validation. -/
structure MappingEntry where
  kind : String
  index : Nat
  source : FormulaID
  result : Except String Unit

/-- `validateMappings`, the loop over aliases and over renames. -/
def scopedEntries (catalog : TapCatalog) (kind : String) (mappings : List ScopedMapping) :
    List MappingEntry :=
  mappings.zipIdx.map fun (mapping, index) =>
    { kind, index, source := mapping.fromID
      result := validateScopedMapping mapping catalog.tap.id (catalog.formulae.map Formula.id) }

/-- The mappings of a catalog in the order in which the validator looks at them. -/
def mappingEntries (catalog : TapCatalog) : List MappingEntry :=
  scopedEntries catalog "aliases" catalog.aliases ++
  scopedEntries catalog "renames" catalog.renames ++
  catalog.migrations.zipIdx.map fun (migration, index) =>
    { kind := "migrations", index, source := migration.fromID
      result := validateMigration migration catalog.tap.id (catalog.formulae.map Formula.id) }

def mappingEntryFindings (entries : List MappingEntry) : List String :=
  entries.zipIdx.flatMap fun (entry, position) =>
    nested (indexed entry.kind entry.index) entry.result ++
    match (entries.take position).reverse.find? fun earlier => earlier.source == entry.source with
    | some prior =>
      ["mapping source " ++ quote entry.source ++ " appears in " ++ prior.kind ++ " and " ++
        entry.kind]
    | none => []

def versionedFindings (catalog : TapCatalog) (formula : Formula) : List String :=
  formula.versionedFormulae.zipIdx.flatMap fun (versioned, index) =>
    finding ((formula.versionedFormulae.take index).contains versioned)
      ("Formula " ++ quote formula.id ++ " has duplicate versioned Formula " ++ quote versioned) ++
    finding (versioned == formula.id)
      ("Formula " ++ quote formula.id ++ " lists itself as versioned") ++
    finding (FormulaID.tap versioned != catalog.tap.id)
      ("Formula " ++ quote formula.id ++ " versioned target " ++ quote versioned ++ " leaves tap") ++
    finding (!(catalog.formulae.map Formula.id).contains versioned)
      ("Formula " ++ quote formula.id ++ " versioned target " ++ quote versioned ++ " is missing")

/-- The findings about single Formulae and about the rack names they share. -/
def formulaFindings (net : NetLibrary) (catalog : TapCatalog) : List String :=
  catalog.formulae.zipIdx.flatMap fun (formula, index) =>
    let earlier := catalog.formulae.take index
    nested (indexed "formulae" index) (validateFormula net formula catalog.tap.id) ++
    finding (earlier.any fun other => other.id == formula.id)
      ("duplicate Formula " ++ quote formula.id) ++
    match earlier.reverse.find? fun other => other.name == formula.name with
    | some prior =>
      finding (prior.id != formula.id)
        ("Formulae " ++ quote prior.id ++ " and " ++ quote formula.id ++ " share rack name " ++
          quote formula.name)
    | none => []

/-- `ValidateTapCatalog`. -/
def validateTapCatalog (net : NetLibrary) (catalog : TapCatalog) : Except String Unit :=
  joinErrors (
    finding (catalog.schemaVersion != tapCatalogSchemaVersion)
      ("unsupported schema_version " ++ quote catalog.schemaVersion) ++
    nested "tap" (validateTapSource catalog.tap) ++
    finding (catalog.publishedAt == 0) "published_at is required" ++
    finding (catalog.sequence == 0) "sequence must be positive" ++
    finding (catalog.formulae == []) "formulae must be a non-empty array" ++
    formulaFindings net catalog ++
    mappingEntryFindings (mappingEntries catalog) ++
    catalog.formulae.flatMap (versionedFindings catalog))

/-! ## The scope of a catalog -/

/-- The Formulae and the mapping sources of a catalog belong to its tap. -/
structure TapCatalog.Scoped (catalog : TapCatalog) : Prop where
  formulae : ∀ formula ∈ catalog.formulae, FormulaID.tap formula.id = catalog.tap.id
  mappings : ∀ mapping ∈ catalog.aliases ++ catalog.renames,
    FormulaID.tap mapping.fromID = catalog.tap.id ∧ FormulaID.validate mapping.toID = .ok ()
  migrations : ∀ migration ∈ catalog.migrations,
    FormulaID.tap migration.fromID = catalog.tap.id ∧ FormulaID.validate migration.toID = .ok ()

variable {net : NetLibrary} {tap : TapID} {formula : Formula}

theorem tap_of_validateFormula
    (valid : validateFormula net formula tap = .ok ()) : FormulaID.tap formula.id = tap := by
  simp only [validateFormula, joinErrors_eq_ok, List.append_eq_nil_iff, finding_eq_nil,
    bne_eq_false_iff_eq] at valid
  tauto

variable {mapping : ScopedMapping} {formulae : List FormulaID}

theorem scope_of_validateScopedMapping
    (valid : validateScopedMapping mapping tap formulae = .ok ()) :
    FormulaID.tap mapping.fromID = tap ∧ FormulaID.validate mapping.toID = .ok () := by
  simp only [validateScopedMapping, joinErrors_eq_ok, List.append_eq_nil_iff, finding_eq_nil,
    List.flatMap_eq_nil_iff, List.forall_mem_cons, nested_eq_nil, bne_eq_false_iff_eq] at valid
  tauto

theorem scope_of_validateMigration {migration : Migration}
    (valid : validateMigration migration tap formulae = .ok ()) :
    FormulaID.tap migration.fromID = tap ∧ FormulaID.validate migration.toID = .ok () := by
  simp only [validateMigration, joinErrors_eq_ok, List.append_eq_nil_iff, finding_eq_nil,
    nested_eq_nil, bne_eq_false_iff_eq] at valid
  tauto

theorem result_of_mappingEntryFindings {entries : List MappingEntry}
    (none : mappingEntryFindings entries = []) : ∀ entry ∈ entries, entry.result = .ok () := by
  intro entry member
  obtain ⟨index, atIndex⟩ := List.mem_iff_getElem?.mp member
  simp only [mappingEntryFindings, List.flatMap_eq_nil_iff, List.append_eq_nil_iff,
    nested_eq_nil] at none
  exact (none (entry, index) (List.mem_zipIdx_iff_getElem?.mpr atIndex)).1

/-- Every Formula and every mapping of a catalog passes its own validation. -/
structure TapCatalog.Checked (net : NetLibrary) (catalog : TapCatalog) : Prop where
  formulae : ∀ formula ∈ catalog.formulae, validateFormula net formula catalog.tap.id = .ok ()
  mappings : ∀ mapping ∈ catalog.aliases ++ catalog.renames,
    validateScopedMapping mapping catalog.tap.id (catalog.formulae.map Formula.id) = .ok ()
  migrations : ∀ migration ∈ catalog.migrations,
    validateMigration migration catalog.tap.id (catalog.formulae.map Formula.id) = .ok ()

variable {catalog : TapCatalog}

theorem checked_of_validateTapCatalog
    (valid : validateTapCatalog net catalog = .ok ()) : catalog.Checked net := by
  simp only [validateTapCatalog, joinErrors_eq_ok, List.append_eq_nil_iff] at valid
  obtain ⟨⟨⟨_, formulae⟩, entries⟩, _⟩ := valid
  have results := result_of_mappingEntryFindings entries
  simp only [mappingEntries, List.forall_mem_append, scopedEntries, List.forall_mem_map] at results
  obtain ⟨⟨aliases, renames⟩, migrations⟩ := results
  have each : ∀ {mappings : List ScopedMapping},
      (∀ entry ∈ mappings.zipIdx, validateScopedMapping entry.1 catalog.tap.id
        (catalog.formulae.map Formula.id) = .ok ()) →
      ∀ mapping ∈ mappings, validateScopedMapping mapping catalog.tap.id
        (catalog.formulae.map Formula.id) = .ok () := by
    intro mappings checked mapping member
    obtain ⟨index, atIndex⟩ := List.mem_iff_getElem?.mp member
    exact checked (mapping, index) (List.mem_zipIdx_iff_getElem?.mpr atIndex)
  constructor
  · intro formula member
    obtain ⟨index, atIndex⟩ := List.mem_iff_getElem?.mp member
    simp only [formulaFindings, List.flatMap_eq_nil_iff, List.append_eq_nil_iff,
      nested_eq_nil] at formulae
    exact (formulae (formula, index) (List.mem_zipIdx_iff_getElem?.mpr atIndex)).1.1
  · rw [List.forall_mem_append]
    exact ⟨each aliases, each renames⟩
  · intro migration member
    obtain ⟨index, atIndex⟩ := List.mem_iff_getElem?.mp member
    exact migrations (migration, index) (List.mem_zipIdx_iff_getElem?.mpr atIndex)

theorem scoped_of_validateTapCatalog
    (valid : validateTapCatalog net catalog = .ok ()) : catalog.Scoped := by
  have checked := checked_of_validateTapCatalog valid
  constructor
  · intro formula member
    exact tap_of_validateFormula (checked.formulae formula member)
  · intro mapping member
    exact scope_of_validateScopedMapping (checked.mappings mapping member)
  · intro migration member
    exact scope_of_validateMigration (checked.migrations migration member)

/-- The identity of a valid Formula is its name below the tap. -/
theorem identity_of_validateFormula (valid : validateFormula net formula tap = .ok ()) :
    FormulaID.validate formula.id = .ok () ∧ FormulaID.tap formula.id = tap ∧
      FormulaID.name formula.id = formula.name := by
  simp only [validateFormula, joinErrors_eq_ok, List.append_eq_nil_iff, finding_eq_nil,
    nested_eq_nil, bne_eq_false_iff_eq] at valid
  exact ⟨by tauto, by tauto, by tauto⟩

/-- A mapping of a valid catalog does not start at one of its Formulae. -/
theorem TapCatalog.Checked.fromID_not_mem (checked : catalog.Checked net)
    (member : mapping ∈ catalog.aliases ++ catalog.renames ++
      catalog.migrations.map fun migration =>
        { fromID := migration.fromID, toID := migration.toID }) :
    mapping.fromID ∉ catalog.formulae.map Formula.id := by
  rcases List.mem_append.mp member with listed | migrated
  · have valid := checked.mappings mapping listed
    simp only [validateScopedMapping, joinErrors_eq_ok, List.append_eq_nil_iff,
      finding_eq_nil] at valid
    simpa using valid.1.2
  · obtain ⟨migration, among, rfl⟩ := List.mem_map.mp migrated
    have valid := checked.migrations migration among
    simp only [validateMigration, joinErrors_eq_ok, List.append_eq_nil_iff, finding_eq_nil] at valid
    simpa using valid.1.1.1.1.2

end DalecHomebrew.Catalog
