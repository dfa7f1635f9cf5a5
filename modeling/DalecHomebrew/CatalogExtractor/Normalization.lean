import DalecHomebrew.CatalogExtractor.Extractor
import DalecHomebrew.CatalogResolver.BareNames

/-!
# The two normalizations of dependency names

The extractor and the resolver both turn the spelling of a dependency into an
identity.  Both ask core about a bare name first and fall back to the tap of the
owner only if core does not know the name at all, so that a versioned name or a
name that left core never reaches the Formula of the tap
(`tapLocal_dependency_iff`).  They differ for qualified names: the extractor
records the identity as it is spelled, and the resolver follows the mappings
that start there (`extracted_identity_iff`).
-/

namespace DalecHomebrew.CatalogExtractor

open Catalog CatalogResolver Foundation Foundation.GoString Homebrew Policy
open Homebrew.Metadata (CatalogFormula buildCatalog validateSimpleName)

/-! ## Names of the tap -/

/-- Every name of a Formula identity passes the check of core lookups. -/
theorem validateSimpleName_of_validateFormulaName {name : String}
    (valid : validateFormulaName name = .ok ()) : validateSimpleName name = .ok () := by
  simp only [validateFormulaName, bind_eq_ok, throw_bind, ite_error_eq_ok, not_not] at valid
  obtain ⟨_, _, first, _, result⟩ := valid
  have all : (name.toList.all fun character =>
      isLowerAlphaNumeric character || "+_.@-".toList.contains character) = true := by
    by_contra other
    rw [if_pos other] at result
    cases result
  unfold validateSimpleName
  cases characters : name.toList with
  | nil => simp [characters] at first
  | cons head tail =>
    rw [characters] at all first
    rw [List.all_cons, Bool.and_eq_true] at all
    have start : isLowerAlphaNumeric head = true := by simpa using first
    have rest : tail.all Metadata.isNameCharacter = true := by
      simpa [Metadata.isNameCharacter, isLowerAlphaNumeric] using all.2
    exact if_pos ⟨by simpa [isLowerAlphaNumeric] using start, rest⟩

section Local

variable {known : List String} {catalog : Metadata.CoreCatalog} {owner : TapID} {name : String}
  {id : FormulaID}

/-- The names for which both normalizations reach the tap of the owner. -/
def FallsBack (catalog : Metadata.CoreCatalog) (name : String) : Prop :=
  containsChar name '@' = false ∧ catalog.migrations.lookup name = none

theorem nameValid_of_append {owner : TapID} {name : String} {id : FormulaID}
    (bare : containsChar name '/' = false)
    (identity : parseFormulaID (owner ++ "/" ++ name) = .ok id) :
    validateFormulaName name = .ok () := by
  obtain ⟨-, ownName⟩ := FormulaID.parts_of_append bare identity
  obtain ⟨shared, read, sharedID⟩ := FormulaID.exists_of_parseFormulaID identity
  obtain ⟨-, -, -, valid⟩ := newFormulaID_ok.mp (newFormulaID_of_parse read)
  rw [FormulaID.name, sharedID] at ownName
  exact ownName ▸ valid

/-- What core answers about a name that it has no Formula for. -/
theorem core_answers (accepted : catalog.Accepted known)
    (slashFree : ∀ name ∈ known, containsChar name '/' = false)
    (outside : TapID.isCore owner = false) (bare : containsChar name '/' = false)
    (identity : parseFormulaID (owner ++ "/" ++ name) = .ok id)
    (absent : catalog.canonicalName? name = none) :
    (∃ cause, catalog.index.lookup name = .error cause ∧ cause.is .formulaNotFound = true ∧
        FallsBack catalog name) ∨
    (∃ cause, catalog.index.lookup name = .error cause ∧ cause.is .formulaNotFound = false ∧
        ¬ FallsBack catalog name) ∨
    ∃ found, catalog.index.lookup name = .ok found ∧ parseFormulaID found.canonical ≠ .ok id ∧
        ¬ FallsBack catalog name := by
  obtain ⟨ownTap, -⟩ := FormulaID.parts_of_append bare identity
  have missing := Metadata.lookup_absent_iff accepted
    (validateSimpleName_of_validateFormulaName (nameValid_of_append bare identity)) absent
  cases looked : catalog.index.lookup name with
  | error cause =>
    rw [looked] at missing
    cases kind : cause.is .formulaNotFound with
    | true => exact .inl ⟨cause, rfl, kind, missing.mp ⟨cause, rfl, kind⟩⟩
    | false =>
      refine .inr (.inl ⟨cause, rfl, kind, fun falls => ?_⟩)
      obtain ⟨other, same, otherKind⟩ := missing.mpr falls
      rw [Except.error.inj same, otherKind] at kind
      cases kind
  | ok found =>
    rw [looked] at missing
    refine .inr (.inr ⟨found, rfl, fun parsed => ?_, fun falls => ?_⟩)
    · -- core answers with a bare name, which denotes a Formula of core
      obtain ⟨formula, held⟩ := Option.isSome_iff_exists.mp
        (AList.lookup_isSome.mpr (Metadata.mem_of_lookup_ok looked))
      have inCore := (FormulaID.name_of_bare (slashFree _ (accepted.named _ _ held).2) parsed).1
      rw [isCore_eq, ownTap, outside] at inCore
      cases inCore
    · obtain ⟨other, same, _⟩ := missing.mpr falls
      cases same

/-- The extractor reaches the Formula of the tap exactly for the names that fall back. -/
theorem normalizeSpelling_local_iff {localNames : List String} (accepted : catalog.Accepted known)
    (slashFree : ∀ name ∈ known, containsChar name '/' = false)
    (outside : TapID.isCore owner = false) (bare : containsChar name '/' = false)
    (identity : parseFormulaID (owner ++ "/" ++ name) = .ok id)
    (absent : catalog.canonicalName? name = none) (declared : name ∈ localNames) :
    normalizeSpelling ⟨catalog.index.lookup⟩ owner localNames name = .ok id ↔
      FallsBack catalog name := by
  unfold normalizeSpelling
  simp only [bare, Bool.false_eq_true, if_false]
  rcases core_answers accepted slashFree outside bare identity absent with
    ⟨cause, looked, kind, falls⟩ | ⟨cause, looked, kind, stays⟩ | ⟨found, looked, other, stays⟩
  · simp [looked, kind, declared, identity, falls]
  · simp [looked, kind, stays]
  · simp [looked, other, stays]

/-- The resolver reaches the Formula of the tap exactly for the names that fall back. -/
theorem normalizeDependency_local_iff {resolver : Resolver} {formula : Catalog.Formula}
    (accepted : catalog.Accepted known) (slashFree : ∀ name ∈ known, containsChar name '/' = false)
    (outside : TapID.isCore owner = false) (core : resolver.core.lookup = catalog.index.lookup)
    (holds : resolver.Holds owner formula) (absent : catalog.canonicalName? formula.name = none) :
    (resolver.normalizeDependency owner formula.name).result =
        .ok (formula.id, .external formula formula.id) ↔
      FallsBack catalog formula.name := by
  have own : (resolver.lookupParsed (owner ++ "/" ++ formula.name)).result =
      .ok (formula.id, .external formula formula.id) := by
    simp only [Resolver.lookupParsed, holds.identity]
    exact lookupExact_unmapped holds.outside holds.unmapped holds.found
  have readable : ∃ coreID, parseFormulaID formula.name = .ok coreID :=
    ⟨_, by
      rw [parseFormulaID,
        parse_of_validateFormulaName (nameValid_of_append holds.bare holds.identity)]
      rfl⟩
  rw [normalizeDependency_bare holds.bare, core]
  rcases core_answers accepted slashFree outside holds.bare holds.identity absent with
    ⟨cause, looked, kind, falls⟩ | ⟨cause, looked, kind, stays⟩ | ⟨found, looked, other, stays⟩
  · simp [looked, kind, own, readable, falls]
  · simp [looked, kind, stays]
  · simp [looked, stays]

end Local

/-- A singleton list normalizes exactly if its spelling does. -/
theorem normalizeDependencies_singleton {core : CoreCatalog} {owner : TapID}
    {localNames : List String} {name : String} {id : FormulaID} :
    normalizeDependencies core owner localNames [name] = .ok [{ raw := name, id }] ↔
      normalizeSpelling core owner localNames name = .ok id := by
  simp only [normalizeDependencies, List.foldlM_cons, List.foldlM_nil, addDependency, List.map_nil,
    List.not_mem_nil, if_false, List.nil_append]
  cases normalizeSpelling core owner localNames name with
  | error message => simp [bind, Except.bind]
  | ok found => simp [bind, Except.bind, pure, Except.pure, sortByKey]

/--
For a name of the owner tap that core has no Formula, alias or old name for,
both normalizations answer with the Formula of the tap exactly if the name is
not versioned and no migration of core has it as its source.
-/
theorem tapLocal_dependency_iff (formulae : List CatalogFormula)
    (migrations : List Metadata.Migration) (catalog : Metadata.CoreCatalog)
    (simple : ∀ formula ∈ formulae, validateSimpleName formula.name = .ok ())
    (targets : ∀ migration ∈ migrations, migration.inCore = false → migration.target ≠ "")
    (built : buildCatalog formulae migrations = .ok catalog) (owner : TapID)
    (outside : TapID.isCore owner = false) (name : String) (bare : containsChar name '/' = false)
    (absent : catalog.canonicalName? name = none) (id : FormulaID)
    (identity : parseFormulaID (owner ++ "/" ++ name) = .ok id) :
    (∀ localNames, name ∈ localNames →
      (normalizeDependencies ⟨catalog.index.lookup⟩ owner localNames [name] =
          .ok [{ raw := name, id }] ↔ FallsBack catalog name)) ∧
    (∀ localNames spellings dependencies, name ∈ localNames → name ∈ spellings →
      normalizeDependencies ⟨catalog.index.lookup⟩ owner localNames spellings = .ok dependencies →
      ({ raw := name, id } ∈ dependencies ↔ FallsBack catalog name)) ∧
    (∀ net policy entries resolver document formula, (entries.map Prod.fst).Nodup →
      new (validateTapCatalog net) policy (some ⟨catalog.index.lookup⟩) entries = .ok resolver →
      (owner, some document) ∈ entries → formula ∈ document.formulae → formula.name = name →
      ((resolver.normalizeDependency owner name).result = .ok (id, .external formula id) ↔
        FallsBack catalog name)) := by
  have accepted := Metadata.accepted_of_buildCatalog
    (fun formula member => List.mem_map.mpr ⟨formula, member, rfl⟩) targets built
  have slashFree : ∀ name ∈ formulae.map fun formula => formula.name,
      containsChar name '/' = false := by
    rw [List.forall_mem_map]
    exact fun formula member => Metadata.bare_of_validateSimpleName (simple formula member)
  refine ⟨?_, ?_, ?_⟩
  · intro localNames declared
    rw [normalizeDependencies_singleton]
    exact normalizeSpelling_local_iff accepted slashFree outside bare identity absent declared
  · intro localNames spellings dependencies declared listed normal
    rw [mem_of_normalizeDependencies normal,
      normalizeSpelling_local_iff accepted slashFree outside bare identity absent declared]
    simp [listed]
  · rintro net policy entries resolver document formula distinct made member declared rfl
    obtain ⟨core, same, indexed⟩ := built_of_new made
    obtain rfl := Option.some.inj same
    have holds := indexed.holds distinct member declared
    obtain rfl : id = formula.id := by
      exact Except.ok.inj (identity.symm.trans holds.identity)
    exact normalizeDependency_local_iff accepted slashFree outside (by rw [indexed.core]) holds absent

namespace Sample

def zlib : CatalogFormula where
  name := "zlib"
  fullName := "homebrew/core/zlib"
  stableVersion := "1.3"
  revision := 0
  versionScheme := 0

def coreCatalog : Metadata.CoreCatalog where
  canonical := (∅ : Table String CatalogFormula).insert "zlib" zlib
  aliases := ∅
  oldNames := ∅
  migrations := ∅
  resolvedMigrations := ∅
  canonicalNames := ["zlib"]

theorem coreCatalog_built : buildCatalog [zlib] [] = .ok coreCatalog := rfl

def core : CoreCatalog := ⟨coreCatalog.index.lookup⟩

def digest : String := "sha256:71461c31e350cabf4e718a5e1331b39a395a6dc9183bb3ea5922f0fac67404ce"

def library : ExtractedPlatformFormula where
  tag := "x86_64_linux"
  name := "lib"
  homebrewFullName := "acme/tools/lib"
  stableVersion := "1.0"

def versioned : ExtractedPlatformFormula where
  tag := "x86_64_linux"
  name := "tool@2"
  homebrewFullName := "acme/tools/tool@2"
  stableVersion := "2.0"
  dependencies := ["acme/tools/old", "lib"]

/-- A tap with a versioned Formula that depends on an alias and on the bare name of another one. -/
def extracted : ExtractedTap where
  schemaVersion := ""
  tap := {
    id := "acme/tools", repository := "https://github.com/acme/homebrew-tools",
    commit := "71461c31e350cabf4e718a5e1331b39a395a6dc9", treeDigest := digest,
    archiveDigest := digest }
  formulae := [
    { sourcePath := "Formula/lib.rb", sourceDigest := digest, platforms := [library] },
    { sourcePath := "Formula/tool@2.rb", sourceDigest := digest, platforms := [versioned] }]
  aliases := [("old", "lib")]

def net : NetLibrary where
  parseURL := fun _ => .error "no URLs"
  isIP := fun _ => false

def libraryFormula : Catalog.Formula where
  id := "acme/tools/lib"
  name := "lib"
  homebrewFullName := "acme/tools/lib"
  sourcePath := "Formula/lib.rb"
  sourceDigest := digest
  stableVersion := "1.0"
  revision := 0
  versionScheme := 0
  variations := [{ tag := "arm64_linux", unavailable := true }]

def recorded : Dependency := { raw := "acme/tools/old", id := "acme/tools/old" }

def recordedBare : Dependency := { raw := "lib", id := "acme/tools/lib" }

def versionedFormula : Catalog.Formula where
  id := "acme/tools/tool@2"
  name := "tool@2"
  homebrewFullName := "acme/tools/tool@2"
  sourcePath := "Formula/tool@2.rb"
  sourceDigest := digest
  stableVersion := "2.0"
  revision := 0
  versionScheme := 0
  dependencies := [recordedBare, recorded]
  variations := [{ tag := "arm64_linux", unavailable := true }]

def document : TapCatalog where
  schemaVersion := tapCatalogSchemaVersion
  tap := extracted.tap
  publishedAt := catalogValidationTime
  sequence := 1
  formulae := [libraryFormula, versionedFormula]
  aliases := [{ fromID := "acme/tools/old", toID := "acme/tools/lib" }]

theorem extracted_document : toCatalog net extracted core = .ok document := by
  decide +kernel

def entries : List (TapID × Option TapCatalog) := [("acme/tools", some document)]

def resolver : Resolver where
  core := core
  catalogs := (∅ : Table TapID TapCatalog).insert "acme/tools" document
  formulae := ((∅ : Table FormulaID Catalog.Formula).insert "acme/tools/lib" libraryFormula).insert
    "acme/tools/tool@2" versionedFormula
  mappings := (∅ : Table FormulaID FormulaID).insert "acme/tools/old" "acme/tools/lib"
  policy := { prebuiltArchives := [] }

theorem resolver_made :
    new (validateTapCatalog net) { prebuiltArchives := [] } (some core) entries = .ok resolver := by
  obtain ⟨_, extraction⟩ := extraction_of_toCatalog extracted_document
  have added : Resolver.addCatalog (validateTapCatalog net)
      { core, catalogs := ∅, formulae := ∅, mappings := ∅, policy := { prebuiltArchives := [] } }
      ("acme/tools", some document) = .ok resolver :=
    addCatalog_eq_ok.mpr
      ⟨by decide, document, { resolver with mappings := ∅ }, rfl, extraction.valid, rfl, rfl, rfl⟩
  exact foldlM_cons_eq_ok.mpr ⟨resolver, added, rfl⟩

end Sample

theorem tapLocal_dependency_library :
    normalizeDependencies Sample.core "acme/tools" ["lib", "tool@2"] ["lib"] =
        .ok [{ raw := "lib", id := "acme/tools/lib" }] ∧
      (Sample.resolver.normalizeDependency "acme/tools" "lib").result =
        .ok ("acme/tools/lib", .external Sample.libraryFormula "acme/tools/lib") := by
  have law := tapLocal_dependency_iff [Sample.zlib] [] Sample.coreCatalog (by decide) (by simp)
    Sample.coreCatalog_built "acme/tools" (by decide) "lib" (by decide) rfl "acme/tools/lib"
    (by decide)
  have falls : FallsBack Sample.coreCatalog "lib" := ⟨by decide, rfl⟩
  exact ⟨(law.1 _ (by simp)).mpr falls,
    (law.2.2 Sample.net _ Sample.entries Sample.resolver Sample.document Sample.libraryFormula
      (by simp [Sample.entries]) Sample.resolver_made (by simp [Sample.entries])
      (by simp [Sample.document]) rfl).mpr falls⟩

/-- Neither normalization reaches a versioned Formula of the tap through its bare name. -/
theorem versioned_dependency_unreachable :
    Sample.coreCatalog.canonicalName? "tool@2" = none ∧
      Sample.versionedFormula ∈ Sample.document.formulae ∧
      new (validateTapCatalog Sample.net) { prebuiltArchives := [] } (some Sample.core)
        Sample.entries = .ok Sample.resolver ∧
      normalizeDependencies Sample.core "acme/tools" ["lib", "tool@2"] ["tool@2"] =
        .error ("Formula \"tool@2\": versioned Formula must be an explicit canonical name") ∧
      (Sample.resolver.normalizeDependency "acme/tools" "tool@2").result =
        .error (.core (.wrapped "Formula \"tool@2\": "
          (.sentinel .versionedFormulaNotExplicit) "")) :=
  ⟨rfl, by simp [Sample.document], Sample.resolver_made, by decide +kernel, by decide +kernel⟩

/-! ## Extracted dependencies -/

/--
The spellings that already name their normal form: bare names, canonical names
of core, and names of taps at which no mapping of a catalog starts.
-/
def SpellsNormalForm (core : CoreCatalog) (entries : List (TapID × Option TapCatalog))
    (spelling : String) : Prop :=
  containsChar spelling '/' = false ∨
    if FormulaID.isCore spelling then
      ∃ found, core.lookup (FormulaID.name spelling) = .ok found ∧
        parseFormulaID found.canonical = .ok spelling
    else
      ∀ tap document, (tap, some document) ∈ entries →
        ∀ mapping ∈ catalogMappings document, mapping.fromID ≠ spelling

section Agreement

variable {resolver : Resolver} {core : CoreCatalog} {owner : TapID} {localNames : List String}
  {spelling : String} {id : FormulaID} {answer : FormulaID × FormulaSource}

/-- The two normalizations agree about bare names. -/
theorem agree_of_bare (sameCore : resolver.core = core)
    (holds : ∀ name ∈ localNames, ∃ formula, formula.name = name ∧ resolver.Holds owner formula)
    (bare : containsChar spelling '/' = false)
    (recorded : normalizeSpelling core owner localNames spelling = .ok id)
    (result : (resolver.normalizeDependency owner spelling).result = .ok answer) :
    answer.1 = id := by
  rw [normalizeDependency_bare bare, sameCore] at result
  unfold normalizeSpelling at recorded
  simp only [bare, Bool.false_eq_true, if_false] at recorded
  obtain ⟨-, ⟨found, canonical, looked, parsed, rfl⟩ | ⟨cause, looked, missing, fallback⟩⟩ := result
  · rw [looked] at recorded
    exact Except.ok.inj (parsed.symm.trans recorded)
  · simp only [looked, missing, if_true] at recorded
    split at recorded
    · rename_i declared
      obtain ⟨formula, rfl, held⟩ := holds spelling declared
      obtain rfl := Except.ok.inj (held.identity.symm.trans recorded)
      simp only [Resolver.lookupParsed, held.identity,
        lookupExact_unmapped held.outside held.unmapped held.found, Except.ok.injEq] at fallback
      rw [← fallback]
    · cases recorded

/-- The two normalizations agree about a qualified name exactly if it names its normal form. -/
theorem agree_iff_of_qualified {net : NetLibrary} {policy : TapPolicy}
    {entries : List (TapID × Option TapCatalog)}
    (built : resolver.Built (validateTapCatalog net) policy core entries)
    (qualified : containsChar spelling '/' = true)
    (recorded : normalizeSpelling core owner localNames spelling = .ok id)
    (result : (resolver.normalizeDependency owner spelling).result = .ok answer) :
    answer.1 = id ↔ SpellsNormalForm core entries spelling := by
  simp only [normalizeSpelling, qualified, if_true] at recorded
  obtain rfl := FormulaID.eq_of_qualified qualified recorded
  simp only [Resolver.normalizeDependency, qualified, if_true, Resolver.lookupParsed,
    recorded] at result
  simp only [SpellsNormalForm, qualified, Bool.true_eq_false, false_or]
  cases inCore : FormulaID.isCore id with
  | true =>
    simp only [Resolver.lookupExact, inCore, if_true, Resolver.lookupCore, built.core] at result
    simp only [if_true]
    split at result
    · cases result
    rename_i found looked
    split at result
    · cases result
    · rename_i canonical parsed
      obtain rfl := Except.ok.inj result
      simp [looked, parsed]
  | false =>
    rw [lookupExact_fixed_iff inCore result]
    simp only [Bool.false_eq_true, if_false]
    constructor
    · intro missing tap document member mapping among start
      have mapped := (built.mappings id mapping.toID).mpr
        ⟨tap, document, member, mapping, among, start, rfl⟩
      rw [missing] at mapped
      cases mapped
    · intro unmapped
      refine Option.eq_none_iff_forall_ne_some.mpr fun next mapped => ?_
      obtain ⟨tap, document, member, mapping, among, start, -⟩ := (built.mappings id next).mp mapped
      exact unmapped tap document member mapping among start

end Agreement

/--
A dependency that conversion recorded and that the resolver can normalize is
normalized to the recorded identity exactly if it is spelled with its normal
form.
-/
theorem extracted_identity_iff (net : NetLibrary) (policy : TapPolicy) (core : CoreCatalog)
    (extracted : ExtractedTap) (document : TapCatalog)
    (converted : toCatalog net extracted core = .ok document)
    (entries : List (TapID × Option TapCatalog)) (distinct : (entries.map Prod.fst).Nodup)
    (included : (extracted.tap.id, some document) ∈ entries) (resolver : Resolver)
    (made : new (validateTapCatalog net) policy (some core) entries = .ok resolver)
    (formula : Catalog.Formula) (declared : formula ∈ document.formulae) (dependency : Dependency)
    (listed : dependency ∈ allDependencies formula) (answer : FormulaID × FormulaSource)
    (normalized :
      (resolver.normalizeDependency extracted.tap.id dependency.raw).result = .ok answer) :
    answer.1 = dependency.id ↔ SpellsNormalForm core entries dependency.raw := by
  obtain ⟨localNames, extraction⟩ := extraction_of_toCatalog converted
  obtain ⟨known, same, built⟩ := built_of_new made
  obtain rfl := Option.some.inj same
  obtain ⟨raw, _, conversion⟩ := exists_left_of_forall₂ extraction.formulae declared
  have recorded := conversion.dependencies dependency listed
  cases slash : containsChar dependency.raw '/' with
  | true => exact agree_iff_of_qualified built slash recorded normalized
  | false =>
    refine iff_of_true (agree_of_bare built.core ?_ slash recorded normalized) (.inl slash)
    intro name known
    obtain ⟨other, among, rfl⟩ := extraction.formula_of_mem_localNames known
    exact ⟨other, rfl, built.holds distinct included among⟩

/-- The alias is not spelled with its normal form, the bare name is. -/
theorem extracted_identity_alias :
    toCatalog Sample.net Sample.extracted Sample.core = .ok Sample.document ∧
      ("acme/tools/lib" ≠ Sample.recorded.id ∧
        ¬ SpellsNormalForm Sample.core Sample.entries Sample.recorded.raw) ∧
      "acme/tools/lib" = Sample.recordedBare.id ∧
        SpellsNormalForm Sample.core Sample.entries Sample.recordedBare.raw := by
  have law := extracted_identity_iff Sample.net { prebuiltArchives := [] } Sample.core
    Sample.extracted Sample.document Sample.extracted_document Sample.entries
    (by simp [Sample.entries]) (by simp [Sample.entries, Sample.extracted]) Sample.resolver
    Sample.resolver_made Sample.versionedFormula (by simp [Sample.document])
  have moved := law Sample.recorded (by simp [allDependencies, Sample.versionedFormula])
    ("acme/tools/lib", .external Sample.libraryFormula "acme/tools/lib") (by decide +kernel)
  have kept := law Sample.recordedBare (by simp [allDependencies, Sample.versionedFormula])
    ("acme/tools/lib", .external Sample.libraryFormula "acme/tools/lib") (by decide +kernel)
  have differ : "acme/tools/lib" ≠ Sample.recorded.id := by decide
  exact ⟨Sample.extracted_document, ⟨differ, mt moved.mpr differ⟩, kept.mpr (.inl rfl), .inl rfl⟩

/-- A dependency on a qualified alias is recorded as the alias and normalized to its target. -/
theorem qualified_alias_disagrees :
    toCatalog Sample.net Sample.extracted Sample.core = .ok Sample.document ∧
      new (validateTapCatalog Sample.net) { prebuiltArchives := [] } (some Sample.core)
        Sample.entries = .ok Sample.resolver ∧
      Sample.versionedFormula ∈ Sample.document.formulae ∧
      Sample.recorded ∈ allDependencies Sample.versionedFormula ∧
      (Sample.resolver.normalizeDependency "acme/tools" Sample.recorded.raw).result =
        .ok ("acme/tools/lib", .external Sample.libraryFormula "acme/tools/lib") ∧
      "acme/tools/lib" ≠ Sample.recorded.id :=
  ⟨Sample.extracted_document, Sample.resolver_made, by simp [Sample.document],
    by simp [allDependencies, Sample.versionedFormula], by decide +kernel, by decide⟩

end DalecHomebrew.CatalogExtractor
