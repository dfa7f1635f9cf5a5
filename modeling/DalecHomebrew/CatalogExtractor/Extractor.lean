import DalecHomebrew.Catalog.TapCatalog
import DalecHomebrew.CatalogResolver.Resolver

/-!
# From extracted taps to catalogs

`ToCatalog` of `internal/catalogextractor/raw.go` with everything it calls.  The
extractor reports what the Ruby evaluation of a tap found for every platform;
`ToCatalog` merges the platforms of a Formula, replaces the spellings of its
dependencies by identities, and validates the catalog that results.

The maps of an extracted tap are lists of their entries, in the order in which the
source happens to range over them.
-/

namespace DalecHomebrew.CatalogExtractor

open Catalog
open CatalogResolver (CoreCatalog)
open Foundation Foundation.GoString Homebrew

/-! ## Extracted taps -/

structure ExtractedStableSource where
  url : String
  sha256 : String
  archiveFormat : String

structure ExtractedBottle where
  rootURL : String
  rebuild : Int
  files : List BottleFile

structure ExtractedPlatformFormula where
  tag : String
  name : String
  homebrewFullName : String
  stableVersion : String
  revision : Int := 0
  versionScheme : Int := 0
  disabled : Bool := false
  kegOnly : Bool := false
  license : String := ""
  dependencies : List String := []
  versionedFormulae : List String := []
  bottle : Option ExtractedBottle := none
  stableSource : Option ExtractedStableSource := none

structure ExtractedFormula where
  sourcePath : String
  sourceDigest : String
  platforms : List ExtractedPlatformFormula

structure ExtractedTap where
  schemaVersion : String
  tap : TapSource
  formulae : List ExtractedFormula
  aliases : List (String × String) := []
  renames : List (String × String) := []
  migrations : List (String × String) := []

/-! ## Dependencies -/

/-- The identity of one spelling: qualified, known to core, or local to the tap. -/
def normalizeSpelling (core : CoreCatalog) (owner : TapID) (localNames : List String)
    (spelling : String) :
    Except String FormulaID :=
  if containsChar spelling '/' then parseFormulaID spelling
  else
    match core.lookup spelling with
    | .ok found => parseFormulaID found.canonical
    | .error cause =>
      if cause.is .formulaNotFound then
        if spelling ∈ localNames then parseFormulaID (owner ++ "/" ++ spelling)
        else
          .error ("bare dependency " ++ quote spelling ++ " is absent from core and tap " ++ owner)
      else .error cause.message

/-- The body of the loop of `normalizeDependencies`. -/
def addDependency (core : CoreCatalog) (owner : TapID) (localNames : List String)
    (dependencies : List Dependency) (spelling : String) :
    Except String (List Dependency) := do
  let id ← normalizeSpelling core owner localNames spelling
  if id ∈ dependencies.map Dependency.id then
    throw ("duplicate normalized dependency " ++ id)
  return dependencies ++ [{ raw := spelling, id }]

def normalizeDependencies (core : CoreCatalog) (owner : TapID) (localNames : List String)
    (raw : List String) :
    Except String (List Dependency) := do
  let dependencies ← raw.foldlM (addDependency core owner localNames) []
  return sortByKey Dependency.id dependencies

/-! ## Bottles and archives -/

/-- The body of the loop of `mergeBottleDeclarations`. -/
def addBottleFile (files : Table String BottleFile) (file : BottleFile) :
    Except String (Table String BottleFile) :=
  match files.lookup file.tag with
  | some existing =>
    if existing ≠ file then
      .error ("bottle tag " ++ quote file.tag ++ " has conflicting declarations")
    else .ok (files.insert file.tag file)
  | none => .ok (files.insert file.tag file)

def mergeBottleDeclarations :
    Option ExtractedBottle → Option ExtractedBottle → Except String (Option BottleDeclaration)
  | none, none => .ok none
  | some left, some right =>
    if left.rootURL ≠ right.rootURL ∨ left.rebuild ≠ right.rebuild then
      .error "bottle root or rebuild differs by Linux architecture"
    else do
      let files ← (left.files ++ right.files).foldlM addBottleFile ∅
      return some {
        rootURL := left.rootURL, rebuild := left.rebuild,
        files := sortByKey BottleFile.tag files.values }
  | _, _ => .error "stable bottle availability differs by Linux architecture"

/-- The two Linux platforms in the order in which the source looks at them. -/
def linuxTags : List String := ["x86_64_linux", "arm64_linux"]

/-- The stable archive of a platform that no bottle covers. -/
def prebuiltArchiveFile (platforms : Table String ExtractedPlatformFormula)
    (bottle : Option BottleDeclaration) (tag : String) :
    Option PrebuiltArchiveFile := do
  let platform ← platforms.lookup tag
  let source ← platform.stableSource
  let covered := (bottle.toList.flatMap BottleDeclaration.files).any fun file =>
    file.tag == tag || file.tag == "all"
  if covered then none
  else
    some { tag, url := source.url, sha256 := source.sha256, format := source.archiveFormat }

def mergePrebuiltArchiveDeclarations (net : NetLibrary)
    (platforms : Table String ExtractedPlatformFormula) (bottle : Option BottleDeclaration) :
    Except String (Option PrebuiltArchiveDeclaration) :=
  let files := linuxTags.filterMap (prebuiltArchiveFile platforms bottle)
  if files = [] then .ok none
  else do
    validatePrebuiltArchiveDeclaration net { files }
    return some { files }

/-! ## Formulae -/

/-- The body of the loop of `convertFormula` over the platforms. -/
def addPlatform (sourcePath : String) (platforms : Table String ExtractedPlatformFormula)
    (value : ExtractedPlatformFormula) :
    Except String (Table String ExtractedPlatformFormula) :=
  if value.tag ≠ "x86_64_linux" ∧ value.tag ≠ "arm64_linux" then
    .error ("Formula " ++ quote sourcePath ++ " has unsupported extracted platform " ++
      quote value.tag)
  else if (platforms.lookup value.tag).isSome then
    .error ("Formula " ++ quote sourcePath ++ " repeats platform " ++ quote value.tag)
  else .ok (platforms.insert value.tag value)

/-- The fields that must not vary between the two architectures. -/
def sameIdentity (x86 arm : ExtractedPlatformFormula) : Bool :=
  x86.name = arm.name ∧ x86.homebrewFullName = arm.homebrewFullName ∧
    x86.stableVersion = arm.stableVersion ∧ x86.revision = arm.revision ∧
    x86.versionScheme = arm.versionScheme ∧ x86.disabled = arm.disabled ∧
    x86.license = arm.license

def parseSameTapFormula (owner : TapID) (value : String) : Except String FormulaID :=
  if countChar value '/' = 0 then parseFormulaID (owner ++ "/" ++ value)
  else do
    let id ← parseFormulaID value
    if FormulaID.tap id ≠ owner then
      throw ("Formula " ++ id ++ " leaves tap " ++ owner)
    return id

/-- The platform evaluations of a Formula. -/
structure Evaluations where
  x86 : Option ExtractedPlatformFormula
  arm : Option ExtractedPlatformFormula

variable (evaluations : Evaluations)

/-- The evaluation that the fields of the Formula are taken from. -/
def Evaluations.base? : Option ExtractedPlatformFormula :=
  evaluations.x86.or evaluations.arm

def Evaluations.baseTag : String :=
  if evaluations.x86.isSome then "x86_64_linux" else "arm64_linux"

/-- The evaluations of both architectures, where there are two. -/
def Evaluations.both : Option (ExtractedPlatformFormula × ExtractedPlatformFormula) :=
  match evaluations.x86, evaluations.arm with
  | some x86, some arm => some (x86, arm)
  | _, _ => none

/-- The overlay for a platform without an evaluation. -/
def unavailableVariation (evaluation : Option ExtractedPlatformFormula) (tag : String) :
    List FormulaVariation :=
  if evaluation.isNone then [{ tag, unavailable := true }] else []

/-- The overlays of a Formula whose architectures differ. -/
def convertVariations (core : CoreCatalog) (owner : TapID) (localNames : List String)
    (id : FormulaID) (evaluations : Evaluations) (baseDependencies : List Dependency) :
    Except String (List FormulaVariation) :=
  match evaluations.both with
  | none =>
    .ok (unavailableVariation evaluations.x86 "x86_64_linux" ++
      unavailableVariation evaluations.arm "arm64_linux")
  | some (x86, arm) => do
      let armDependencies ←
        withContext ("Formula " ++ id ++ " arm64_linux dependencies")
          (normalizeDependencies core owner localNames arm.dependencies)
      let dependenciesVary : Bool := baseDependencies ≠ armDependencies
      let kegOnlyVaries : Bool := x86.kegOnly ≠ arm.kegOnly
      if dependenciesVary || kegOnlyVaries then
        return [{
          tag := "arm64_linux", kegOnly := arm.kegOnly, overridesKegOnly := kegOnlyVaries,
          dependencies := if dependenciesVary then armDependencies else [],
          overridesDependencies := dependenciesVary }]
      else return []

def sortNames (names : List String) : List String :=
  sortByKey (fun name : String => name) names

/-- The versioned siblings of a Formula, which both architectures must agree on. -/
def convertVersioned (owner : TapID) (id : FormulaID) (evaluations : Evaluations)
    (base : ExtractedPlatformFormula) :
    Except String (List FormulaID) := do
  match evaluations.both with
  | some (x86, arm) =>
    if sortNames x86.versionedFormulae ≠ sortNames arm.versionedFormulae then
      throw ("Formula " ++ id ++ " versioned_formulae vary by architecture")
  | none => pure ()
  (sortNames base.versionedFormulae).mapM fun name =>
    withContext ("Formula " ++ id ++ " versioned target " ++ quote name)
      (parseSameTapFormula owner name)

def convertBottle (base : ExtractedPlatformFormula) : Except String (Option BottleDeclaration) :=
  match evaluations.both with
  | some (x86, arm) => mergeBottleDeclarations x86.bottle arm.bottle
  | none => mergeBottleDeclarations base.bottle base.bottle

/-- The check that the architectures agree where there are two. -/
def checkIdentity (base : ExtractedPlatformFormula) : Except String Unit :=
  match evaluations.both with
  | some (x86, arm) =>
    if !sameIdentity x86 arm then
      .error ("Formula " ++ quote base.name ++
        " changes unsupported identity/version fields across Linux architectures")
    else .ok ()
  | none => .ok ()

/-- `convertFormula` after the platforms have been collected. -/
def convertEvaluations (net : NetLibrary) (core : CoreCatalog) (owner : TapID)
    (localNames : List String) (raw : ExtractedFormula)
    (platforms : Table String ExtractedPlatformFormula) (evaluations : Evaluations)
    (base : ExtractedPlatformFormula) :
    Except String Catalog.Formula := do
  checkIdentity evaluations base
  let id ← parseFormulaID (owner ++ "/" ++ base.name)
  if base.homebrewFullName ≠ id then
    throw ("Formula " ++ quote base.name ++ " full name " ++ quote base.homebrewFullName ++
      " does not match " ++ quote id)
  let dependencies ←
    withContext ("Formula " ++ id ++ " " ++ evaluations.baseTag ++ " dependencies")
      (normalizeDependencies core owner localNames base.dependencies)
  let bottle ← withContext ("Formula " ++ id ++ " bottle") (convertBottle evaluations base)
  let prebuiltArchive ←
    withContext ("Formula " ++ id ++ " prebuilt archive")
      (mergePrebuiltArchiveDeclarations net platforms bottle)
  let versionedFormulae ← convertVersioned owner id evaluations base
  let variations ← convertVariations core owner localNames id evaluations dependencies
  return {
    id
    name := base.name
    homebrewFullName := base.homebrewFullName
    sourcePath := raw.sourcePath
    sourceDigest := raw.sourceDigest
    stableVersion := base.stableVersion
    revision := base.revision
    versionScheme := base.versionScheme
    disabled := base.disabled
    kegOnly := base.kegOnly
    license := base.license
    dependencies
    variations
    versionedFormulae
    bottle
    prebuiltArchive }

def convertFormula (net : NetLibrary) (core : CoreCatalog) (owner : TapID)
    (localNames : List String) (raw : ExtractedFormula) :
    Except String Catalog.Formula := do
  let platforms ← raw.platforms.foldlM (addPlatform raw.sourcePath) ∅
  let evaluations : Evaluations :=
    { x86 := platforms.lookup "x86_64_linux", arm := platforms.lookup "arm64_linux" }
  match evaluations.base? with
  | none => throw ("Formula " ++ quote raw.sourcePath ++ " is unavailable on Linux")
  | some base => convertEvaluations net core owner localNames raw platforms evaluations base

/-! ## Catalogs -/

def convertScopedMappings (owner : TapID) (values : List (String × String)) :
    Except String (List ScopedMapping) := do
  let result ← values.mapM fun (source, target) => do
    let fromID ← parseSameTapFormula owner source
    let toID ← parseSameTapFormula owner target
    return ({ fromID, toID } : ScopedMapping)
  return sortByKey ScopedMapping.fromID result

def convertMigration (owner : TapID) (entry : String × String) : Except String Migration :=
  match entry with
  | (source, rawTarget) => do
      let fromID ←
        withContext ("migration source " ++ quote source)
          (parseFormulaID (owner ++ "/" ++ source))
      if countChar rawTarget '/' ≠ 2 then
        throw ("migration " ++ quote source ++ " target " ++ quote rawTarget ++
          " is not fully qualified")
      let toID ←
        withContext ("migration " ++ quote source ++ " target") (parseFormulaID rawTarget)
      return { fromID, rawTarget, toID }

/-- The body of the loop of `ToCatalog` that collects the names of the tap. -/
def addFormulaName (names : List String) (raw : ExtractedFormula) :
    Except String (List String) :=
  match raw.platforms with
  | [] => .error ("Formula " ++ quote raw.sourcePath ++ " has no platform evaluations")
  | first :: _ =>
    if first.name = "" then
      .error ("Formula " ++ quote raw.sourcePath ++ " has an empty name")
    else if first.name ∈ names then
      .error ("duplicate extracted Formula " ++ quote first.name)
    else .ok (names ++ [first.name])

/-- `time.Unix(1, 0)`, counted from the Go zero time in nanoseconds. -/
def catalogValidationTime : Time := (62135596800 + 1) * 10 ^ 9

def toCatalog (net : NetLibrary) (extracted : ExtractedTap) (core : CoreCatalog) :
    Except String TapCatalog := do
  let owner := extracted.tap.id
  if TapID.validate owner ≠ .ok () ∨ TapID.isCore owner then
    throw ("invalid extracted tap identity " ++ quote owner)
  if extracted.tap.repository ≠ TapID.defaultGitHubRepository owner then
    throw ("tap repository " ++ quote extracted.tap.repository ++ " does not match " ++
      quote (TapID.defaultGitHubRepository owner))
  let formulaNames ← extracted.formulae.foldlM addFormulaName []
  let formulae ← extracted.formulae.mapM (convertFormula net core owner formulaNames)
  let aliases ← withContext "aliases" (convertScopedMappings owner extracted.aliases)
  let renames ← withContext "renames" (convertScopedMappings owner extracted.renames)
  let migrations ← extracted.migrations.mapM (convertMigration owner)
  let document : TapCatalog := {
    schemaVersion := tapCatalogSchemaVersion, tap := extracted.tap,
    publishedAt := catalogValidationTime, sequence := 1, formulae, aliases, renames,
    migrations := sortByKey Migration.fromID migrations }
  validateTapCatalog net document
  return document

/-! ## Dependencies of a converted Formula -/

section Dependencies

variable {core : CoreCatalog} {owner : TapID} {localNames : List String}

theorem addDependency_eq_ok {dependencies extended : List Dependency} {spelling : String} :
    addDependency core owner localNames dependencies spelling = .ok extended ↔
      ∃ id, normalizeSpelling core owner localNames spelling = .ok id ∧
        id ∉ dependencies.map Dependency.id ∧
        dependencies ++ [{ raw := spelling, id }] = extended := by
  simp only [addDependency, bind_eq_ok, throw_bind, ite_error_eq_ok, pure_eq_ok]

/-- Normalized dependencies are the spellings of a list with their identities. -/
theorem mem_of_normalizeDependencies {raw : List String} {dependencies : List Dependency}
    (normal : normalizeDependencies core owner localNames raw = .ok dependencies)
    {dependency : Dependency} :
    dependency ∈ dependencies ↔ dependency.raw ∈ raw ∧
        normalizeSpelling core owner localNames dependency.raw = .ok dependency.id := by
  simp only [normalizeDependencies, bind_eq_ok, pure_eq_ok] at normal
  obtain ⟨collected, loop, rfl⟩ := normal
  rw [mem_sortByKey]
  have kept : ∀ (done : List String) (source : List Dependency) (spelling : String)
      (target : List Dependency),
      (∀ dependency, dependency ∈ source ↔ dependency.raw ∈ done ∧
        normalizeSpelling core owner localNames dependency.raw = .ok dependency.id) →
      addDependency core owner localNames source spelling = .ok target →
      ∀ dependency, dependency ∈ target ↔ dependency.raw ∈ done ++ [spelling] ∧
        normalizeSpelling core owner localNames dependency.raw = .ok dependency.id := by
    intro done source spelling target held step dependency
    obtain ⟨id, normal, _, rfl⟩ := addDependency_eq_ok.mp step
    rw [List.mem_append, held dependency, List.mem_singleton, List.mem_append, List.mem_singleton]
    constructor
    · rintro (⟨member, same⟩ | rfl)
      · exact ⟨.inl member, same⟩
      · exact ⟨.inr rfl, normal⟩
    · rintro ⟨member | same, found⟩
      · exact .inl ⟨member, found⟩
      · refine .inr ?_
        rw [same, normal] at found
        obtain ⟨raw, identity⟩ := dependency
        simp only [Except.ok.injEq] at same found
        rw [same, found]
  have history := foldlM_history kept loop
    (by simp : ∀ dependency : Dependency, dependency ∈ [] ↔ dependency.raw ∈ [] ∧
      normalizeSpelling core owner localNames dependency.raw = .ok dependency.id)
  exact history dependency

end Dependencies

/-! ## What conversion keeps -/

/-- All dependencies of a Formula, those of its overlays included. -/
def allDependencies (formula : Catalog.Formula) : List Dependency :=
  formula.dependencies ++ formula.variations.flatMap FormulaVariation.dependencies

/-- A Formula that was converted from an extracted one. -/
structure Converted (core : CoreCatalog) (owner : TapID) (localNames : List String)
    (raw : ExtractedFormula) (formula : Catalog.Formula) : Prop where
  id : parseFormulaID (owner ++ "/" ++ formula.name) = .ok formula.id
  name : ∀ first rest, raw.platforms = first :: rest → formula.name = first.name
  dependencies : ∀ dependency ∈ allDependencies formula,
    normalizeSpelling core owner localNames dependency.raw = .ok dependency.id

section Conversion

variable {net : NetLibrary} {core : CoreCatalog} {owner : TapID} {localNames : List String}
  {sourcePath : String} {values : List ExtractedPlatformFormula}

theorem lookup_of_addPlatforms {platforms : Table String ExtractedPlatformFormula}
    (loop : values.foldlM (addPlatform sourcePath) ∅ = .ok platforms) (tag : String)
    (value : ExtractedPlatformFormula) :
    platforms.lookup tag = some value ↔ value ∈ values ∧ value.tag = tag := by
  have indexed := @Table.lookup_of_insertNew _ _ _ _ _ _ (addPlatform sourcePath) id
    ExtractedPlatformFormula.tag (fun value => value)
    (fun source value target step => by
      simp only [addPlatform, ite_error_eq_ok, Except.ok.injEq, Bool.not_eq_true,
        Option.isSome_eq_false_iff, Option.isNone_iff_eq_none] at step
      exact ⟨step.2.1, step.2.2.symm⟩) _ _ _ loop tag value
  simp only [id_eq, AList.lookup_empty] at indexed
  rw [indexed]
  constructor
  · rintro (impossible | ⟨_, member, same, rfl⟩)
    · cases impossible
    · exact ⟨member, same⟩
  · rintro ⟨member, same⟩
    exact .inr ⟨value, member, same, rfl⟩

theorem tag_of_addPlatforms {start platforms : Table String ExtractedPlatformFormula}
    (loop : values.foldlM (addPlatform sourcePath) start = .ok platforms) :
    ∀ value ∈ values, value.tag = "x86_64_linux" ∨ value.tag = "arm64_linux" := by
  induction values generalizing start with
  | nil =>
    intro value member
    cases member
  | cons value rest induct =>
    obtain ⟨next, step, loop⟩ := foldlM_cons_eq_ok.mp loop
    simp only [addPlatform, ite_error_eq_ok] at step
    rw [List.forall_mem_cons]
    refine ⟨?_, induct loop⟩
    have known := step.1
    tauto

variable {evaluations : Evaluations}

theorem dependencies_of_convertVariations {id : FormulaID}
    {baseDependencies : List Dependency} {variations : List FormulaVariation}
    (converted : convertVariations core owner localNames id evaluations baseDependencies =
      .ok variations) :
    ∀ dependency ∈ variations.flatMap FormulaVariation.dependencies,
      normalizeSpelling core owner localNames dependency.raw = .ok dependency.id := by
  intro dependency member
  obtain ⟨variation, among, listed⟩ := List.mem_flatMap.mp member
  unfold convertVariations at converted
  split at converted
  · obtain rfl := Except.ok.inj converted
    rcases List.mem_append.mp among with side | side
    all_goals
      simp only [unavailableVariation] at side
      split at side
      · rw [List.mem_singleton.mp side] at listed
        cases listed
      · cases side
  · simp only [bind_eq_ok, withContext_eq_ok] at converted
    obtain ⟨armDependencies, normal, result⟩ := converted
    split at result
    · obtain rfl := Except.ok.inj result
      rw [List.mem_singleton.mp among] at listed
      dsimp only at listed
      split at listed
      · exact ((mem_of_normalizeDependencies normal).mp listed).2
      · cases listed
    · obtain rfl := Except.ok.inj result
      cases among

variable {base : ExtractedPlatformFormula}

/-- The evaluation of any platform has the name of the evaluation the fields are taken from. -/
theorem Evaluations.name_eq_base (chosen : evaluations.base? = some base)
    (agree : ∀ x86 arm, evaluations.both = some (x86, arm) → sameIdentity x86 arm)
    {evaluation : ExtractedPlatformFormula}
    (evaluated : evaluations.x86 = some evaluation ∨ evaluations.arm = some evaluation) :
    base.name = evaluation.name := by
  obtain ⟨x86, arm⟩ := evaluations
  cases x86 with
  | none =>
    simp only [base?, Option.none_or] at chosen
    simp only [reduceCtorEq, false_or] at evaluated
    rw [Option.some.inj (chosen.symm.trans evaluated)]
  | some x86 =>
    obtain rfl : x86 = base := by simpa [base?] using chosen
    rcases evaluated with same | other
    · rw [Option.some.inj same]
    · have agreed := agree x86 evaluation (by
        dsimp only at other
        rw [both, other])
      simp only [sameIdentity, decide_eq_true_eq] at agreed
      exact agreed.1

theorem converted_of_convertFormula {raw : ExtractedFormula} {formula : Catalog.Formula}
    (result : convertFormula net core owner localNames raw = .ok formula) :
    Converted core owner localNames raw formula := by
  simp only [convertFormula, bind_eq_ok] at result
  obtain ⟨platforms, loop, result⟩ := result
  have indexed := lookup_of_addPlatforms loop
  split at result
  · cases result
  rename_i base chosen
  simp only [convertEvaluations, bind_eq_ok, withContext_eq_ok, throw_bind,
    ite_error_eq_ok] at result
  obtain ⟨_, checked, id, parsed, _, dependencies, normal, _, _, _, _, _, _, variations, varied,
    made⟩ := result
  obtain rfl := Except.ok.inj made
  refine ⟨parsed, ?_, ?_⟩
  · intro first rest listed
    have found := (indexed first.tag first).mpr ⟨by simp [listed], rfl⟩
    refine Evaluations.name_eq_base chosen (fun x86 arm both => ?_) ?_
    · simp only [checkIdentity, both, ite_error_eq_ok, Bool.not_eq_true, Bool.not_eq_false']
        at checked
      simpa using checked
    rcases tag_of_addPlatforms loop first (by simp [listed]) with known | known
    · exact .inl (known ▸ found)
    · exact .inr (known ▸ found)
  · rw [allDependencies, List.forall_mem_append]
    exact ⟨fun dependency member => ((mem_of_normalizeDependencies normal).mp member).2,
      dependencies_of_convertVariations varied⟩

variable {name : String}

theorem mem_of_addFormulaNames {values : List ExtractedFormula} {start names : List String}
    (loop : values.foldlM addFormulaName start = .ok names) : name ∈ names ↔ name ∈ start ∨
      ∃ raw ∈ values, ∃ first rest, raw.platforms = first :: rest ∧ first.name = name := by
  induction values generalizing start with
  | nil =>
    obtain rfl := Except.ok.inj loop
    simp
  | cons raw values induct =>
    obtain ⟨next, step, loop⟩ := foldlM_cons_eq_ok.mp loop
    rw [induct loop]
    cases listed : raw.platforms with
    | nil =>
      simp only [addFormulaName, listed] at step
      cases step
    | cons first rest =>
      simp only [addFormulaName, listed, ite_error_eq_ok, Except.ok.injEq] at step
      obtain ⟨_, _, rfl⟩ := step
      simp only [List.mem_append, List.mem_singleton, List.exists_mem_cons_iff, listed,
        List.cons.injEq]
      constructor
      · rintro ((earlier | rfl) | later)
        · exact .inl earlier
        · exact .inr (.inl ⟨first, rest, ⟨rfl, rfl⟩, rfl⟩)
        · exact .inr (.inr later)
      · rintro (earlier | ⟨_, _, ⟨rfl, rfl⟩, rfl⟩ | later)
        · exact .inl (.inl earlier)
        · exact .inl (.inr rfl)
        · exact .inr later

/-- A catalog that was converted from an extracted tap. -/
structure Extraction (net : NetLibrary) (core : CoreCatalog) (extracted : ExtractedTap)
    (localNames : List String) (document : TapCatalog) : Prop where
  tap : document.tap = extracted.tap
  valid : validateTapCatalog net document = .ok ()
  names : extracted.formulae.foldlM addFormulaName [] = .ok localNames
  formulae : List.Forall₂ (Converted core extracted.tap.id localNames) extracted.formulae
    document.formulae

variable {extracted : ExtractedTap} {document : TapCatalog}

theorem extraction_of_toCatalog (result : toCatalog net extracted core = .ok document) :
    ∃ localNames, Extraction net core extracted localNames document := by
  simp only [toCatalog, throw_bind, ite_error_eq_ok, bind_eq_ok, withContext_eq_ok,
    pure_eq_ok] at result
  obtain ⟨_, _, localNames, names, formulae, converted, aliases, _, renames, _, migrations, _, _,
    valid, rfl⟩ := result
  refine ⟨localNames, rfl, valid, names, ?_⟩
  exact (mapM_eq_ok.mp converted).imp fun _ _ => converted_of_convertFormula

/-- Every name of the extracted tap is that of a Formula of the catalog. -/
theorem Extraction.formula_of_mem_localNames
    (extraction : Extraction net core extracted localNames document)
    (known : name ∈ localNames) : ∃ formula ∈ document.formulae, formula.name = name := by
  rcases (mem_of_addFormulaNames extraction.names).mp known with
    impossible | ⟨raw, member, first, rest, listed, rfl⟩
  · cases impossible
  · obtain ⟨formula, among, converted⟩ := exists_right_of_forall₂ extraction.formulae member
    exact ⟨formula, among, converted.name first rest listed⟩

end Conversion

end DalecHomebrew.CatalogExtractor
