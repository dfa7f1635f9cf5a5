import DalecHomebrew.Bottle.Receipts
import DalecHomebrew.CatalogGenerator.Fixpoint
import DalecHomebrew.Resolution.Containment

/-!
# The dependencies of an OCI bottle

`finishOCI` compares what the receipt of a bottle and its authenticated tab say
about the runtime dependencies.  Both lists are converted and sorted by the same
function, but `catalogBottleTab` replaces an empty list by `nil`, and
`reflect.DeepEqual` tells `nil` from an empty slice.
-/

namespace DalecHomebrew.CatalogGenerator

open Catalog Foundation Foundation.GoString
open Bottle (ReceiptDependency normal_of_normalize normalizeDiscoveredReceiptDependencies)

/-- The part of `CatalogInspection` that `finishOCI` reads. -/
structure CatalogInspection where
  /-- `Receipt` is not nil. -/
  receipt : Bool
  runtimeDependencies : List ReceiptDependency
deriving DecidableEq

/-- `InspectForCatalog`, from what the verifier finds in the archive: no receipt, or the runtime
dependencies of a receipt that passes `decodeAndValidateReceipt`. -/
def inspectForCatalog (verified : Except String (Option (List ReceiptDependency))) :
    Except String CatalogInspection := do
  match ← verified with
  | none => return { receipt := false, runtimeDependencies := [] }
  | some deps =>
    let dependencies ← normalizeDiscoveredReceiptDependencies deps
    return { receipt := true, runtimeDependencies := dependencies }

/-! ## Conversion and comparison -/

/-- The conversion of one element in `catalogDependencies`. -/
def catalogDependency (value : ReceiptDependency) : Except String BottleRuntimeDependency := do
  let canonical ← parseFormulaID value.fullName
  return {
    id := canonical, homebrewFullName := canonical, version := value.version,
    revision := value.revision, bottleRebuild := value.bottleRebuild,
    pkgVersion := value.pkgVersion, declaredDirectly := value.declaredDirectly }

def catalogDependencies (values : List ReceiptDependency) :
    Except String (List BottleRuntimeDependency) := do
  let result ← values.mapM catalogDependency
  return sortByKey (·.id) result

/-- A dependency of a tab as `catalogBottleTab` hands it to `catalogDependencies`. -/
def tabDependency (value : Resolution.RuntimeDependency) : ReceiptDependency where
  fullName := value.fullName
  version := value.version
  revision := value.revision
  bottleRebuild := value.bottleRebuild
  pkgVersion := value.pkgVersion
  declaredDirectly := value.declaredDirectly

def tabDependencies (tab : Resolution.BottleTab) : List ReceiptDependency :=
  tab.dependencies.map tabDependency

/-- `catalogBottleTab`; beside the tab its slice of dependencies, where `none` is `nil`. -/
def catalogBottleTab (tab : Resolution.BottleTab) :
    Except String (BottleTab × Option (List BottleRuntimeDependency)) := do
  let converted ← catalogDependencies (tabDependencies tab)
  return ({
    homebrewVersion := tab.homebrewVersion
    arch := tab.arch
    compiler := tab.compiler
    changedFiles := tab.changedFiles
    builtOn := {
      os := tab.builtOn.os, osVersion := tab.builtOn.osVersion, cpuFamily := tab.builtOn.cpuFamily,
      oldestCPUFamily := tab.builtOn.oldestCPUFamily, glibcVersion := tab.builtOn.glibcVersion }
    dependencies := converted }, if converted = [] then none else some converted)

/-- What `finishOCI` obtains from the registry, the archive and its other arguments. -/
structure FinishHost where
  /-- The temporary file with the blob of the layer. -/
  fetchBlobTo : Except String Unit
  /-- The verification of the archive that `InspectForCatalog` runs. -/
  verifyWithReceiptValidator : Except String (Option (List ReceiptDependency))
  verifyAnnotatedFormulaSource : CatalogInspection → Except String Unit
  provenanceForOCI : Except String Provenance
  /-- `baseArtifact` with the OCI transport, but for the tab. -/
  baseArtifact : CatalogInspection → Provenance → BottleArtifact

section Finish

variable (library : ArtifactLibrary) (host : FinishHost) (layerSize : Int)
  (tab : Resolution.BottleTab)

def finishOCI : Except String BottleArtifact := do
  if layerSize ≤ 0 ∨ maxBottleBytes < layerSize then
    throw ("OCI bottle layer size " ++ decimalInt layerSize ++ " is outside 1.." ++
      decimalInt maxBottleBytes)
  host.fetchBlobTo
  let inspection ← inspectForCatalog host.verifyWithReceiptValidator
  host.verifyAnnotatedFormulaSource inspection
  let provenance ← host.provenanceForOCI
  let (authenticated, dependencies) ← catalogBottleTab tab
  if inspection.receipt then
    let discovered ← catalogDependencies inspection.runtimeDependencies
    -- `reflect.DeepEqual`
    if some discovered ≠ dependencies then
      throw "bottle receipt runtime dependencies differ from authenticated OCI tab"
  let artifact := { host.baseArtifact inspection provenance with tab := authenticated }
  validateBottleArtifact library artifact
  return artifact

/-- A bottle with a receipt that passes all checks but the comparison. -/
structure PassesOtherChecks (inspection : CatalogInspection) : Prop where
  size : 0 < layerSize ∧ layerSize ≤ maxBottleBytes
  fetched : host.fetchBlobTo = .ok ()
  inspected : inspectForCatalog host.verifyWithReceiptValidator = .ok inspection
  receipt : inspection.receipt = true
  source : host.verifyAnnotatedFormulaSource inspection = .ok ()
  rest : ∃ provenance authenticated, host.provenanceForOCI = .ok provenance ∧
    catalogBottleTab tab = .ok authenticated ∧
    validateBottleArtifact library
      { host.baseArtifact inspection provenance with tab := authenticated.1 } = .ok ()

end Finish

/-- An element of the receipt's list and one of the tab's say the same: the tab's name is a
spelling of the canonical one, and all other fields are equal. -/
structure SameDependency (discovered : ReceiptDependency)
    (listed : Resolution.RuntimeDependency) : Prop where
  formula : parseFormulaID listed.fullName = .ok discovered.fullName
  version : listed.version = discovered.version
  revision : listed.revision = discovered.revision
  bottleRebuild : listed.bottleRebuild = discovered.bottleRebuild
  pkgVersion : listed.pkgVersion = discovered.pkgVersion
  declaredDirectly : listed.declaredDirectly = discovered.declaredDirectly

/-- The lists contain the same elements, in whatever order. -/
def SameDependencies (discovered : List ReceiptDependency)
    (listed : List Resolution.RuntimeDependency) : Prop :=
  (∀ value ∈ discovered, ∃ other ∈ listed, SameDependency value other) ∧
    ∀ other ∈ listed, ∃ value ∈ discovered, SameDependency value other

/-! ## The two lists -/

theorem normal_of_inspectForCatalog
    {verified : Except String (Option (List ReceiptDependency))} {inspection : CatalogInspection}
    (inspected : inspectForCatalog verified = .ok inspection) :
    (∀ value ∈ inspection.runtimeDependencies,
      parseFormulaID value.fullName = .ok value.fullName) ∧
      (inspection.runtimeDependencies.map (·.fullName)).Nodup := by
  simp only [inspectForCatalog, bind_eq_ok] at inspected
  obtain ⟨found, -, inspected⟩ := inspected
  cases found with
  | none =>
    cases inspected
    exact ⟨by simp, by simp⟩
  | some deps =>
    simp only [bind_eq_ok, pure_eq_ok] at inspected
    obtain ⟨dependencies, normalized, rfl⟩ := inspected
    exact normal_of_normalize normalized

variable {library : ArtifactLibrary} {values : List ReceiptDependency}
  {dependencies others : List BottleRuntimeDependency}

theorem mem_catalogDependencies (converted : catalogDependencies values = .ok dependencies)
    {dependency : BottleRuntimeDependency} :
    dependency ∈ dependencies ↔ ∃ value ∈ values, catalogDependency value = .ok dependency := by
  simp only [catalogDependencies, bind_eq_ok, mapM_eq_ok, pure_eq_ok]
    at converted
  obtain ⟨items, each, rfl⟩ := converted
  rw [mem_sortByKey]
  constructor
  · exact exists_left_of_forall₂ each
  · rintro ⟨value, member, converts⟩
    obtain ⟨item, among, also⟩ := exists_right_of_forall₂ each member
    rw [converts] at also
    exact Except.ok.inj also ▸ among

theorem exists_of_catalogDependencies (converted : catalogDependencies values = .ok dependencies)
    {value : ReceiptDependency} (member : value ∈ values) :
    ∃ item, catalogDependency value = .ok item := by
  simp only [catalogDependencies, bind_eq_ok, mapM_eq_ok] at converted
  obtain ⟨items, each, -⟩ := converted
  obtain ⟨item, -, converts⟩ := exists_right_of_forall₂ each member
  exact ⟨item, converts⟩

/-- Canonical names are converted without an error, each to its own ID. -/
theorem discovered_distinct
    (canonical : ∀ value ∈ values, parseFormulaID value.fullName = .ok value.fullName)
    (distinct : (values.map (·.fullName)).Nodup) :
    ∃ discovered, catalogDependencies values = .ok discovered ∧
      (discovered.map (·.id)).Nodup := by
  have each : ∀ value ∈ values, ∀ other, value = other →
      ∃ item, catalogDependency other = .ok item ∧ value.fullName = item.id := by
    rintro value member _ rfl
    simp [catalogDependency, canonical value member, pure, Except.pure, bind, Except.bind]
  obtain ⟨items, converted, ids⟩ := exists_forall₂_of_forall₂ (List.forall₂_refl _) each
  refine ⟨sortByKey (·.id) items, ?_, ?_⟩
  · simp only [catalogDependencies, mapM_eq_ok.mpr converted]
    rfl
  · rw [((sortByKey_perm _ items).map _).nodup_iff,
      ← map_eq_map_of_forall₂ ids fun _ _ same => same]
    exact distinct

/-- A canonical element and an element of a tab are converted alike if they say the same. -/
theorem catalogDependency_eq_iff {value : ReceiptDependency}
    {listed : Resolution.RuntimeDependency} {item other : BottleRuntimeDependency}
    (canonical : parseFormulaID value.fullName = .ok value.fullName)
    (one : catalogDependency value = .ok item)
    (two : catalogDependency (tabDependency listed) = .ok other) :
    item = other ↔ SameDependency value listed := by
  simp only [catalogDependency, tabDependency, canonical, bind_eq_ok, pure_eq_ok,
    Except.ok.injEq, exists_eq_left'] at one two
  obtain ⟨id, parsed, rfl⟩ := two
  subst one
  constructor
  · intro same
    simp only [BottleRuntimeDependency.mk.injEq] at same
    obtain ⟨rfl, -, version, revision, rebuild, pkgVersion, directly⟩ := same
    exact ⟨parsed, version.symm, revision.symm, rebuild.symm, pkgVersion.symm, directly.symm⟩
  · rintro ⟨formula, version, revision, rebuild, pkgVersion, directly⟩
    obtain rfl := Except.ok.inj (formula.symm.trans parsed)
    rw [version, revision, rebuild, pkgVersion, directly]

/-- The lists contain the same elements exactly when their conversions do. -/
theorem sameDependencies_iff {tab : Resolution.BottleTab}
    (canonical : ∀ value ∈ values, parseFormulaID value.fullName = .ok value.fullName)
    (found : catalogDependencies values = .ok dependencies)
    (read : catalogDependencies (tabDependencies tab) = .ok others) :
    SameDependencies values tab.dependencies ↔ ∀ item, item ∈ dependencies ↔ item ∈ others := by
  have converted : ∀ value ∈ values, ∃ item, catalogDependency value = .ok item :=
    fun value member => exists_of_catalogDependencies found member
  have listed : ∀ other ∈ tab.dependencies,
      ∃ item, catalogDependency (tabDependency other) = .ok item :=
    fun other member => exists_of_catalogDependencies read (List.mem_map_of_mem member)
  simp only [mem_catalogDependencies found, mem_catalogDependencies read, tabDependencies,
    List.mem_map, exists_exists_and_eq_and]
  constructor
  · rintro ⟨forth, back⟩ item
    constructor
    · rintro ⟨value, member, one⟩
      obtain ⟨other, among, same⟩ := forth value member
      obtain ⟨result, two⟩ := listed other among
      rw [(catalogDependency_eq_iff (canonical value member) one two).mpr same]
      exact ⟨other, among, two⟩
    · rintro ⟨other, among, two⟩
      obtain ⟨value, member, same⟩ := back other among
      obtain ⟨result, one⟩ := converted value member
      rw [← (catalogDependency_eq_iff (canonical value member) one two).mpr same]
      exact ⟨value, member, one⟩
  · intro same
    constructor
    · intro value member
      obtain ⟨item, one⟩ := converted value member
      obtain ⟨other, among, two⟩ := (same item).mp ⟨value, member, one⟩
      exact ⟨other, among, (catalogDependency_eq_iff (canonical value member) one two).mp rfl⟩
    · intro other among
      obtain ⟨item, two⟩ := listed other among
      obtain ⟨value, member, one⟩ := (same item).mpr ⟨other, among, two⟩
      exact ⟨value, member, (catalogDependency_eq_iff (canonical value member) one two).mp rfl⟩

theorem sorted_of_catalogDependencies (converted : catalogDependencies values = .ok dependencies) :
    sortByKey (·.id) dependencies = dependencies := by
  simp only [catalogDependencies, bind_eq_ok, pure_eq_ok] at converted
  obtain ⟨items, -, rfl⟩ := converted
  exact sortByKey_sortByKey _ items

theorem catalogDependencies_eq_nil (converted : catalogDependencies values = .ok dependencies) :
    values = [] ↔ dependencies = [] := by
  simp only [catalogDependencies, bind_eq_ok, mapM_eq_ok, pure_eq_ok]
    at converted
  obtain ⟨items, each, rfl⟩ := converted
  rw [← List.length_eq_zero_iff, each.length_eq, ← (sortByKey_perm (·.id) items).length_eq,
    List.length_eq_zero_iff]

/-- Sorted lists with the same elements, one for each ID, are the same. -/
theorem eq_of_same_members (sorted : sortByKey (·.id) dependencies = dependencies)
    (also : sortByKey (·.id) others = others) (distinct : (dependencies.map (·.id)).Nodup)
    (apart : (others.map (·.id)).Nodup) (same : ∀ item, item ∈ dependencies ↔ item ∈ others) :
    dependencies = others := by
  rw [← sorted, ← also]
  exact sortByKey_eq_of_perm
    ((List.perm_ext_iff_of_nodup distinct.of_map apart.of_map).mpr same)
    fun left one right other => List.inj_on_of_nodup_map distinct one other

/-- The tab of a valid artifact has one dependency for each ID. -/
theorem distinct_of_validate {artifact : BottleArtifact}
    (valid : validateBottleArtifact library artifact = .ok ()) :
    (artifact.tab.dependencies.map (·.id)).Nodup := by
  simp only [validateBottleArtifact, validateBottleTab, joinErrors_eq_ok, List.append_eq_nil_iff,
    nested_eq_nil, List.flatMap_eq_nil_iff, finding_eq_nil] at valid
  obtain ⟨⟨⟨⟨⟨⟨⟨checks, -⟩, -⟩, -⟩, -⟩, -⟩, -⟩, -⟩ := valid
  obtain ⟨⟨⟨⟨⟨⟨⟨-, tab⟩, -⟩, -⟩, -⟩, -⟩, -⟩, -⟩ := checks
  exact forall_zipIdx_fresh.mp fun entry member => (tab.1.2 entry member).2

/--
A bottle that passes all other checks is accepted exactly when its receipt and its
tab name the same dependencies, unless both name none: then it is rejected.
-/
theorem finishOCI_compares (library : ArtifactLibrary) (host : FinishHost) (layerSize : Int)
    (tab : Resolution.BottleTab) (inspection : CatalogInspection)
    (passes : PassesOtherChecks library host layerSize tab inspection) :
    ((finishOCI library host layerSize tab).toBool ↔
        SameDependencies inspection.runtimeDependencies tab.dependencies) ↔
      ¬ (inspection.runtimeDependencies = [] ∧ tab.dependencies = []) := by
  obtain ⟨⟨positive, bounded⟩, fetched, inspected, receipt, source, provenance, authenticated,
    proved, converted, valid⟩ := passes
  obtain ⟨canonical, single⟩ := normal_of_inspectForCatalog inspected
  obtain ⟨discovered, found, distinct⟩ := discovered_distinct canonical single
  have result : (finishOCI library host layerSize tab).toBool =
      decide (some discovered = authenticated.2) := by
    have within : ¬ (layerSize ≤ 0 ∨ maxBottleBytes < layerSize) := by omega
    simp only [finishOCI, within, if_false, fetched, inspected, source, proved, converted, receipt,
      if_true, found, valid, bind, Except.bind, pure, Except.pure]
    by_cases same : some discovered = authenticated.2
    · simp [same, Except.toBool]
    · simp [same, Except.toBool, throw, throwThe, MonadExceptOf.throw]
  simp only [catalogBottleTab, bind_eq_ok, pure_eq_ok] at converted
  obtain ⟨dependencies, read, rfl⟩ := converted
  have apart : (dependencies.map (·.id)).Nodup := distinct_of_validate valid
  have same : SameDependencies inspection.runtimeDependencies tab.dependencies ↔
      discovered = dependencies := by
    rw [sameDependencies_iff canonical found read]
    refine ⟨eq_of_same_members (sorted_of_catalogDependencies found)
      (sorted_of_catalogDependencies read) distinct apart, ?_⟩
    rintro rfl item
    exact Iff.rfl
  have none : tab.dependencies = [] ↔ dependencies = [] := by
    rw [← catalogDependencies_eq_nil read, tabDependencies, List.map_eq_nil_iff]
  rw [result, same, catalogDependencies_eq_nil found, none, decide_eq_true_iff]
  by_cases empty : dependencies = []
  · simp [empty]
  · simp [empty]

namespace Sample

def descriptor : Descriptor where
  digest := digest
  size := 1
  mediaType := "application/vnd.oci.image.layer.v1.tar+gzip"

def ociArtifact : BottleArtifact :=
  { artifact "acme/tools/tool" "tool.tar.gz" with
    tab := { arch := "x86_64" }
    bottleSourceRepository := "https://github.com/acme/homebrew-tools"
    bottleSourceCommit := commit
    bottleFormulaPath := "Formula/tool.rb"
    bottleSourceWaiver := ""
    transport := { oci := some {
      registry := "ghcr.io", repository := "acme/tools/tool", index := descriptor,
      manifest := { descriptor with platform := some amd64 }, config := descriptor,
      layer := descriptor } } }

/-- A bottle of a tap whose receipt has the given runtime dependencies. -/
def finishHost (deps : List ReceiptDependency) : FinishHost where
  fetchBlobTo := .ok ()
  verifyWithReceiptValidator := .ok (some deps)
  verifyAnnotatedFormulaSource _ := .ok ()
  provenanceForOCI := .ok ociArtifact.provenance
  baseArtifact _ provenance := { ociArtifact with provenance }

def ociLibrary : ArtifactLibrary :=
  { Resolution.Sample.artifactLibrary with
    repositoryPath := fun raw => some (trimPrefix raw "example.invalid/") }

def zlib : ReceiptDependency := ⟨"zlib", "1.3", 0, 0, "1.3", true⟩

def xz : ReceiptDependency := ⟨"homebrew/core/xz", "5.8", 1, 0, "5.8_1", false⟩

/-- The dependency as a tab lists it. -/
def listed : ReceiptDependency → Resolution.RuntimeDependency
  | ⟨fullName, version, revision, bottleRebuild, pkgVersion, declaredDirectly⟩ =>
    { fullName, version, revision, bottleRebuild, pkgVersion, declaredDirectly }

/-- The authenticated tab with these dependencies. -/
def tabOf (deps : List ReceiptDependency) : Resolution.BottleTab where
  arch := "x86_64"
  dependencies := deps.map listed

/-- The artifact stays valid with another tab that is valid and has a receipt. -/
theorem valid_with_tab {tab : BottleTab} (receipt : tab.receiptless = false)
    (valid : validateBottleTab tab amd64 ociArtifact.tag = .ok ()) :
    validateBottleArtifact ociLibrary { ociArtifact with tab } = .ok () := by
  have whole : validateBottleArtifact ociLibrary ociArtifact = .ok () := by decide +kernel
  simp only [validateBottleArtifact, joinErrors_eq_ok, List.append_eq_nil_iff, and_assoc]
    at whole ⊢
  obtain ⟨id, platform, tag, -, file, digest, size, cellar, current, bottle, source, paths,
    transport, -, others⟩ := whole
  refine ⟨id, platform, tag, ?_, file, digest, size, cellar, current, bottle, source, paths,
    transport, ?_, others⟩
  · exact nested_eq_nil.mpr valid
  · rw [receipt]
    rfl

/-- The sample host leaves only the comparison to be decided. -/
theorem passes {deps listed : List ReceiptDependency} {inspection : CatalogInspection}
    {authenticated : BottleTab × Option (List BottleRuntimeDependency)}
    (inspected : inspectForCatalog (.ok (some deps)) = .ok inspection)
    (receipt : inspection.receipt = true)
    (converted : catalogBottleTab (tabOf listed) = .ok authenticated)
    (tab : authenticated.1.receiptless = false)
    (valid : validateBottleTab authenticated.1 amd64 ociArtifact.tag = .ok ()) :
    PassesOtherChecks ociLibrary (finishHost deps) 1 (tabOf listed) inspection :=
  ⟨by decide, rfl, inspected, receipt, rfl, _, _, rfl, converted, valid_with_tab tab valid⟩

end Sample

/-- A receipt and a tab with the same two dependencies, in another order and with another
spelling, are accepted; a receipt with a dependency that the tab does not have is not. -/
theorem finishOCI_compares_listed :
    (finishOCI Sample.ociLibrary (Sample.finishHost [Sample.zlib, Sample.xz]) 1
        (Sample.tabOf [Sample.zlib, Sample.xz])).toBool = true ∧
      (finishOCI Sample.ociLibrary (Sample.finishHost [Sample.zlib, Sample.xz]) 1
        (Sample.tabOf [Sample.xz])).toBool = false := by
  let discovered := [Sample.xz, { Sample.zlib with fullName := "homebrew/core/zlib" }]
  have inspected : inspectForCatalog (.ok (some [Sample.zlib, Sample.xz])) =
      .ok ⟨true, discovered⟩ := by decide
  have xz : SameDependency Sample.xz (Sample.listed Sample.xz) :=
    ⟨by decide, rfl, rfl, rfl, rfl, rfl⟩
  have zlib : SameDependency { Sample.zlib with fullName := "homebrew/core/zlib" }
      (Sample.listed Sample.zlib) :=
    ⟨by decide, rfl, rfl, rfl, rfl, rfl⟩
  have both := finishOCI_compares _ _ _ _ _
    (@Sample.passes _ [Sample.zlib, Sample.xz] _ _ inspected rfl rfl rfl (by decide))
  have one := finishOCI_compares _ _ _ _ _
    (@Sample.passes _ [Sample.xz] _ _ inspected rfl rfl rfl (by decide))
  constructor
  · refine (both.mpr fun empty => by cases empty.1).mpr ⟨?_, ?_⟩
    · simpa [discovered, Sample.tabOf] using ⟨.inr xz, .inl zlib⟩
    · simpa [discovered, Sample.tabOf] using ⟨.inr zlib, .inl xz⟩
  · refine Bool.eq_false_iff.mpr fun accepted => ?_
    obtain ⟨forth, -⟩ := (one.mpr fun empty => by cases empty.1).mp accepted
    obtain ⟨other, member, same⟩ := forth { Sample.zlib with fullName := "homebrew/core/zlib" }
      (by simp [discovered])
    rw [List.mem_singleton.mp member] at same
    exact absurd same.version (by decide)

/-- Neither the receipt nor the tab has a dependency, and the bottle is rejected. -/
theorem finishOCI_rejects_empty :
    ∃ inspection : CatalogInspection,
      PassesOtherChecks Sample.ociLibrary (Sample.finishHost []) 1 (Sample.tabOf []) inspection ∧
      SameDependencies inspection.runtimeDependencies (Sample.tabOf []).dependencies ∧
      (finishOCI Sample.ociLibrary (Sample.finishHost []) 1 (Sample.tabOf [])).toBool = false :=
  ⟨⟨true, []⟩, Sample.passes rfl rfl rfl rfl (by decide), ⟨by simp, by simp [Sample.tabOf]⟩,
    by decide⟩

end DalecHomebrew.CatalogGenerator
