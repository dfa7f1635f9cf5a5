import DalecHomebrew.CatalogResolver.Construction
import DalecHomebrew.CatalogResolver.Run

/-!
# Where prebuilt archives are used

A node of a tap is backed by a native bottle, or by an archive that the release
policy authorizes for exactly this Formula and only as a requested root.  The
requested-root flag is fixed before the worklist starts, and nodes enter the
closure through mappings and dependencies in any order; the guarantee is read
off the expansion of each node.
-/

namespace DalecHomebrew.CatalogResolver

open Catalog Foundation Homebrew Policy

/-- A Formula of one of the catalogs that a resolver was constructed from. -/
def Signed (catalogs : List (TapID × Option TapCatalog)) (formula : Catalog.Formula) : Prop :=
  ∃ tap document, (tap, some document) ∈ catalogs ∧ formula ∈ document.formulae

/-- A Formula without dependencies on any platform. -/
def Standalone (formula : Catalog.Formula) : Prop :=
  formula.dependencies = [] ∧ ∀ variation ∈ formula.variations, variation.dependencies = []

/-- The release policy has an entry for a Formula that agrees with what the tap signs. -/
structure Authorized (policy : TapPolicy) (platform : Platform)
    (formula : Catalog.Formula) : Prop where
  entry : ∃ archive ∈ policy.prebuiltArchives, archive.formulaID = formula.id ∧
    archive.version = formula.stableVersion ∧
    archive.formulaSourceDigest = formula.sourceDigest ∧
    archive.license = formula.license ∧
    ∃ declaration, formula.prebuiltArchive = some declaration ∧
      ∃ file ∈ declaration.files, file.tag = bottleTag platform ∧ ∃ target ∈ archive.platforms,
          target.platform = platform.os ++ "/" ++ platform.architecture ∧
          target.url = file.url ∧ target.sha256 = file.sha256
  standalone : Standalone formula

/-- How a node that is not a core Formula may be installed. -/
def Installable (policy : TapPolicy) (platform : Platform) (requested : List FormulaID)
    (formula : Catalog.Formula) : Prop :=
  (∃ bottle, formula.bottle = some bottle ∧
      ∃ file ∈ bottle.files, file.tag = bottleTag platform ∨ file.tag = "all") ∨
    (formula.id ∈ requested ∧ Authorized policy platform formula)

section Model

variable {resolver : Resolver} {platform : Platform}

/-! ## Construction -/

/-- A resolver knows a Formula under its own identity and only from its catalogs. -/
structure Resolver.KnowsOnly (policy : TapPolicy) (catalogs : List (TapID × Option TapCatalog))
    (resolver : Resolver) : Prop where
  policy : resolver.policy = policy
  formulae : ∀ id formula, resolver.formulae.lookup id = some formula →
    formula.id = id ∧ Signed catalogs formula

theorem knowsOnly_of_new {validateTapCatalog : TapCatalog → Except String Unit}
    {policy : TapPolicy} {core : Option CoreCatalog} {catalogs : List (TapID × Option TapCatalog)}
    (made : new validateTapCatalog policy core catalogs = .ok resolver) :
    resolver.KnowsOnly policy catalogs := by
  obtain ⟨known, _, built⟩ := built_of_new made
  refine ⟨built.policy, ?_⟩
  intro id formula found
  obtain ⟨tap, document, entry, member, same⟩ := (built.formulae id formula).mp found
  exact ⟨same, tap, document, entry, member⟩

/-! ## Authorization -/

variable {formula : Catalog.Formula}

theorem standalone_of_formulaHasDependencies
    (none : formulaHasDependencies formula = false) : Standalone formula := by
  simp only [formulaHasDependencies, Bool.or_eq_false_iff, bne_eq_false_iff_eq,
    List.any_eq_false] at none
  exact ⟨none.1, fun variation member => by simpa using none.2 variation member⟩

variable {root : Bool}

theorem authorized_of_ok
    (result : resolver.authorizePrebuiltArchive formula platform (bottleTag platform) root =
      .ok ()) :
    root = true ∧ Authorized resolver.policy platform formula := by
  unfold Resolver.authorizePrebuiltArchive at result
  split at result
  · cases result
  rename_i declaration declared
  split at result
  · cases result
  rename_i archive found
  have listed := List.mem_of_find?_eq_some found
  simp only [throw_bind, ite_error_eq_ok, not_not] at result
  obtain ⟨sameID, _, isRoot, version, digest, license, _, _, _, independent, result⟩ := result
  split at result
  · cases result
  rename_i target targetFound
  split at result
  · cases result
  rename_i file fileFound
  simp only [ite_error_eq_ok, not_not] at result
  obtain ⟨url, sha256, _⟩ := result
  have tag : file.tag = bottleTag platform := by simpa using List.find?_some fileFound
  have platformName : target.platform = platform.os ++ "/" ++ platform.architecture := by
    simpa using List.find?_some targetFound
  refine ⟨by simpa using isRoot, ⟨archive, listed, sameID, version.symm, digest.symm,
    license.symm, declaration, declared, file, List.mem_of_find?_eq_some fileFound, tag,
    target, List.mem_of_find?_eq_some targetFound, platformName, url.symm, sha256.symm⟩,
    standalone_of_formulaHasDependencies (by simpa using independent)⟩

/-! ## Nodes of taps -/

/-- A canonical identity outside core belongs to a Formula of a tap catalog. -/
theorem external_of_canonical {id : FormulaID} {source : FormulaSource}
    (canonical : Canonical resolver id source) (outside : FormulaID.isCore id = false) :
    ∃ formula, source = .external formula id ∧ resolver.formulae.lookup id = some formula := by
  rcases lookupExact_cases canonical with ⟨_, _, _, core | ⟨_, core⟩⟩ | ⟨formula, _, rfl, found⟩
  · exact absurd (core.symm.trans outside) (by decide)
  · exact absurd (core.symm.trans outside) (by decide)
  · exact ⟨formula, rfl, found⟩

theorem externalRebuild_installable {rebuild : Int}
    (result : resolver.externalRebuild formula platform (bottleTag platform) root = .ok rebuild) :
    hasNativeBottleForTag formula.bottle (bottleTag platform) = true ∨
      (root = true ∧ Authorized resolver.policy platform formula) := by
  unfold Resolver.externalRebuild at result
  split at result
  · rename_i native
    exact .inl native
  · split at result
    · rename_i authorized
      exact .inr (authorized_of_ok authorized)
    · split at result <;> cases result

/-- The record of every node outside core is installable. -/
theorem Expansion.Valid.installable {id : FormulaID} {expansion : Expansion}
    (valid : expansion.Valid resolver platform root id)
    (source : expansion.source = .external formula id) :
    hasNativeBottleForTag formula.bottle (bottleTag platform) = true ∨
      (root = true ∧ Authorized resolver.policy platform formula) := by
  have declared := valid.declared
  rw [source] at declared
  simp only [Resolver.nodeAndDependencies, Resolver.externalNode, throw_bind, ite_error_eq_ok,
    bind_eq_ok] at declared
  obtain ⟨_, rebuild, available, _⟩ := declared
  exact externalRebuild_installable available

/--
Whatever the release policy, the core catalog, the tap catalogs and the roots
are: a node of a resolved closure that is not a core Formula has a native
bottle, or it is a requested root that the release policy authorizes and that
depends on nothing.
-/
theorem prebuilt_confined (validateTapCatalog : TapCatalog → Except String Unit)
    (policy : TapPolicy) (core : Option CoreCatalog) (catalogs : List (TapID × Option TapCatalog))
    (resolver : Resolver) (roots : List FormulaID) (platform : Platform) (closure : ClosureResult)
    (made : new validateTapCatalog policy core catalogs = .ok resolver)
    (result : resolver.resolve roots platform = .ok closure) :
    ∀ node ∈ closure.nodes, FormulaID.isCore node.id = false →
      ∃ formula, Signed catalogs formula ∧ formula.id = node.id ∧
        Installable policy platform closure.requested formula := by
  intro node member outside
  have known := knowsOnly_of_new made
  obtain ⟨expansion, valid, _⟩ := (resolved_of_resolve result).expanded node member
  obtain ⟨formula, source, found⟩ := external_of_canonical valid.canonical outside
  obtain ⟨identity, signed⟩ := known.formulae node.id formula found
  refine ⟨formula, signed, identity, ?_⟩
  rcases valid.installable source with native | ⟨isRoot, authorized⟩
  · simp only [hasNativeBottleForTag, hasBottleTag, Option.any_eq_true, Bool.or_eq_true,
      List.any_eq_true, beq_iff_eq] at native
    obtain ⟨bottle, declared, ⟨file, member, tag⟩ | ⟨file, member, tag⟩⟩ := native
    · exact .inl ⟨bottle, declared, file, member, .inl tag⟩
    · exact .inl ⟨bottle, declared, file, member, .inr tag⟩
  · refine .inr ⟨?_, known.policy ▸ authorized⟩
    rw [identity]
    simpa using isRoot

end Model

/-! ## The archive of the embedded policy -/

namespace Sample

def archiveURL : String :=
  "https://github.com/sozercan/a365cli/releases/download/v0.3.3/a365_0.3.3_linux_amd64.tar.gz"

def digest : String := "sha256:71461c31e350cabf4e718a5e1331b39a395a6dc9183bb3ea5922f0fac67404ce"

/-- The Formula that the embedded policy authorizes, as a tap signs it. -/
def a365 : Catalog.Formula where
  id := "sozercan/repo/a365"
  name := "a365"
  homebrewFullName := "sozercan/repo/a365"
  sourcePath := "a365.rb"
  sourceDigest := "sha256:d6c00086e77905de6f2c93c59ff2b560101925dc77a1f3094468fd154a89e997"
  stableVersion := "0.3.3"
  revision := 0
  versionScheme := 0
  license := "MIT"
  prebuiltArchive := some {
    files := [{ tag := "x86_64_linux", url := archiveURL, sha256 := digest, format := "tar+gzip" }] }

/-- A Formula with a native bottle that depends on the prebuilt one. -/
def suite : Catalog.Formula where
  id := "sozercan/repo/suite"
  name := "suite"
  homebrewFullName := "sozercan/repo/suite"
  sourcePath := "suite.rb"
  sourceDigest := digest
  stableVersion := "1.0"
  revision := 0
  versionScheme := 0
  dependencies := [{ raw := "a365", id := "sozercan/repo/a365" }]
  bottle := some {
    rootURL := "https://ghcr.io"
    rebuild := 0
    files := [{ tag := "x86_64_linux", url := "https://ghcr.io", sha256 := digest, cellar := "any" }] }

def repo : TapCatalog where
  schemaVersion := tapCatalogSchemaVersion
  tap := {
    id := "sozercan/repo", repository := "https://github.com/sozercan/homebrew-repo",
    commit := "71461c31e350cabf4e718a5e1331b39a395a6dc9", treeDigest := digest,
    archiveDigest := digest }
  publishedAt := 1
  sequence := 1
  formulae := [a365, suite]

/-- `url.Parse` on the URLs of this catalog. -/
def net : NetLibrary where
  parseURL := fun value =>
    if value = archiveURL then
      .ok {
        scheme := "https", host := "github.com", hostname := "github.com",
        path := "/sozercan/a365cli/releases/download/v0.3.3/a365_0.3.3_linux_amd64.tar.gz",
        escapedPath := "/sozercan/a365cli/releases/download/v0.3.3/a365_0.3.3_linux_amd64.tar.gz" }
    else .ok { scheme := "https", host := "ghcr.io", hostname := "ghcr.io" }
  isIP := fun _ => false

theorem repo_valid : validateTapCatalog net repo = .ok () := by
  decide +kernel

def repoResolver : Resolver where
  core := ⟨coreCatalog.lookup⟩
  catalogs := (∅ : Table TapID TapCatalog).insert "sozercan/repo" repo
  formulae := ((∅ : Table FormulaID Catalog.Formula).insert "sozercan/repo/a365" a365).insert
    "sozercan/repo/suite" suite
  mappings := ∅
  policy := embeddedTapPolicy

theorem repo_new :
    new (validateTapCatalog net) embeddedTapPolicy (some ⟨coreCatalog.lookup⟩)
      [("sozercan/repo", some repo)] = .ok repoResolver := by
  have added : Resolver.addCatalog (validateTapCatalog net)
      { core := ⟨coreCatalog.lookup⟩, catalogs := ∅, formulae := ∅, mappings := ∅
        policy := embeddedTapPolicy }
      ("sozercan/repo", some repo) = .ok repoResolver :=
    addCatalog_eq_ok.mpr ⟨by decide, repo, repoResolver, rfl, repo_valid, rfl, rfl, rfl⟩
  exact foldlM_cons_eq_ok.mpr ⟨repoResolver, added, rfl⟩

def suiteClosure : ClosureResult where
  requested := ["sozercan/repo/suite", "sozercan/repo/a365"]
  requestedMappings := some [
    { requested := "sozercan/repo/suite", resolved := "sozercan/repo/suite" },
    { requested := "sozercan/repo/a365", resolved := "sozercan/repo/a365" }]
  normalizationTaps := some ["sozercan/repo"]
  nodes := [
    { id := "sozercan/repo/a365"
      tap := "sozercan/repo"
      name := "a365"
      homebrewFullName := "sozercan/repo/a365"
      formulaVersion := "0.3.3"
      formulaRevision := 0
      pkgVersion := "0.3.3"
      versionScheme := 0
      bottleRebuild := 0
      license := "MIT" },
    { id := "sozercan/repo/suite"
      tap := "sozercan/repo"
      name := "suite"
      homebrewFullName := "sozercan/repo/suite"
      formulaVersion := "1.0"
      formulaRevision := 0
      pkgVersion := "1.0"
      versionScheme := 0
      bottleRebuild := 0
      dependencies := [{ raw := "a365", id := "sozercan/repo/a365", declaredDirectly := true }] }]
  installOrder := ["sozercan/repo/a365", "sozercan/repo/suite"]

theorem resolve_suite :
    repoResolver.resolve ["sozercan/repo/suite", "sozercan/repo/a365"] amd64 =
      .ok suiteClosure := by
  decide +kernel

end Sample

theorem prebuilt_confined_suite :
    ∃ formula, Signed [("sozercan/repo", some Sample.repo)] formula ∧
      formula.id = "sozercan/repo/a365" ∧
      Installable embeddedTapPolicy Sample.amd64 Sample.suiteClosure.requested formula :=
  prebuilt_confined (validateTapCatalog Sample.net) embeddedTapPolicy
    (some ⟨Sample.coreCatalog.lookup⟩) [("sozercan/repo", some Sample.repo)] Sample.repoResolver
    ["sozercan/repo/suite", "sozercan/repo/a365"] Sample.amd64 Sample.suiteClosure
    Sample.repo_new Sample.resolve_suite _ List.mem_cons_self (by decide +kernel)

end DalecHomebrew.CatalogResolver
