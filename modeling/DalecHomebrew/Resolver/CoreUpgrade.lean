import DalecHomebrew.Homebrew.Metadata
import DalecHomebrew.Resolution.Projection

/-!
# Core resolutions as V2 records

`RecordV2FromCore` of `internal/resolver/v2.go` upgrades a verified V1 core
resolution: every name is read as an identity of `homebrew/core`, and the bottle
evidence is left to the prepare phase.  The projection of the result gives the
names, versions, edges, descriptors and install order of the V1 record back.
-/

namespace DalecHomebrew.Resolver

open Catalog (parseFormulaID)
open Foundation Foundation.GoString Homebrew Resolution

/-! ## The upgrade -/

def upgradeRequirement (requirement : Requirement) : Except String RequirementV2 := do
  let id ← parseFormulaID requirement.name
  return {
    id, minimum := requirement.minimum, revision := requirement.revision,
    bottleRebuild := requirement.bottleRebuild, direct := requirement.direct }

def upgradeTabDependency (dependency : RuntimeDependency) : Except String RuntimeDependencyV2 := do
  let id ← parseFormulaID dependency.fullName
  return {
    id, homebrewFullName := id, version := dependency.version, revision := dependency.revision,
    bottleRebuild := dependency.bottleRebuild, pkgVersion := dependency.pkgVersion,
    declaredDirectly := dependency.declaredDirectly }

def upgradeUpstream (raw : String) : Except String FormulaID :=
  if raw = "" then .ok "" else parseFormulaID raw

/-- The bottle with its evidence deferred; `formulaDigest` is the one of the snapshot. -/
def upgradeBottle (formulaDigest : String) (bottle : Bottle)
    (dependencies : List RuntimeDependencyV2) :
    BottleV2 where
  tag := bottle.tag
  filename := bottle.filename
  size := bottle.layer.size
  sha256 := bottle.layer.digest
  cellar := bottle.cellar
  currentFormulaSourceDigest := formulaDigest
  verification := { policyVersion := coreBottleVerificationDeferredV1 }
  tab := {
    homebrewVersion := bottle.tab.homebrewVersion
    arch := bottle.tab.arch
    compiler := bottle.tab.compiler
    changedFiles := bottle.tab.changedFiles
    builtOn := bottle.tab.builtOn
    dependencies }
  selectedAnnotations := bottle.selectedAnnotations
  transport := {
    oci := some {
      registry := "ghcr.io", repository := trimPrefix bottle.repository "ghcr.io/",
      index := bottle.index, manifest := bottle.manifest, config := bottle.config,
      layer := bottle.layer } }

def upgradeNode (formulaDigest : String) (node : Node) : Except String NodeV2 := do
  let id ← parseFormulaID node.name
  let dependencies ← node.dependencies.mapM upgradeRequirement
  let tabDependencies ← node.bottle.tab.dependencies.mapM upgradeTabDependency
  let upstream ← upgradeUpstream node.upstreamFormulaID
  return {
    id, tap := "homebrew/core", name := node.name, homebrewFullName := id,
    formulaVersion := node.formulaVersion, formulaRevision := node.formulaRevision,
    pkgVersion := node.pkgVersion, versionScheme := node.versionScheme,
    bottleRebuild := node.bottleRebuild, license := node.license, kegOnly := node.kegOnly,
    dependencies, bottle := upgradeBottle formulaDigest node.bottle tabDependencies,
    provenance := { waiver := some { policy := coreProvenanceWaiverPolicyV1 } },
    executablePaths := node.executablePaths, upstreamFormulaID := upstream }

def upgradeRoot (root : RequestedRoot) : Except String RequestedRootV2 := do
  let id ← parseFormulaID root.canonical
  return { requested := root.requested, id, kegOnly := root.kegOnly }

/--
Whether the time of a snapshot is authenticated: a document with a transport time
decides, and an unknown marker leaves the answer open.
-/
def coreGeneratedAtSource (info : Metadata.SnapshotInfo) : String :=
  if info.formula.generatedAtSource = coreGeneratedAtLastModified then coreGeneratedAtLastModified
  else if info.formula.generatedAtSource ≠ coreGeneratedAtSignedPayload then ""
  else if info.migrations.generatedAtSource = coreGeneratedAtLastModified then
    coreGeneratedAtLastModified
  else if info.migrations.generatedAtSource ≠ coreGeneratedAtSignedPayload then ""
  else coreGeneratedAtSignedPayload

/-- The first verified signature of the Formula document, or the zero value. -/
def coreSignature (info : Metadata.SnapshotInfo) : Signature :=
  match info.formula.signatures.find? Metadata.SignatureInfo.verified with
  | some signature =>
    { keyID := signature.keyID, algorithm := signature.algorithm, verified := true }
  | none => {}

/-- The metadata source of `homebrew/core`. -/
def coreSource (homebrewCommit : String) (info : Metadata.SnapshotInfo) (rollbackFloor : Nat) :
    MetadataSource where
  tap := "homebrew/core"
  commit := homebrewCommit
  signer := coreSignature info
  documents := [
    { name := "formula"
      digest := info.formulaDigest
      envelopeDigest := info.formula.envelopeDigest },
    { name := "migrations"
      digest := info.migrationDigest
      envelopeDigest := info.migrations.envelopeDigest }]
  generatedAt := info.generatedAt
  generatedAtSource := coreGeneratedAtSource info
  fetchedAt := info.fetchedAt
  sequence := unsigned (unix info.generatedAt)
  rollback := {
    policy := coreMetadataRollbackPolicyV1, sequenceFloor := rollbackFloor,
    stateDigest := info.digest }

/-- The record from its upgraded parts. -/
def upgradedRecord (core : Record) (components : ComponentsV2) (info : Metadata.SnapshotInfo)
    (rollbackFloor : Nat) (nodes : List NodeV2) (requested : List RequestedRootV2)
    (order : List FormulaID) :
    RecordV2 where
  schemaVersion := schemaVersionV2
  policyVersion := policyVersionV2
  input := core.input
  metadataSources := [coreSource components.homebrewCommit info rollbackFloor]
  resolvedAt := core.resolvedAt
  sourceDateEpoch := core.sourceDateEpoch
  requested := requested
  nodes := nodes
  installOrder := order
  components := components
  runtime := core.runtime

/-- `RecordV2FromCore`. -/
def recordV2FromCore (libraries : Libraries) (core : Record) (components : ComponentsV2)
    (info : Metadata.SnapshotInfo) (rollbackFloor : Nat) :
    Except String RecordV2 := do
  validate libraries core
  let nodes ← core.nodes.mapM (upgradeNode info.formulaDigest)
  let requested ← core.requested.mapM upgradeRoot
  let order ← core.installOrder.mapM parseFormulaID
  if (coreSignature info).keyID = "" then throw "core metadata signer is missing"
  let record := upgradedRecord core components info rollbackFloor nodes requested order
  validateV2 libraries record
  return record

/-! ## What the parts are -/

variable {requirement : Requirement}

theorem upgradeRequirement_eq_ok {upgraded : RequirementV2} :
    upgradeRequirement requirement = .ok upgraded ↔
      parseFormulaID requirement.name = .ok upgraded.id ∧
        upgraded.minimum = requirement.minimum ∧ upgraded.revision = requirement.revision ∧
        upgraded.bottleRebuild = requirement.bottleRebuild ∧
        upgraded.direct = requirement.direct := by
  simp only [upgradeRequirement, bind_eq_ok, pure_eq_ok]
  constructor
  · rintro ⟨id, parsed, rfl⟩
    exact ⟨parsed, rfl, rfl, rfl, rfl⟩
  · rintro ⟨parsed, minimum, revision, rebuild, direct⟩
    refine ⟨upgraded.id, parsed, ?_⟩
    rw [← minimum, ← revision, ← rebuild, ← direct]

variable {node : Node}

theorem upgradeNode_eq_ok {formulaDigest : String} {upgraded : NodeV2} :
    upgradeNode formulaDigest node = .ok upgraded ↔
      ∃ id dependencies tabDependencies upstream, parseFormulaID node.name = .ok id ∧
        node.dependencies.mapM upgradeRequirement = .ok dependencies ∧
        node.bottle.tab.dependencies.mapM upgradeTabDependency = .ok tabDependencies ∧
        upgradeUpstream node.upstreamFormulaID = .ok upstream ∧
        upgraded = {
          id, tap := "homebrew/core", name := node.name, homebrewFullName := id,
          formulaVersion := node.formulaVersion, formulaRevision := node.formulaRevision,
          pkgVersion := node.pkgVersion, versionScheme := node.versionScheme,
          bottleRebuild := node.bottleRebuild, license := node.license, kegOnly := node.kegOnly,
          dependencies, bottle := upgradeBottle formulaDigest node.bottle tabDependencies,
          provenance := { waiver := some { policy := coreProvenanceWaiverPolicyV1 } },
          executablePaths := node.executablePaths, upstreamFormulaID := upstream } := by
  simp only [upgradeNode, bind_eq_ok, pure_eq_ok]
  constructor
  · rintro ⟨id, parsed, dependencies, edges, tabDependencies, tab, upstream, source, rfl⟩
    exact ⟨id, dependencies, tabDependencies, upstream, parsed, edges, tab, source, rfl⟩
  · rintro ⟨id, dependencies, tabDependencies, upstream, parsed, edges, tab, source, rfl⟩
    exact ⟨id, parsed, dependencies, edges, tabDependencies, tab, upstream, source, rfl⟩

variable {libraries : Libraries} {components : ComponentsV2} {info : Metadata.SnapshotInfo}
    {rollbackFloor : Nat}

theorem recordV2FromCore_eq_ok {core : Record} {upgraded : RecordV2} :
    recordV2FromCore libraries core components info rollbackFloor = .ok upgraded ↔
      validate libraries core = .ok () ∧ (coreSignature info).keyID ≠ "" ∧
        validateV2 libraries upgraded = .ok () ∧ ∃ nodes requested order,
          core.nodes.mapM (upgradeNode info.formulaDigest) = .ok nodes ∧
          core.requested.mapM upgradeRoot = .ok requested ∧
          core.installOrder.mapM parseFormulaID = .ok order ∧
          upgraded = upgradedRecord core components info rollbackFloor nodes requested order := by
  simp only [recordV2FromCore, bind_eq_ok, throw_bind, ite_error_eq_ok, pure_eq_ok]
  constructor
  · rintro ⟨_, valid, nodes, mapped, requested, roots, order, ordered, signed, _, accepted, rfl⟩
    exact ⟨valid, signed, accepted, nodes, requested, order, mapped, roots, ordered, rfl⟩
  · rintro ⟨valid, signed, accepted, nodes, requested, order, mapped, roots, ordered, rfl⟩
    exact ⟨(), valid, nodes, mapped, requested, roots, order, ordered, signed, (), accepted, rfl⟩

/-! ## The way back -/

/-- A V1 node and what the projection of its upgrade gives back. -/
structure Restored (node image : Node) : Prop where
  name : image.name = node.name
  fullName : image.fullName = node.fullName
  formulaVersion : image.formulaVersion = node.formulaVersion
  formulaRevision : image.formulaRevision = node.formulaRevision
  pkgVersion : image.pkgVersion = node.pkgVersion
  versionScheme : image.versionScheme = node.versionScheme
  bottleRebuild : image.bottleRebuild = node.bottleRebuild
  dependencies : image.dependencies = node.dependencies
  index : image.bottle.index = node.bottle.index
  manifest : image.bottle.manifest = node.bottle.manifest
  config : image.bottle.config = node.bottle.config
  layer : image.bottle.layer = node.bottle.layer

section Upgraded

variable {core : Record} {record : RecordV2} {index : RackIndex} {formulaDigest : String}
  (original : AcceptedRecord core)
  (accepted : AcceptedRecordV2 record)
  (upgrades : List.Forall₂ (fun node upgraded => upgradeNode formulaDigest node = .ok upgraded)
    core.nodes record.nodes)
  (loop : record.nodes.foldlM RackIndex.add {} = .ok index)
include upgrades

/-- The upgraded node of a name that the V1 record knows. -/
theorem upgraded_of_name {name : String} {id : FormulaID} (known : name ∈ core.nodes.map Node.name)
    (parsed : parseFormulaID name = .ok id) :
    ∃ upgraded ∈ record.nodes, upgraded.id = id ∧ upgraded.name = name := by
  obtain ⟨node, member, rfl⟩ := List.mem_map.mp known
  obtain ⟨upgraded, among, made⟩ := exists_right_of_forall₂ upgrades member
  obtain ⟨found, _, _, _, read, _, _, _, rfl⟩ := upgradeNode_eq_ok.mp made
  exact ⟨_, among, Except.ok.inj (read.symm.trans parsed), rfl⟩

include accepted loop

theorem lookup_upgraded {name : String} {id : FormulaID} (known : name ∈ core.nodes.map Node.name)
    (parsed : parseFormulaID name = .ok id) : index.rackByID.lookup id = some name :=
  (lookup_rackByID accepted loop).mpr (upgraded_of_name upgrades known parsed)

theorem projectRequirement_upgraded {upgraded : RequirementV2}
    (known : requirement.name ∈ core.nodes.map Node.name)
    (made : upgradeRequirement requirement = .ok upgraded) :
    projectRequirement index.byID upgraded = .ok requirement := by
  obtain ⟨parsed, minimum, revision, rebuild, direct⟩ := upgradeRequirement_eq_ok.mp made
  obtain ⟨target, among, same, name⟩ := upgraded_of_name upgrades known parsed
  rw [projectRequirement, (lookup_byID accepted loop).mpr ⟨among, same⟩]
  simp only [name, minimum, revision, rebuild, direct]

include original

theorem projectNode_upgraded {marshal : PrebuiltDerivationV2 → Except String String}
    {upgraded : NodeV2} (member : node ∈ core.nodes)
    (made : upgradeNode formulaDigest node = .ok upgraded) :
    ∃ image, projectNode marshal index.byID upgraded = .ok image ∧ Restored node image := by
  have among : upgraded ∈ record.nodes := by
    obtain ⟨found, among, same⟩ := exists_right_of_forall₂ upgrades member
    rwa [Except.ok.inj (made.symm.trans same)]
  obtain ⟨id, dependencies, tabDependencies, upstream, parsed, edges, -, -, rfl⟩ :=
    upgradeNode_eq_ok.mp made
  have back : dependencies.mapM (projectRequirement index.byID) = .ok node.dependencies := by
    refine mapM_eq_ok.mpr (List.Forall₂.flip ?_)
    refine forall₂_imp_of_mem (mapM_eq_ok.mp edges) fun requirement edge upgraded made => ?_
    refine projectRequirement_upgraded accepted upgrades loop ?_ made
    refine original.checked.closed (List.mem_map_of_mem member) ?_
    rw [DepthFirst.Edge, original.successors_of_mem member]
    exact List.mem_map_of_mem edge
  have fullName : id = node.fullName := by
    obtain ⟨identity, read, tap, name, -⟩ := accepted.identity _ among
    obtain ⟨canonical, same⟩ := parseCanonicalFormulaID_eq_ok.mp read
    rw [string_of_parse canonical, ← tap, ← name] at same
    rw [original.identity node member]
    exact same.symm
  exact ⟨_, projectNode_eq_ok.mpr ⟨node.dependencies, [], back, rfl, rfl⟩,
    rfl, fullName, rfl, rfl, rfl, rfl, rfl, rfl, rfl, rfl, rfl, rfl⟩

theorem order_upgraded {order : List FormulaID}
    (ordered : core.installOrder.mapM parseFormulaID = .ok order) :
    order.map (rackOf index.rackByID) = core.installOrder := by
  have back : List.Forall₂ (fun name id => rackOf index.rackByID id = name)
      core.installOrder order := by
    refine forall₂_imp_of_mem (mapM_eq_ok.mp ordered) fun name member id parsed => ?_
    have known := (original.checked.enumerates name).mp member
    exact rackOf_of_lookup (lookup_upgraded accepted upgrades loop known parsed)
  have same : core.installOrder.map id = order.map (rackOf index.rackByID) :=
    map_eq_map_of_forall₂ back fun _ _ same => same.symm
  rw [← same, List.map_id]

theorem requested_upgraded {requested : List RequestedRootV2}
    (roots : core.requested.mapM upgradeRoot = .ok requested) :
    (requested.map fun root => ({
      requested := root.requested, canonical := rackOf index.rackByID root.id,
      kegOnly := root.kegOnly } : RequestedRoot)) = core.requested := by
  have back : List.Forall₂ (fun (root : RequestedRoot) (upgraded : RequestedRootV2) =>
      (⟨upgraded.requested, rackOf index.rackByID upgraded.id, upgraded.kegOnly⟩ : RequestedRoot) =
        root) core.requested requested := by
    refine forall₂_imp_of_mem (mapM_eq_ok.mp roots) fun root member upgraded made => ?_
    simp only [upgradeRoot, bind_eq_ok, pure_eq_ok] at made
    obtain ⟨id, parsed, rfl⟩ := made
    rw [rackOf_of_lookup
      (lookup_upgraded accepted upgrades loop (original.roots root member) parsed)]
  have same : core.requested.map id = requested.map fun root =>
      (⟨root.requested, rackOf index.rackByID root.id, root.kegOnly⟩ : RequestedRoot) :=
    map_eq_map_of_forall₂ back fun _ _ same => same.symm
  rw [← same, List.map_id]

end Upgraded

/-- The projection of an upgraded record succeeds and gives the V1 record back. -/
theorem project_upgraded (marshal : PrebuiltDerivationV2 → Except String String) {core : Record}
    {upgraded : RecordV2}
    (made : recordV2FromCore libraries core components info rollbackFloor = .ok upgraded) :
    ∃ view racks, projectV2ForRuntime libraries marshal upgraded = .ok (view, racks) ∧
      List.Forall₂ Restored core.nodes view.nodes ∧ view.requested = core.requested ∧
      view.installOrder = core.installOrder := by
  obtain ⟨valid, -, validV2, nodes, requested, order, mapped, roots, ordered, rfl⟩ :=
    recordV2FromCore_eq_ok.mp made
  have original := acceptedRecord_of_validate valid
  have accepted := acceptedRecordV2_of_validateV2 validV2
  have upgrades := mapM_eq_ok.mp mapped
  obtain ⟨index, loop⟩ := @RackIndex.foldlM_succeeds {} _ accepted.racks fun _ _ => rfl
  obtain ⟨images, projected, restored⟩ := exists_forall₂_of_forall₂ upgrades
    fun node member _ made => projectNode_upgraded original accepted
      upgrades loop member made
  exact ⟨_, _, projectV2ForRuntime_eq_ok.mpr
    ⟨validV2, index, images, loop, mapM_eq_ok.mpr projected, rfl, rfl⟩, restored,
    requested_upgraded original accepted upgrades loop roots,
    order_upgraded original accepted upgrades loop ordered⟩

/--
The runtime projection renames the identities of an accepted record injectively and
keeps its nodes, edges, roots and install order; on an upgraded core resolution it
gives the names, versions, dependencies, descriptor chain and install order back.
-/
theorem runtime_projection_isomorphism (libraries : Libraries)
    (marshal : PrebuiltDerivationV2 → Except String String) :
    (∀ record view racks, validateV2 libraries record = .ok () →
      projectV2ForRuntime libraries marshal record = .ok (view, racks) →
        RuntimeProjection record view racks) ∧
      ∀ core components info rollbackFloor upgraded, validate libraries core = .ok () →
        recordV2FromCore libraries core components info rollbackFloor = .ok upgraded →
          ∃ view racks, projectV2ForRuntime libraries marshal upgraded = .ok (view, racks) ∧
            List.Forall₂ Restored core.nodes view.nodes ∧ view.requested = core.requested ∧
            view.installOrder = core.installOrder := by
  refine ⟨fun record view racks _ projected => runtimeProjection_of_ok projected, ?_⟩
  intro core components info rollbackFloor upgraded _ made
  exact project_upgraded marshal made

/-- The snapshot that the sample resolution was made from. -/
def sampleInfo : Metadata.SnapshotInfo where
  digest := Sample.digest 'a'
  formulaDigest := Sample.digest 'b'
  migrationDigest := Sample.digest 'c'
  generatedAt := Sample.instant
  fetchedAt := Sample.instant
  formula := {
    envelopeDigest := Sample.digest 'd'
    generatedAtSource := coreGeneratedAtSignedPayload
    signatures := [{ keyID := "key", algorithm := "PS512", verified := true }] }
  migrations := {
    envelopeDigest := Sample.digest 'e', generatedAtSource := coreGeneratedAtSignedPayload }

theorem sample_upgraded :
    recordV2FromCore Sample.libraries Sample.core Sample.components sampleInfo 0 =
      .ok Sample.upgraded := by
  refine recordV2FromCore_eq_ok.mpr ⟨Sample.core_valid, by decide, Sample.upgraded_valid,
    Sample.upgraded.nodes, Sample.upgraded.requested, Sample.upgraded.installOrder, ?_, ?_, ?_, ?_⟩
  · rfl
  · rfl
  · rfl
  · rfl

theorem runtime_projection_isomorphism_sample :
    ∃ view racks, projectV2ForRuntime Sample.libraries (fun _ => .ok "") Sample.upgraded =
        .ok (view, racks) ∧
      RuntimeProjection Sample.upgraded view racks ∧
      List.Forall₂ Restored Sample.core.nodes view.nodes ∧
      view.installOrder = ["lib", "app"] := by
  obtain ⟨projection, restoration⟩ :=
    runtime_projection_isomorphism Sample.libraries fun _ => .ok ""
  obtain ⟨view, racks, projected, restored, -, order⟩ :=
    restoration Sample.core Sample.components sampleInfo 0 Sample.upgraded Sample.core_valid
      sample_upgraded
  exact ⟨view, racks, projected, projection _ _ _ Sample.upgraded_valid projected, restored, order⟩

end DalecHomebrew.Resolver
