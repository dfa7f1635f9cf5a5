import DalecHomebrew.Resolution.Accepted

/-!
# The runtime projection

`ProjectV2ForRuntime` of `internal/resolution/project_v2.go` turns a V2 record into
a view that is keyed by rack names, for the helpers that install into the Cellar.
`RuntimeProjection` says what the view has to be: the image of the record under an
injective renaming of its identities, edge by edge, with a sound install order.
-/

namespace DalecHomebrew.Resolution

open Foundation Foundation.GoString Homebrew

variable {node : NodeV2} {racks : Table FormulaID String}

/-! ## The projection -/

def runtimePrebuiltDerivationAnnotationV2 : String := "dev.dalec.homebrew.prebuilt-derivation.v2"

/-- The maps that the first loop fills. -/
structure RackIndex where
  byID : Table FormulaID NodeV2 := ∅
  rackByID : Table FormulaID String := ∅
  seenRacks : Table String FormulaID := ∅

/-- The maps after one more node. -/
def RackIndex.insert (index : RackIndex) (node : NodeV2) : RackIndex where
  byID := index.byID.insert node.id node
  rackByID := index.rackByID.insert node.id node.name
  seenRacks := index.seenRacks.insert node.name node.id

def RackIndex.add (index : RackIndex) (node : NodeV2) : Except String RackIndex :=
  match index.seenRacks.lookup node.name with
  | some previous =>
    if previous ≠ node.id then
      .error ("V2 rack " ++ quote node.name ++ " is shared by " ++ quote previous ++ " and " ++
        quote node.id)
    else .ok (index.insert node)
  | none => .ok (index.insert node)

def projectRequirement (byID : Table FormulaID NodeV2) (requirement : RequirementV2) :
    Except String Requirement :=
  match byID.lookup requirement.id with
  | none => .error ("missing projected dependency " ++ quote requirement.id)
  | some dependency => .ok {
      name := dependency.name, minimum := requirement.minimum, revision := requirement.revision,
      bottleRebuild := requirement.bottleRebuild, direct := requirement.direct }

/-- A tab names dependencies of the past, so it keeps the authenticated identity. -/
def projectTabDependency (dependency : RuntimeDependencyV2) : RuntimeDependency where
  fullName := dependency.homebrewFullName
  version := dependency.version
  revision := dependency.revision
  bottleRebuild := dependency.bottleRebuild
  pkgVersion := dependency.pkgVersion
  declaredDirectly := dependency.declaredDirectly

/-- The copy of a derivation with its set-like lists sorted. -/
def PrebuiltDerivationV2.sorted (derivation : PrebuiltDerivationV2) : PrebuiltDerivationV2 :=
  { derivation with
    source := { derivation.source with
      transport := { derivation.source.transport with
        https := derivation.source.transport.https.map fun transport =>
          { transport with
            allowedRedirectHosts := sortByKey id transport.allowedRedirectHosts } } }
    elf := { derivation.elf with
      neededLibraries := derivation.elf.neededLibraries.map (sortByKey id)
      rpaths := derivation.elf.rpaths.map (sortByKey id) } }

/-- The slash-free host of a bottle that has no OCI repository. -/
def placeholderRepository (id : FormulaID) : String :=
  "https-bottle.invalid/" ++ String.ofList (id.toList.map fun character =>
    if character = '/' then '-' else character)

section Project

variable (libraries : Libraries)
/- `json.Marshal` of a derivation. -/
variable (marshal : PrebuiltDerivationV2 → Except String String)

def projectPrebuiltDerivationV2 (derivation : Option PrebuiltDerivationV2) :
    Except String (List KV) :=
  match derivation with
  | none => .ok []
  | some derivation => do
      let data ← marshal derivation.sorted
      return [{ key := runtimePrebuiltDerivationAnnotationV2, value := data }]

/-- The bottle of the view: the OCI chain, or a layer that stands for the bytes alone. -/
def projectBottle (id : FormulaID) (bottle : BottleV2) (annotations : List KV) : Bottle :=
  let tab : BottleTab := {
    homebrewVersion := bottle.tab.homebrewVersion, arch := bottle.tab.arch,
    compiler := bottle.tab.compiler, changedFiles := bottle.tab.changedFiles,
    builtOn := bottle.tab.builtOn,
    dependencies := bottle.tab.dependencies.map projectTabDependency }
  let placeholder : Bottle := {
    tag := bottle.tag
    filename := bottle.filename
    repository := placeholderRepository id
    index := {}
    manifest := {}
    config := {}
    layer := {
      digest := bottle.sha256, size := bottle.size,
      mediaType := "application/vnd.oci.image.layer.v1.tar+gzip" }
    homebrewSHA256 := bottle.sha256
    cellar := bottle.cellar
    tab
    selectedAnnotations := annotations }
  match bottle.transport.oci with
  | none => placeholder
  | some transport =>
    { placeholder with
      repository := transport.repository
      index := transport.index
      manifest := transport.manifest
      config := transport.config
      layer := transport.layer }

def projectNode (byID : Table FormulaID NodeV2) (node : NodeV2) : Except String Node := do
  let dependencies ← node.dependencies.mapM (projectRequirement byID)
  match projectPrebuiltDerivationV2 marshal node.bottle.prebuiltDerivation with
  | .error message =>
    throw ("project prebuilt derivation for " ++ quote node.id ++ ": " ++ message)
  | .ok annotations =>
    return {
      name := node.name, fullName := node.homebrewFullName, formulaVersion := node.formulaVersion,
      formulaRevision := node.formulaRevision, pkgVersion := node.pkgVersion,
      versionScheme := node.versionScheme, bottleRebuild := node.bottleRebuild,
      license := node.license, kegOnly := node.kegOnly, dependencies,
      bottle := projectBottle node.id node.bottle annotations,
      executablePaths := node.executablePaths, upstreamFormulaID := node.upstreamFormulaID,
      policyFormulaID := node.id }

/-- The rack of an identity; the zero value of the map for an unknown one. -/
def rackOf (racks : Table FormulaID String) (id : FormulaID) : String :=
  (racks.lookup id).getD ""

/-- The view; its metadata, components and attestation policy are zero values. -/
def projectedRecord (record : RecordV2) (racks : Table FormulaID String) (nodes : List Node) :
    Record where
  schemaVersion := schemaVersionV1
  policyVersion := policyVersionV2
  input := record.input
  metadata := {
    digest := "", formulaDigest := "", migrationDigest := "", generatedAt := 0, fetchedAt := 0 }
  resolvedAt := record.resolvedAt
  sourceDateEpoch := record.sourceDateEpoch
  requested := record.requested.map fun root =>
    { requested := root.requested, canonical := rackOf racks root.id, kegOnly := root.kegOnly }
  nodes := nodes
  installOrder := record.installOrder.map (rackOf racks)
  runtime := record.runtime
  pruningPolicyDigest := record.pruningPolicyDigest

/-- `ProjectV2ForRuntime`: the view and the rack map. -/
def projectV2ForRuntime (record : RecordV2) : Except String (Record × Table FormulaID String) := do
  validateV2 libraries record
  let index ← record.nodes.foldlM RackIndex.add {}
  let nodes ← record.nodes.mapM (projectNode marshal index.byID)
  return (projectedRecord record index.rackByID nodes, index.rackByID)

end Project

/-! ## What the projection is -/

/-- An edge and its image. -/
structure ProjectedRequirement (racks : Table FormulaID String) (requirement : RequirementV2)
    (image : Requirement) : Prop where
  name : racks.lookup requirement.id = some image.name
  minimum : image.minimum = requirement.minimum
  revision : image.revision = requirement.revision
  bottleRebuild : image.bottleRebuild = requirement.bottleRebuild
  direct : image.direct = requirement.direct

/-- A node and its image. -/
structure ProjectedNode (racks : Table FormulaID String) (node : NodeV2) (image : Node) : Prop where
  name : racks.lookup node.id = some image.name
  fullName : image.fullName = node.homebrewFullName
  formulaVersion : image.formulaVersion = node.formulaVersion
  formulaRevision : image.formulaRevision = node.formulaRevision
  pkgVersion : image.pkgVersion = node.pkgVersion
  versionScheme : image.versionScheme = node.versionScheme
  bottleRebuild : image.bottleRebuild = node.bottleRebuild
  license : image.license = node.license
  kegOnly : image.kegOnly = node.kegOnly
  executablePaths : image.executablePaths = node.executablePaths
  dependencies : List.Forall₂ (ProjectedRequirement racks) node.dependencies image.dependencies

/-- A view that is the record with its identities renamed to racks. -/
structure RuntimeProjection (record : RecordV2) (view : Record)
    (racks : Table FormulaID String) : Prop where
  defined : ∀ id, id ∈ racks.keys ↔ id ∈ record.nodes.map NodeV2.id
  injective : ∀ first second rack,
    racks.lookup first = some rack → racks.lookup second = some rack → first = second
  nodes : List.Forall₂ (ProjectedNode racks) record.nodes view.nodes
  requested : List.Forall₂ (fun root image => image.requested = root.requested ∧
    racks.lookup root.id = some image.canonical ∧ image.kegOnly = root.kegOnly)
    record.requested view.requested
  order : List.Forall₂ (fun id name => racks.lookup id = some name)
    record.installOrder view.installOrder
  edges : ∀ first second firstRack secondRack, racks.lookup first = some firstRack →
    racks.lookup second = some secondRack →
      (DepthFirst.Edge view.graph.successors firstRack secondRack ↔
        DepthFirst.Edge record.graph.successors first second)
  sound : InstallOrder.Sound (view.nodes.map Node.name) view.graph.successors
    (view.requested.map RequestedRoot.canonical) view.installOrder

/-! ## The rack map -/

variable {target source : RackIndex}

theorem RackIndex.add_eq_ok {index : RackIndex}
    (added : index.add node = .ok target) : target = index.insert node := by
  unfold RackIndex.add at added
  split at added
  · split at added
    · cases added
    · exact (Except.ok.inj added).symm
  · exact (Except.ok.inj added).symm

variable {nodes : List NodeV2}

theorem RackIndex.byID_of_foldlM (loop : nodes.foldlM RackIndex.add source = .ok target) :
    target.byID = nodes.foldl (fun table node => table.insert node.id node) source.byID := by
  induction nodes generalizing source with
  | nil => rw [foldlM_nil_eq_ok.mp loop, List.foldl_nil]
  | cons node rest ih =>
    obtain ⟨middle, first, later⟩ := foldlM_cons_eq_ok.mp loop
    rw [ih later, RackIndex.add_eq_ok first]
    rfl

/-- The rack map has the names of the node map. -/
theorem RackIndex.lookup_rackByID (loop : nodes.foldlM RackIndex.add {} = .ok target) (id : FormulaID) :
    target.rackByID.lookup id = (target.byID.lookup id).map NodeV2.name := by
  refine foldlM_preserves (motive := fun index : RackIndex =>
    ∀ id, index.rackByID.lookup id = (index.byID.lookup id).map NodeV2.name) ?_ loop
      (fun _ => rfl) id
  intro source node middle _ same added other
  rw [RackIndex.add_eq_ok added]
  by_cases here : other = node.id
  · subst here
    simp [RackIndex.insert]
  · simp only [RackIndex.insert, AList.lookup_insert_ne here]
    exact same other

/-- Distinct racks are never shared. -/
theorem RackIndex.foldlM_succeeds (racks : (nodes.map NodeV2.name).Nodup)
    (fresh : ∀ node ∈ nodes, source.seenRacks.lookup node.name = none) :
    ∃ target, nodes.foldlM RackIndex.add source = .ok target := by
  induction nodes generalizing source with
  | nil => exact ⟨source, foldlM_nil_eq_ok.mpr rfl⟩
  | cons node rest ih =>
    rw [List.map_cons, List.nodup_cons] at racks
    have first : source.add node = .ok (source.insert node) := by
      rw [RackIndex.add, fresh node List.mem_cons_self]
    have later : ∀ other ∈ rest, (source.insert node).seenRacks.lookup other.name = none := by
      intro other member
      have different : other.name ≠ node.name := fun same =>
        racks.1 (same ▸ List.mem_map_of_mem member)
      rw [RackIndex.insert, AList.lookup_insert_ne different]
      exact fresh other (List.mem_cons_of_mem _ member)
    obtain ⟨target, loop⟩ := ih racks.2 later
    exact ⟨target, foldlM_cons_eq_ok.mpr ⟨_, first, loop⟩⟩

section Accepted

variable {record : RecordV2} {index : RackIndex}
  (accepted : AcceptedRecordV2 record)
  (loop : record.nodes.foldlM RackIndex.add {} = .ok index)
include accepted loop

variable {id : FormulaID}

theorem lookup_byID : index.byID.lookup id = some node ↔ node ∈ record.nodes ∧ node.id = id := by
  rw [RackIndex.byID_of_foldlM loop]
  exact Table.lookup_ofList accepted.ids

variable {rack : String}

theorem lookup_rackByID : index.rackByID.lookup id = some rack ↔
      ∃ node ∈ record.nodes, node.id = id ∧ node.name = rack := by
  rw [RackIndex.lookup_rackByID loop, Option.map_eq_some_iff]
  simp only [lookup_byID accepted loop, and_assoc]

theorem rackOf_id (member : node ∈ record.nodes) :
    rackOf index.rackByID node.id = node.name := by
  rw [rackOf, (lookup_rackByID accepted loop).mpr ⟨node, member, rfl, rfl⟩, Option.getD_some]

theorem lookup_rackOf (known : id ∈ record.nodes.map NodeV2.id) :
    index.rackByID.lookup id = some (rackOf index.rackByID id) := by
  obtain ⟨node, member, rfl⟩ := List.mem_map.mp known
  rw [rackOf_id accepted loop member]
  exact (lookup_rackByID accepted loop).mpr ⟨node, member, rfl, rfl⟩

theorem rackByID_injective {first second : FormulaID}
    (firstFound : index.rackByID.lookup first = some rack)
    (secondFound : index.rackByID.lookup second = some rack) : first = second := by
  obtain ⟨node, member, rfl, rfl⟩ := (lookup_rackByID accepted loop).mp firstFound
  obtain ⟨other, among, rfl, same⟩ := (lookup_rackByID accepted loop).mp secondFound
  rw [List.inj_on_of_nodup_map accepted.racks member among same.symm]

end Accepted

/-! ## Nodes and edges -/

section Nodes

variable {marshal : PrebuiltDerivationV2 → Except String String} {record : RecordV2}
  {index : RackIndex} {nodes : List Node}

theorem projectNode_eq_ok {byID : Table FormulaID NodeV2} {image : Node} :
    projectNode marshal byID node = .ok image ↔ ∃ dependencies annotations,
      node.dependencies.mapM (projectRequirement byID) = .ok dependencies ∧
        projectPrebuiltDerivationV2 marshal node.bottle.prebuiltDerivation = .ok annotations ∧
        image = {
          name := node.name, fullName := node.homebrewFullName,
          formulaVersion := node.formulaVersion, formulaRevision := node.formulaRevision,
          pkgVersion := node.pkgVersion, versionScheme := node.versionScheme,
          bottleRebuild := node.bottleRebuild, license := node.license, kegOnly := node.kegOnly,
          dependencies, bottle := projectBottle node.id node.bottle annotations,
          executablePaths := node.executablePaths, upstreamFormulaID := node.upstreamFormulaID,
          policyFormulaID := node.id } := by
  rw [projectNode, bind_eq_ok]
  refine exists_congr fun dependencies => ?_
  cases projectPrebuiltDerivationV2 marshal node.bottle.prebuiltDerivation with
  | error message => simp [throw, throwThe, MonadExceptOf.throw]
  | ok annotations => simp [pure, Except.pure, eq_comm]

variable (accepted : AcceptedRecordV2 record)
  (loop : record.nodes.foldlM RackIndex.add {} = .ok index)
include accepted loop

theorem projectedRequirement_of_ok {requirement : RequirementV2} {image : Requirement}
    (projected : projectRequirement index.byID requirement = .ok image) :
    ProjectedRequirement index.rackByID requirement image := by
  unfold projectRequirement at projected
  cases found : index.byID.lookup requirement.id with
  | none => simp [found] at projected
  | some dependency =>
    simp only [found, Except.ok.injEq] at projected
    obtain rfl := projected
    obtain ⟨member, same⟩ := (lookup_byID accepted loop).mp found
    exact ⟨(lookup_rackByID accepted loop).mpr ⟨dependency, member, same, rfl⟩, rfl, rfl, rfl, rfl⟩

theorem projectedNode_of_ok {image : Node} (member : node ∈ record.nodes)
    (projected : projectNode marshal index.byID node = .ok image) :
    ProjectedNode index.rackByID node image := by
  obtain ⟨dependencies, annotations, mapped, -, rfl⟩ := projectNode_eq_ok.mp projected
  refine ⟨(lookup_rackByID accepted loop).mpr ⟨node, member, rfl, rfl⟩, rfl, rfl, rfl, rfl, rfl, rfl,
    rfl, rfl, rfl, ?_⟩
  exact (mapM_eq_ok.mp mapped).imp fun _ _ => projectedRequirement_of_ok accepted loop

end Nodes

section View

variable {record : RecordV2} {index : RackIndex} {nodes : List Node} {id first second : FormulaID}

theorem rackOf_of_lookup {rack : String}
    (found : racks.lookup id = some rack) : rackOf racks id = rack := by
  rw [rackOf, found, Option.getD_some]

/-- The names of the view are the racks of the identities. -/
theorem names_of_projectedNodes
    (projected : List.Forall₂ (ProjectedNode racks) record.nodes nodes) :
    nodes.map Node.name = (record.nodes.map NodeV2.id).map (rackOf racks) := by
  rw [List.map_map]
  exact (map_eq_map_of_forall₂ projected fun _ _ image => rackOf_of_lookup image.name).symm

variable (accepted : AcceptedRecordV2 record)
include accepted

variable (loop : record.nodes.foldlM RackIndex.add {} = .ok index)
  (projected : List.Forall₂ (ProjectedNode index.rackByID) record.nodes nodes)
include loop

theorem rackOf_injective (firstKnown : first ∈ record.nodes.map NodeV2.id)
    (secondKnown : second ∈ record.nodes.map NodeV2.id)
    (same : rackOf index.rackByID first = rackOf index.rackByID second) : first = second := by
  have firstFound := lookup_rackOf accepted loop firstKnown
  have secondFound := lookup_rackOf accepted loop secondKnown
  rw [← same] at secondFound
  exact rackByID_injective accepted loop firstFound secondFound

include projected

theorem names_nodup : (nodes.map Node.name).Nodup := by
  rw [names_of_projectedNodes projected]
  refine accepted.ids.map_on fun first firstKnown second secondKnown same => ?_
  exact rackOf_injective accepted loop firstKnown secondKnown same

/-- The edges of the view are the images of the edges of the record. -/
theorem successors_projectedRecord (known : id ∈ record.nodes.map NodeV2.id) :
    (projectedRecord record index.rackByID nodes).graph.successors (rackOf index.rackByID id) =
      (record.graph.successors id).map (rackOf index.rackByID) := by
  obtain ⟨node, member, rfl⟩ := List.mem_map.mp known
  obtain ⟨image, among, related⟩ := exists_right_of_forall₂ projected member
  have found : (projectedRecord record index.rackByID nodes).nodeTable.lookup
      (rackOf index.rackByID node.id) = some image :=
    (Table.lookup_ofList (names_nodup accepted loop projected)).mpr
      ⟨among, (rackOf_of_lookup related.name).symm⟩
  rw [accepted.successors_of_mem member, Graph.successors_of_lookup found, List.map_map]
  exact (map_eq_map_of_forall₂ related.dependencies fun _ _ image => rackOf_of_lookup image.name).symm

theorem sound_projectedRecord :
    InstallOrder.Sound (nodes.map Node.name)
      (projectedRecord record index.rackByID nodes).graph.successors
      ((projectedRecord record index.rackByID nodes).requested.map RequestedRoot.canonical)
      (record.installOrder.map (rackOf index.rackByID)) := by
  have image := accepted.checked.sound.image
    (fun first firstKnown second secondKnown => rackOf_injective accepted loop firstKnown secondKnown)
    (fun id known => successors_projectedRecord accepted loop projected known)
  rw [← names_of_projectedNodes projected] at image
  simpa only [projectedRecord, List.map_map, Function.comp_def] using image

theorem edge_projectedRecord_iff {firstRack secondRack : String}
    (firstFound : index.rackByID.lookup first = some firstRack)
    (secondFound : index.rackByID.lookup second = some secondRack) :
    DepthFirst.Edge (projectedRecord record index.rackByID nodes).graph.successors firstRack
        secondRack ↔
      DepthFirst.Edge record.graph.successors first second := by
  obtain ⟨node, member, rfl, rfl⟩ := (lookup_rackByID accepted loop).mp firstFound
  obtain ⟨other, among, rfl, rfl⟩ := (lookup_rackByID accepted loop).mp secondFound
  have known : node.id ∈ record.nodes.map NodeV2.id := List.mem_map_of_mem member
  rw [← rackOf_id accepted loop member, ← rackOf_id accepted loop among, DepthFirst.Edge,
    successors_projectedRecord accepted loop projected known, List.mem_map]
  constructor
  · rintro ⟨successor, edge, same⟩
    have successorKnown := accepted.checked.closed known edge
    rw [← rackOf_injective accepted loop successorKnown (List.mem_map_of_mem among) same]
    exact edge
  · intro edge
    exact ⟨other.id, edge, rfl⟩

/-- A successful projection is the renamed record. -/
theorem runtimeProjection_of_projectedNodes :
    RuntimeProjection record (projectedRecord record index.rackByID nodes) index.rackByID where
  defined := by
    intro id
    rw [Table.mem_keys_iff]
    simp only [lookup_rackByID accepted loop, List.mem_map]
    constructor
    · rintro ⟨rack, node, member, same, -⟩
      exact ⟨node, member, same⟩
    · rintro ⟨node, member, same⟩
      exact ⟨node.name, node, member, same, rfl⟩
  injective := fun _ _ _ => rackByID_injective accepted loop
  nodes := projected
  requested := by
    rw [projectedRecord, List.forall₂_map_right_iff, List.forall₂_same]
    intro root member
    obtain ⟨node, known, same, -⟩ := accepted.roots root member
    exact ⟨rfl, lookup_rackOf accepted loop (List.mem_map.mpr ⟨node, known, same⟩), rfl⟩
  order := by
    rw [projectedRecord, List.forall₂_map_right_iff, List.forall₂_same]
    intro id member
    exact lookup_rackOf accepted loop (accepted.checked.known id member)
  edges := fun _ _ _ _ => edge_projectedRecord_iff accepted loop projected
  sound := sound_projectedRecord accepted loop projected

end View

variable {libraries : Libraries} {marshal : PrebuiltDerivationV2 → Except String String}
  {record : RecordV2} {view : Record}

theorem projectV2ForRuntime_eq_ok :
    projectV2ForRuntime libraries marshal record = .ok (view, racks) ↔
      validateV2 libraries record = .ok () ∧ ∃ index nodes,
        record.nodes.foldlM RackIndex.add {} = .ok index ∧
          record.nodes.mapM (projectNode marshal index.byID) = .ok nodes ∧
          view = projectedRecord record index.rackByID nodes ∧ racks = index.rackByID := by
  simp only [projectV2ForRuntime, bind_eq_ok, pure_eq_ok, Prod.mk.injEq]
  constructor
  · rintro ⟨_, valid, index, loop, nodes, mapped, rfl, rfl⟩
    exact ⟨valid, index, nodes, loop, mapped, rfl, rfl⟩
  · rintro ⟨valid, index, nodes, loop, mapped, rfl, rfl⟩
    exact ⟨(), valid, index, loop, nodes, mapped, rfl, rfl⟩

/-- Whenever the projection succeeds it is the record with its identities renamed. -/
theorem runtimeProjection_of_ok
    (projected : projectV2ForRuntime libraries marshal record = .ok (view, racks)) :
    RuntimeProjection record view racks := by
  obtain ⟨valid, index, nodes, loop, mapped, rfl, rfl⟩ := projectV2ForRuntime_eq_ok.mp projected
  have accepted := acceptedRecordV2_of_validateV2 valid
  exact runtimeProjection_of_projectedNodes accepted loop
    (forall₂_imp_of_mem (mapM_eq_ok.mp mapped) fun _ member _ => projectedNode_of_ok accepted loop member)

end DalecHomebrew.Resolution
