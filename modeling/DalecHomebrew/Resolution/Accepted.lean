import DalecHomebrew.Catalog.Accepted
import DalecHomebrew.Resolution.RecordV2

/-!
# Accepted resolutions

What the two validators of `internal/resolution` say about the graph of a record
they accept: distinct identities, distinct rack names, known roots and the graph
checks.  Together with the validator of closures this gives the soundness of every
accepted install order.
-/

namespace DalecHomebrew.Resolution

open Foundation Foundation.GoString Homebrew

/-! ## Graphs -/

namespace Graph

variable {Node : Type} {graph : Graph Node}

/-- Accepted graph checks with known roots are the conditions of a checked order. -/
theorem Accepted.checked (accepted : graph.Accepted) {nodes : List String}
    (named : ∀ id, id ∈ nodes ↔ id ∈ graph.nodes.keys)
    (rooted : ∀ root ∈ graph.roots, root ∈ nodes) :
    InstallOrder.Checked nodes graph.successors graph.roots graph.order where
  distinct := accepted.placed.distinct
  known := fun id member => (named id).mpr (accepted.placed.known id member)
  placed := fun id member => accepted.placed.placed id ((named id).mp member)
  rooted := rooted
  reached := fun id member => accepted.reached id ((named id).mp member)

end Graph

/-! ## V1 -/

/-- The graph facts of an accepted V1 record. -/
structure AcceptedRecord (record : Record) : Prop where
  identity : ∀ node ∈ record.nodes, node.fullName = "homebrew/core/" ++ node.name
  names : (record.nodes.map Node.name).Nodup
  dependencies : ∀ node ∈ record.nodes, (node.dependencies.map Requirement.name).Nodup
  roots : ∀ root ∈ record.requested, root.canonical ∈ record.nodes.map Node.name
  graph : record.graph.Accepted

variable {record : Record}

theorem Record.graph_wellFormed
    (names : (record.nodes.map Node.name).Nodup) : record.graph.WellFormed where
  mem_visited := by
    intro id node
    simp only [Record.graph, Record.nodeTable, Table.lookup_ofList names, List.mem_map,
      Prod.mk.injEq]
    constructor
    · rintro ⟨found, member, rfl, rfl⟩
      exact ⟨member, rfl⟩
    · rintro ⟨member, rfl⟩
      exact ⟨node, member, rfl, rfl⟩
  identified := by
    rintro entry id same
    exact (Except.ok.inj same).symm

theorem Record.mem_keys {name : String} :
    name ∈ record.nodeTable.keys ↔ name ∈ record.nodes.map Node.name :=
  Table.mem_keys_ofList

theorem acceptedRecord_of_validate {libraries : Libraries}
    (valid : validate libraries record = .ok ()) : AcceptedRecord record := by
  simp only [validate, joinErrors_eq_ok, List.append_eq_nil_iff] at valid
  obtain ⟨⟨⟨⟨-, nodes⟩, requested⟩, graph⟩, -⟩ := valid
  simp only [nodeFindings, List.flatMap_eq_nil_iff, List.append_eq_nil_iff, finding_eq_nil,
    forall₂_and] at nodes
  obtain ⟨⟨⟨⟨⟨⟨⟨⟨⟨identity, fresh⟩, -⟩, -⟩, -⟩, -⟩, -⟩, -⟩, -⟩, -, once⟩ := nodes
  have names : (record.nodes.map Node.name).Nodup := forall_zipIdx_fresh.mp fresh
  refine ⟨?_, names, ?_, ?_, (Graph.findings_eq_nil (Record.graph_wellFormed names)).mp graph⟩
  · refine forall_zipIdx.mp fun entry member => ?_
    have checked := identity entry member
    simp only [Bool.or_eq_false_iff, bne_eq_false_iff_eq] at checked
    exact checked.2
  · exact forall_zipIdx.mp fun entry member => forall_zipIdx_fresh.mp (once entry member)
  · simp only [requestedFindings, List.flatMap_eq_nil_iff, finding_eq_nil,
      Table.lookup_isNone_eq_false, Record.mem_keys] at requested
    exact requested

theorem AcceptedRecord.checked (accepted : AcceptedRecord record) :
    InstallOrder.Checked (record.nodes.map Node.name) record.graph.successors
      (record.requested.map RequestedRoot.canonical) record.installOrder :=
  accepted.graph.checked (fun _ => Record.mem_keys.symm) (by
    intro root member
    obtain ⟨requested, among, rfl⟩ := List.mem_map.mp member
    exact accepted.roots requested among)

theorem AcceptedRecord.successors_of_mem (accepted : AcceptedRecord record)
    {node : Node} (member : node ∈ record.nodes) :
    record.graph.successors node.name = node.dependencies.map Requirement.name :=
  Graph.successors_of_lookup ((Table.lookup_ofList accepted.names).mpr ⟨member, rfl⟩)

/-! ## V2 -/

/-- The graph facts of an accepted V2 record. -/
structure AcceptedRecordV2 (record : RecordV2) : Prop where
  identity : ∀ node ∈ record.nodes, ∃ identity, parseCanonicalFormulaID node.id = .ok identity ∧
    node.tap = identity.tap.string ∧ node.name = identity.name ∧ node.homebrewFullName = node.id
  ids : (record.nodes.map NodeV2.id).Nodup
  racks : (record.nodes.map NodeV2.name).Nodup
  dependencies : ∀ node ∈ record.nodes, (node.dependencies.map RequirementV2.id).Nodup
  roots : ∀ root ∈ record.requested, ∃ node ∈ record.nodes, node.id = root.id ∧
    node.kegOnly = root.kegOnly
  graph : record.graph.Accepted

section Nodes

variable {libraries : Libraries} {record : RecordV2}

/-- Every node has a readable identity, and the checks against the earlier nodes pass. -/
theorem readable_of_nodeFindingsV2 (none : nodeFindingsV2 libraries record = []) :
    ∀ entry ∈ positioned record.nodes, ∃ identity,
      parseCanonicalFormulaID entry.2.2.id = .ok identity ∧
        readableNodeFindings libraries record entry.1 identity entry.2.2 = [] := by
  rw [← @forall_zipIdx_iff _ record.nodes fun earlier node => ∃ identity,
    parseCanonicalFormulaID node.id = .ok identity ∧
      readableNodeFindings libraries record earlier identity node = []]
  rintro ⟨node, index⟩ member
  have checked := List.flatMap_eq_nil_iff.mp none (node, index) member
  cases parsed : parseCanonicalFormulaID node.id with
  | error message => simp [parsed] at checked
  | ok identity => exact ⟨identity, rfl, by simpa [parsed] using checked⟩

/-- What is established about a node and the nodes before it. -/
structure Readable (earlier : List NodeV2) (identity : FormulaIdentity) (node : NodeV2) :
    Prop where
  fresh : ∀ other ∈ earlier, other.id ≠ node.id
  tap : node.tap = identity.tap.string
  name : node.name = identity.name
  fullName : node.homebrewFullName = node.id
  rack : ∀ other ∈ earlier, isCanonicalFormulaID other.id = true → other.name ≠ "" →
    other.name ≠ node.name
  dependencies : (node.dependencies.map RequirementV2.id).Nodup

section

variable {raw : FormulaID} {identity : FormulaIdentity}
  (parsed : parseCanonicalFormulaID raw = .ok identity)

include parsed

theorem string_of_parseCanonicalFormulaID : identity.string = raw :=
  (parseCanonicalFormulaID_eq_ok.mp parsed).2

theorem name_ne_empty : identity.name ≠ "" := by
  have read := (parseCanonicalFormulaID_eq_ok.mp parsed).1
  obtain ⟨-, -, -, valid⟩ := newFormulaID_ok.mp (newFormulaID_of_parse read)
  exact (component_formula valid).nonempty

end

theorem dependencies_of_dependencyFindings {id : FormulaID} {dependencies : List RequirementV2}
    (none : dependencyFindings id dependencies = []) :
    (dependencies.map RequirementV2.id).Nodup := by
  refine forall_zipIdx_fresh.mp ?_
  rintro ⟨requirement, place⟩ member
  have checked := List.flatMap_eq_nil_iff.mp none (requirement, place) member
  cases parsed : parseCanonicalFormulaID requirement.id with
  | error message => simp [parsed] at checked
  | ok identity =>
    simp only [parsed, List.append_eq_nil_iff, finding_eq_nil] at checked
    rw [string_of_parseCanonicalFormulaID parsed] at checked
    exact checked.1

theorem readable_of_findings {earlier : List NodeV2} {identity : FormulaIdentity} {node : NodeV2}
    (parsed : parseCanonicalFormulaID node.id = .ok identity)
    (none : readableNodeFindings libraries record earlier identity node = []) :
    Readable earlier identity node := by
  have canonical := string_of_parseCanonicalFormulaID parsed
  simp only [readableNodeFindings, identityFindings, List.append_eq_nil_iff, finding_eq_nil,
    bne_eq_false_iff_eq, canonical] at none
  obtain ⟨⟨⟨⟨⟨⟨⟨⟨⟨⟨⟨⟨fresh, tap⟩, name⟩, rack⟩, fullName⟩, -⟩, -⟩, -⟩, -⟩, -⟩, -⟩, -⟩, dependencies⟩ := none
  have distinct : ∀ other ∈ earlier, other.id ≠ node.id := by simpa using fresh
  refine ⟨distinct, tap, name, ?_, ?_, dependencies_of_dependencyFindings dependencies⟩
  · cases read : parseCanonicalFormulaID node.homebrewFullName with
    | error message => simp [read] at fullName
    | ok found =>
      have same : found.string = node.id := by simpa [read] using fullName
      exact (string_of_parseCanonicalFormulaID read).symm.trans same
  · intro other member readable named same
    cases found : earlier.find? fun other =>
        isCanonicalFormulaID other.id && other.name != "" && other.name == node.name with
    | none =>
      have absent := List.find?_eq_none.mp found other member
      rw [same] at named
      simp [readable, same, named] at absent
    | some prior =>
      have collision : prior.id = node.id := by simpa [found] using rack
      exact distinct prior (List.mem_of_find?_eq_some found) collision

end Nodes

section Record

variable {libraries : Libraries} {record : RecordV2}

theorem isCanonicalFormulaID_of_parse {raw : FormulaID} {identity : FormulaIdentity}
    (parsed : parseCanonicalFormulaID raw = .ok identity) : isCanonicalFormulaID raw = true := by
  rw [isCanonicalFormulaID, parsed]
  rfl

/-- With readable identities the node map is the one of all nodes. -/
theorem RecordV2.nodeTable_eq
    (readable : ∀ node ∈ record.nodes, isCanonicalFormulaID node.id = true) :
    record.nodeTable = Table.ofList NodeV2.id record.nodes := by
  rw [RecordV2.nodeTable, List.filter_eq_self.mpr readable]

theorem RecordV2.graph_wellFormed : record.graph.WellFormed where
  mem_visited := by
    intro id node
    rw [← Option.mem_def, AList.mem_lookup_iff]
    simp only [RecordV2.graph, List.mem_map, Prod.mk.injEq]
    constructor
    · rintro ⟨⟨key, value⟩, member, rfl, rfl⟩
      exact member
    · intro member
      exact ⟨⟨id, node⟩, member, rfl, rfl⟩
  identified := by
    intro entry id read
    simp only [RecordV2.graph] at read
    cases parsed : parseCanonicalFormulaID entry with
    | error message => simp [parsed, Except.map] at read
    | ok identity =>
      obtain rfl : identity.string = id := by simpa [parsed, Except.map] using read
      exact string_of_parseCanonicalFormulaID parsed

theorem roots_of_requestedFindingsV2 (ids : (record.nodes.map NodeV2.id).Nodup)
    (readable : ∀ node ∈ record.nodes, isCanonicalFormulaID node.id = true)
    (none : requestedFindingsV2 record = []) :
    ∀ root ∈ record.requested, ∃ node ∈ record.nodes, node.id = root.id ∧
      node.kegOnly = root.kegOnly := by
  refine forall_zipIdx.mp ?_
  rintro ⟨root, index⟩ member
  have checked := (List.append_eq_nil_iff.mp
    (List.flatMap_eq_nil_iff.mp none (root, index) member)).2
  cases parsed : parseCanonicalFormulaID root.id with
  | error message => simp [parsed] at checked
  | ok identity =>
    simp only [parsed, List.append_eq_nil_iff, RecordV2.nodeTable_eq readable] at checked
    rw [string_of_parseCanonicalFormulaID parsed] at checked
    cases found : (Table.ofList NodeV2.id record.nodes).lookup root.id with
    | none => simp [found] at checked
    | some node =>
      obtain ⟨among, same⟩ := (Table.lookup_ofList ids).mp found
      have kegOnly : root.kegOnly = node.kegOnly := by simpa [found] using checked.2
      exact ⟨node, among, same, kegOnly.symm⟩

theorem acceptedRecordV2_of_validateV2 (valid : validateV2 libraries record = .ok ()) :
    AcceptedRecordV2 record := by
  simp only [validateV2, joinErrors_eq_ok, List.append_eq_nil_iff] at valid
  obtain ⟨⟨⟨⟨-, nodes⟩, requested⟩, graph⟩, -⟩ := valid
  have each := readable_of_nodeFindingsV2 nodes
  have identities : ∀ node ∈ record.nodes, ∃ identity,
      parseCanonicalFormulaID node.id = .ok identity ∧ ∃ earlier, Readable earlier identity node := by
    refine forall_positioned.mp fun entry member => ?_
    obtain ⟨identity, parsed, none⟩ := each entry member
    exact ⟨identity, parsed, entry.1, readable_of_findings parsed none⟩
  have readable : ∀ node ∈ record.nodes, isCanonicalFormulaID node.id = true := by
    intro node member
    obtain ⟨identity, parsed, -⟩ := identities node member
    exact isCanonicalFormulaID_of_parse parsed
  have ids : (record.nodes.map NodeV2.id).Nodup := by
    refine forall_positioned_fresh.mp fun entry member => ?_
    obtain ⟨identity, parsed, none⟩ := each entry member
    exact (readable_of_findings parsed none).fresh
  have racks : (record.nodes.map NodeV2.name).Nodup := by
    refine forall_positioned_fresh.mp fun entry member earlier among => ?_
    obtain ⟨identity, parsed, none⟩ := each entry member
    obtain ⟨after, split, -⟩ := mem_positioned.mp member
    have known : earlier ∈ record.nodes := split ▸ List.mem_append_left _ among
    obtain ⟨other, otherParsed, before, otherReadable⟩ := identities earlier known
    exact (readable_of_findings parsed none).rack earlier among (readable earlier known)
      (otherReadable.name ▸ name_ne_empty otherParsed)
  refine ⟨?_, ids, racks, ?_, roots_of_requestedFindingsV2 ids readable requested,
    (Graph.findings_eq_nil RecordV2.graph_wellFormed).mp graph⟩
  · intro node member
    obtain ⟨identity, parsed, earlier, facts⟩ := identities node member
    exact ⟨identity, parsed, facts.tap, facts.name, facts.fullName⟩
  · intro node member
    obtain ⟨identity, parsed, earlier, facts⟩ := identities node member
    exact facts.dependencies

namespace AcceptedRecordV2

variable (accepted : AcceptedRecordV2 record)
include accepted

theorem nodeTable_eq : record.nodeTable = Table.ofList NodeV2.id record.nodes := by
  refine RecordV2.nodeTable_eq fun node member => ?_
  obtain ⟨identity, parsed, -⟩ := accepted.identity node member
  exact isCanonicalFormulaID_of_parse parsed

theorem mem_keys {id : FormulaID} :
    id ∈ record.nodeTable.keys ↔ id ∈ record.nodes.map NodeV2.id := by
  rw [accepted.nodeTable_eq, Table.mem_keys_ofList]

theorem successors_of_mem {node : NodeV2} (member : node ∈ record.nodes) :
    record.graph.successors node.id = node.dependencies.map RequirementV2.id := by
  refine Graph.successors_of_lookup ?_
  change record.nodeTable.lookup node.id = some node
  rw [accepted.nodeTable_eq, Table.lookup_ofList accepted.ids]
  exact ⟨member, rfl⟩

theorem checked :
    InstallOrder.Checked (record.nodes.map NodeV2.id) record.graph.successors
      (record.requested.map RequestedRootV2.id) record.installOrder := by
  refine accepted.graph.checked (fun _ => accepted.mem_keys.symm) fun root member => ?_
  obtain ⟨requested, among, rfl⟩ := List.mem_map.mp member
  obtain ⟨node, known, same, -⟩ := accepted.roots requested among
  exact List.mem_map.mpr ⟨node, known, same⟩

end AcceptedRecordV2

end Record

/-! ## Install orders -/

/--
Whatever one of the three validators accepts has a sound install order, and no two
of its nodes share a rack.  The rack of a V1 node is its name.
-/
theorem accepted_orders_sound :
    (∀ closure : Catalog.ClosureResult, Catalog.validateClosureResult closure = .ok () →
      InstallOrder.Sound (closure.nodes.map Catalog.Node.id) closure.successors closure.requested
        closure.installOrder ∧ (closure.nodes.map Catalog.Node.name).Nodup) ∧
    (∀ (libraries : Libraries) (record : Record), validate libraries record = .ok () →
      InstallOrder.Sound (record.nodes.map Node.name) record.graph.successors
        (record.requested.map RequestedRoot.canonical) record.installOrder ∧
        (record.nodes.map Node.name).Nodup) ∧
    ∀ (libraries : Libraries) (record : RecordV2), validateV2 libraries record = .ok () →
      InstallOrder.Sound (record.nodes.map NodeV2.id) record.graph.successors
        (record.requested.map RequestedRootV2.id) record.installOrder ∧
        (record.nodes.map NodeV2.name).Nodup := by
  refine ⟨fun closure valid => Catalog.sound_of_validateClosureResult valid, ?_, ?_⟩
  · intro libraries record valid
    have accepted := acceptedRecord_of_validate valid
    exact ⟨accepted.checked.sound, accepted.names⟩
  · intro libraries record valid
    have accepted := acceptedRecordV2_of_validateV2 valid
    exact ⟨accepted.checked.sound, accepted.racks⟩

namespace Sample

/-- Stands for the digests of the record: only their form and their equality matter. -/
def checksum (digit : Char) : String := String.ofList (List.replicate 64 digit)

def digest (digit : Char) : String := "sha256:" ++ checksum digit

/-- The image that all components of the sample release are pinned to. -/
def pinned : String := "ghcr.io/dalec/release@" ++ digest 'f'

/-- The parsers, as they answer on the inputs below. -/
def libraries : Libraries where
  parseURL := fun raw =>
    .ok {
      scheme := "https", host := trimPrefix raw "https://", hostname := trimPrefix raw "https://" }
  isIP := fun _ => false
  isAddress := fun _ => false
  parseDigest := fun value =>
    if value = "" then .error "invalid checksum digest format" else .ok "sha256"
  parseReference := fun ref =>
    if ref = pinned then
      .ok { domain := "ghcr.io", path := "dalec/release", digest := some (digest 'f') }
    else
      .ok { domain := (splitChar ref '/').headD "", path := join (splitChar ref '/').tail "/" }

def platform : Platform where
  os := "linux"
  architecture := "amd64"

def descriptor (digit : Char) : Descriptor where
  digest := digest digit
  size := 1
  mediaType := "application/octet-stream"

def bottle (name : String) : Bottle where
  tag := "x86_64_linux"
  filename := name
  repository := "ghcr.io/homebrew/core/" ++ name
  index := descriptor 'a'
  manifest := { descriptor 'b' with platform := some platform }
  config := descriptor 'c'
  layer := descriptor 'd'
  homebrewSHA256 := checksum 'd'
  cellar := "any"
  tab := { arch := "x86_64" }

def node (name : String) (dependencies : List Requirement) : Node where
  name := name
  fullName := "homebrew/core/" ++ name
  formulaVersion := "1"
  formulaRevision := 0
  pkgVersion := "1"
  versionScheme := 0
  bottleRebuild := 0
  dependencies := dependencies
  bottle := bottle name

/-- One second after the Unix epoch. -/
def instant : Catalog.Time := (62135596800 + 1) * 1000000000

/-- A core resolution of `app`, which depends on `lib`. -/
def core : Record where
  schemaVersion := schemaVersionV1
  policyVersion := policyVersionV1
  input := { dalecSpecDigest := digest 'e', platform }
  metadata := {
    digest := digest 'a', formulaDigest := digest 'b', migrationDigest := digest 'c',
    generatedAt := instant, fetchedAt := instant }
  resolvedAt := instant
  sourceDateEpoch := 1
  requested := [{ requested := "app", canonical := "app" }]
  nodes := [node "app" [{ name := "lib", minimum := "1", direct := true }], node "lib" []]
  installOrder := ["lib", "app"]
  runtime := { user := "linuxbrew", uid := 1000, gid := 1000 }
  attestationPolicy := { waiver := "homebrew-jws-and-verified-oci-chain-v1" }

theorem core_valid : validate libraries core = .ok () := by decide +kernel

def nodeV2 (name : String) (dependencies : List RequirementV2) : NodeV2 where
  id := "homebrew/core/" ++ name
  tap := "homebrew/core"
  name := name
  homebrewFullName := "homebrew/core/" ++ name
  formulaVersion := "1"
  formulaRevision := 0
  pkgVersion := "1"
  versionScheme := 0
  bottleRebuild := 0
  dependencies := dependencies
  bottle := {
    tag := "x86_64_linux"
    filename := name
    size := 1
    sha256 := digest 'd'
    cellar := "any"
    tab := { arch := "x86_64" }
    currentFormulaSourceDigest := digest 'b'
    verification := { policyVersion := coreBottleVerificationDeferredV1 }
    transport := {
      oci := some {
        registry := "ghcr.io", repository := "homebrew/core/" ++ name, index := descriptor 'a',
        manifest := { descriptor 'b' with platform := some platform }, config := descriptor 'c',
        layer := descriptor 'd' } } }
  provenance := { waiver := some { policy := coreProvenanceWaiverPolicyV1 } }

def commit : String := String.ofList (List.replicate 40 'a')

def components : ComponentsV2 where
  frontendIndexRef := pinned
  frontendRef := pinned
  runtimeBaseRef := pinned
  materializerRef := pinned
  bottleFetcherRef := pinned
  catalogExtractorRef := pinned
  tapPolicyDigest := digest 'a'
  executableRuntimePolicyDigest := digest 'b'
  homebrewCommit := commit
  rubyRuntime := "3.4"
  verificationKeys := digest 'c'
  dalecModule := "v0"
  buildKitModule := "v0"
  supportedCatalogPolicyVersions := ["tap-catalog-v1"]
  supportedFetchPolicyVersions := [httpsFetchPolicyVersionV1]
  supportedProvenancePolicyVersions := [coreProvenanceWaiverPolicyV1]

/-- The same resolution as a V2 record. -/
def upgraded : RecordV2 where
  schemaVersion := schemaVersionV2
  policyVersion := policyVersionV2
  input := core.input
  metadataSources := [{
    tap := "homebrew/core"
    commit := commit
    signer := { keyID := "key", algorithm := "PS512", verified := true }
    documents := [
      { name := "formula", digest := digest 'b', envelopeDigest := digest 'd' },
      { name := "migrations", digest := digest 'c', envelopeDigest := digest 'e' }]
    generatedAt := instant
    generatedAtSource := coreGeneratedAtSignedPayload
    fetchedAt := instant
    sequence := 1
    rollback := {
      policy := coreMetadataRollbackPolicyV1, sequenceFloor := 0, stateDigest := digest 'a' } }]
  resolvedAt := instant
  sourceDateEpoch := 1
  requested := [{ requested := "app", id := "homebrew/core/app" }]
  nodes := [
    nodeV2 "app" [{ id := "homebrew/core/lib", minimum := "1", direct := true }], nodeV2 "lib" []]
  installOrder := ["homebrew/core/lib", "homebrew/core/app"]
  components := components
  runtime := core.runtime

theorem upgraded_valid : validateV2 libraries upgraded = .ok () := by decide +kernel

/-- The closure that the catalog protocol has for the same two Formulae. -/
def closure : Catalog.ClosureResult where
  requested := ["homebrew/core/app"]
  requestedMappings := none
  normalizationTaps := none
  nodes := [
    { id := "homebrew/core/app"
      tap := "homebrew/core"
      name := "app"
      homebrewFullName := "homebrew/core/app"
      formulaVersion := "1"
      formulaRevision := 0
      pkgVersion := "1"
      versionScheme := 0
      bottleRebuild := 0
      dependencies := [{ raw := "lib", id := "homebrew/core/lib" }] },
    { id := "homebrew/core/lib"
      tap := "homebrew/core"
      name := "lib"
      homebrewFullName := "homebrew/core/lib"
      formulaVersion := "1"
      formulaRevision := 0
      pkgVersion := "1"
      versionScheme := 0
      bottleRebuild := 0 }]
  installOrder := ["homebrew/core/lib", "homebrew/core/app"]

theorem closure_valid : Catalog.validateClosureResult closure = .ok () := by decide +kernel

end Sample

theorem accepted_orders_sound_sample :
    Sample.closure.installOrder.Nodup ∧
      (∀ name, name ∈ Sample.core.installOrder ↔ name ∈ Sample.core.nodes.map Node.name) ∧
      ∀ id ∈ Sample.upgraded.nodes.map NodeV2.id,
        ¬ Relation.TransGen (DepthFirst.Edge Sample.upgraded.graph.successors) id id :=
  ⟨(accepted_orders_sound.1 Sample.closure Sample.closure_valid).1.distinct,
    (accepted_orders_sound.2.1 Sample.libraries Sample.core Sample.core_valid).1.enumerates,
    (accepted_orders_sound.2.2 Sample.libraries Sample.upgraded Sample.upgraded_valid).1.acyclic⟩

end DalecHomebrew.Resolution
