import DalecHomebrew.CatalogResolver.Resolver
import Mathlib.Data.List.TakeWhile

/-!
# Correctness of resolved closures

What a closure is for is said without the worklist: `DependsOn` relates an
identity to the normalized runtime dependencies that its record selects for the
platform, and a set of identities is `Closed` when it holds the normalized roots
and follows this relation.  The worklist invariant `Sound` ties every recorded
node and edge to `DependsOn`; when the queue is empty the nodes are the least
closed set, and the depth-first order of the recorded edges is a topological
order of `DependsOn`.
-/

namespace DalecHomebrew.CatalogResolver

open Catalog Foundation Homebrew Policy

/-! ## The specification -/

/--
The dependency names that a record declares for a bottle tag: those of the
overriding variation of the tag, or else the ones of the Formula.
-/
def FormulaSource.runtimeDependencies (tag : String) : FormulaSource → List String
  | .core formula _ => formula.dependenciesFor tag
  | .external formula _ =>
    let overrides := formula.variations.filter fun variation =>
      variation.tag == tag && variation.overridesDependencies
    (((overrides.getLast?.map FormulaVariation.dependencies).getD formula.dependencies).map
      Dependency.raw)

section Specification

variable (resolver : Resolver) (platform : Platform)

/-- `id` is canonical, and `source` is its record. -/
def Canonical (id : FormulaID) (source : FormulaSource) : Prop :=
  (resolver.lookupExact id).result = .ok (id, source)

/-- A dependency name of a Formula of tap `owner` normalizes to an identity. -/
def Normalizes (owner : TapID) (raw : String) (id : FormulaID) : Prop :=
  ∃ source, (resolver.normalizeDependency owner raw).result = .ok (id, source)

/-- The normalized runtime dependencies of an identity for a platform. -/
def DependsOn (id dependency : FormulaID) : Prop :=
  ∃ source, Canonical resolver id source ∧ ∃ raw ∈ source.runtimeDependencies (bottleTag platform),
      Normalizes resolver (FormulaID.tap id) raw dependency

/-- A root normalizes to an identity. -/
def NormalizesRoot (raw id : FormulaID) : Prop :=
  ∃ source, (resolver.lookupExact raw).result = .ok (id, source)

/-- Sets that hold the normalized roots and follow runtime dependencies. -/
structure Closed (roots : List FormulaID) (set : Set FormulaID) : Prop where
  roots : ∀ raw ∈ roots, ∀ id, NormalizesRoot resolver raw id → id ∈ set
  dependencies : ∀ id ∈ set, ∀ dependency, DependsOn resolver platform id dependency →
    dependency ∈ set

/-- A node records the dependencies of its identity, each with its normalized identity. -/
structure Records (id : FormulaID) (node : Node) : Prop where
  id_eq : node.id = id
  edges : ∃ source, Canonical resolver id source ∧ (node.dependencies.map Requirement.raw).Perm
      (source.runtimeDependencies (bottleTag platform)) ∧
    ∀ edge ∈ node.dependencies, Normalizes resolver (FormulaID.tap id) edge.raw edge.id

/-- The contract of `Resolve`. -/
structure CorrectClosure (roots : List FormulaID) (closure : ClosureResult) : Prop where
  /-- Every root normalizes, and the closure records to what. -/
  requested : List.Forall₂ (NormalizesRoot resolver) roots closure.requested
  /-- The node identities are the least closed set. -/
  least : IsLeast {set | Closed resolver platform roots set}
    {id | id ∈ closure.nodes.map Node.id}
  /-- Every node records exactly its runtime dependencies. -/
  recorded : ∀ node ∈ closure.nodes, Records resolver platform node.id node
  /-- Every recorded edge points to a node. -/
  edges : ∀ node ∈ closure.nodes, ∀ edge ∈ node.dependencies, edge.id ∈ closure.nodes.map Node.id
  /-- The install order lists each node once. -/
  once : closure.installOrder.Nodup ∧
    ∀ id, id ∈ closure.installOrder ↔ id ∈ closure.nodes.map Node.id
  /-- The install order lists all transitive dependencies of a node before it. -/
  before : ∀ earlier id later, closure.installOrder = earlier ++ id :: later →
    ∀ dependency, Relation.TransGen (DependsOn resolver platform) id dependency →
      dependency ∈ earlier

end Specification

section Model

variable {resolver : Resolver} {platform : Platform}

/-! ## Declared dependencies -/

variable {tag : String}

theorem overlay_dependencies {variations : List FormulaVariation} {selected result : Overlay}
    (loop : variations.foldlM (overlay tag) selected = .ok result) :
    result.dependencies = (((variations.filter fun variation =>
        variation.tag == tag && variation.overridesDependencies).getLast?.map
          FormulaVariation.dependencies).getD selected.dependencies) := by
  induction variations generalizing selected with
  | nil =>
    obtain rfl := foldlM_nil_eq_ok.mp loop
    rfl
  | cons variation rest ih =>
    obtain ⟨middle, first, later⟩ := foldlM_cons_eq_ok.mp loop
    rw [ih later, List.filter_cons]
    by_cases other : variation.tag = tag
    · cases unavailable : variation.unavailable with
      | true => simp [overlay, other, unavailable] at first
      | false =>
        obtain rfl : _ = middle := by
          simpa [overlay, other, unavailable] using first
        cases overrides : variation.overridesDependencies with
        | false => simp [other]
        | true =>
          -- a later override of the tag still wins over this one
          simp only [other, beq_self_eq_true, Bool.and_self, if_true]
          rw [List.getLast?_cons]
          cases (rest.filter fun variation =>
            variation.tag == tag && variation.overridesDependencies).getLast? <;> simp
    · obtain rfl : selected = middle := by simpa [overlay, other] using first
      simp [other]

variable {node : Node} {dependencies : List Requirement}

theorem coreNode_spec {formula : Metadata.Formula} {id : FormulaID}
    (result : coreNode formula id tag = .ok (node, dependencies)) :
    node.id = id ∧ dependencies.map Requirement.raw = formula.dependenciesFor tag := by
  unfold coreNode at result
  split at result
  · cases result
  · split at result
    · cases result
    · obtain ⟨rfl, rfl⟩ := Prod.mk.inj (Except.ok.inj result)
      exact ⟨rfl, by simp [Function.comp_def]⟩

variable {requestedRoot : Bool}

theorem externalNode_spec {formula : Catalog.Formula} {id : FormulaID}
    (result : resolver.externalNode formula id platform tag requestedRoot =
      .ok (node, dependencies)) :
    node.id = id ∧ dependencies.map Requirement.raw =
        (FormulaSource.external formula id).runtimeDependencies tag := by
  unfold Resolver.externalNode at result
  cases disabled : formula.disabled with
  | true =>
    rw [disabled, if_pos rfl, throw_bind] at result
    cases result
  | false =>
    simp only [disabled, Bool.false_eq_true, if_false, bind_eq_ok] at result
    obtain ⟨rebuild, _, selected, loop, made⟩ := result
    obtain ⟨rfl, rfl⟩ := Prod.mk.inj (Except.ok.inj made)
    refine ⟨rfl, ?_⟩
    simp [FormulaSource.runtimeDependencies, overlay_dependencies loop, Function.comp_def]

theorem nodeAndDependencies_spec {source : FormulaSource}
    (result : resolver.nodeAndDependencies source platform tag requestedRoot =
      .ok (node, dependencies)) :
    node.id = source.id ∧ dependencies.map Requirement.raw = source.runtimeDependencies tag := by
  cases source with
  | core formula id => exact coreNode_spec result
  | external formula id => exact externalNode_spec result

section

variable {id canonical : FormulaID} {source : FormulaSource}
  (result : (resolver.lookupExact id).result = .ok (canonical, source))

include result

/-- What an exact lookup answers: a Formula of core, directly or behind mappings, or one of a tap. -/
theorem lookupExact_cases :
    (∃ found : Metadata.Match, parseFormulaID found.canonical = .ok canonical ∧
      source = .core found.formula canonical ∧
      (FormulaID.isCore id = true ∨
        (resolver.resolveMapping id).result = .ok canonical ∧ FormulaID.isCore canonical = true)) ∨
    ∃ formula, (resolver.resolveMapping id).result = .ok canonical ∧
      source = .external formula canonical ∧
      resolver.formulae.lookup canonical = some formula := by
  unfold Resolver.lookupExact at result
  split at result
  · rename_i inCore
    unfold Resolver.lookupCore at result
    repeat' split at result
    all_goals cases result
    rename_i found _ _ parsed
    exact .inl ⟨found, parsed, rfl, .inl inCore⟩
  · obtain ⟨resolved, mapped, answered⟩ := bind_eq_ok.mp result
    clear result
    split at answered
    · rename_i inCore
      unfold Resolver.lookupMigrated at answered
      repeat' split at answered
      all_goals cases answered
      rename_i found _ _ parsed same
      obtain rfl := not_not.mp same
      exact .inl ⟨found, parsed, rfl, .inr ⟨mapped, inCore⟩⟩
    · unfold Resolver.lookupExternal at answered
      repeat' split at answered
      all_goals cases answered
      rename_i formula _ found
      exact .inr ⟨formula, mapped, rfl, found⟩

/-- The record of a lookup carries the identity the lookup answers with. -/
theorem lookupExact_id :
    source.id = canonical := by
  rcases lookupExact_cases result with ⟨found, _, rfl, _⟩ | ⟨formula, _, rfl, _⟩
  · rfl
  · rfl

end

/-! ## The edges of one node -/

/-- The effect of the loop over the dependencies of `id`. -/
structure Extended (resolver : Resolver) (id : FormulaID) (dependencies edges : List Requirement)
    (source target : Worklist) : Prop where
  raws : edges.map Requirement.raw = dependencies.map Requirement.raw
  normal : ∀ edge ∈ edges, Normalizes resolver (FormulaID.tap id) edge.raw edge.id
  nodes : target.nodes = source.nodes
  slice : target.graph.slice id = source.graph.slice id ++ edges
  others : ∀ other, other ≠ id → target.graph.lookup other = source.graph.lookup other
  kept : source.queue ⊆ target.queue
  queued : ∀ pending ∈ target.queue, pending ∈ source.queue ∨ pending ∈ edges.map Requirement.id
  covered : ∀ edge ∈ edges, edge.id ∈ source.nodes ∨ edge.id ∈ target.queue

variable {id : FormulaID} {worklist : Worklist}

theorem Extended.nil : Extended resolver id [] [] worklist worklist where
  raws := rfl
  normal := by simp
  nodes := rfl
  slice := by simp
  others := fun _ _ => rfl
  kept := List.Subset.refl _
  queued := fun _ member => .inl member
  covered := by simp

theorem Extended.cons {dependency edge : Requirement}
    {dependencies edges : List Requirement} {source target : Worklist} {taps : List TapID}
    (raw : edge.raw = dependency.raw)
    (normal : Normalizes resolver (FormulaID.tap id) edge.raw edge.id)
    (rest : Extended resolver id dependencies edges (source.record id edge taps) target) :
    Extended resolver id (dependency :: dependencies) (edge :: edges) source target where
  raws := by simp [raw, rest.raws]
  normal := by
    intro other member
    rcases List.mem_cons.mp member with rfl | later
    · exact normal
    · exact rest.normal other later
  nodes := rest.nodes
  slice := by
    rw [rest.slice]
    simp [Worklist.record, Table.slice, AList.lookup_insert]
  others := by
    intro other different
    rw [rest.others other different]
    exact AList.lookup_insert_ne different
  kept := by
    refine List.Subset.trans ?_ rest.kept
    simp only [Worklist.record]
    split
    · exact List.Subset.refl _
    · exact List.subset_append_left _ _
  queued := by
    intro pending member
    rcases rest.queued pending member with old | later
    · simp only [Worklist.record] at old
      split at old
      · exact .inl old
      · rcases List.mem_append.mp old with older | single
        · exact .inl older
        · exact .inr (by simp [List.mem_singleton.mp single])
    · exact .inr (List.mem_cons_of_mem _ later)
  covered := by
    intro other member
    rcases List.mem_cons.mp member with rfl | later
    · by_cases known : (source.nodes.lookup other.id).isSome
      · exact .inl (AList.lookup_isSome.mp known)
      · exact .inr (rest.kept (by simp [Worklist.record, known]))
    · exact rest.covered other later

/-- The edge that the worklist records for a declared dependency of a Formula of `owner`. -/
def Recorded (resolver : Resolver) (owner : TapID) (dependency edge : Requirement) : Prop :=
  ∃ found, (resolver.normalizeDependency owner dependency.raw).result = .ok found ∧
    (dependency.id = "" ∨ dependency.id = found.1) ∧ edge = { dependency with id := found.1 }

@[simp]
theorem mem_markTaps {used taps : List TapID} {tap : TapID} :
    tap ∈ markTaps used taps ↔ tap ∈ used ∨ tap ∈ taps := by
  unfold markTaps
  induction taps generalizing used with
  | nil => simp
  | cons head rest ih =>
    rw [List.foldl_cons, ih, List.mem_insert_iff, List.mem_cons]
    tauto

theorem recorded_of_loop : ∀ {source target : Worklist},
      dependencies.foldlM (resolver.addDependency id) source = .ok target →
      ∃ edges, Extended resolver id dependencies edges source target ∧
        List.Forall₂ (Recorded resolver (FormulaID.tap id)) dependencies edges ∧
        ∀ tap, tap ∈ target.used ↔ tap ∈ source.used ∨ tap ∈ dependencies.flatMap fun dependency =>
          (resolver.normalizeDependency (FormulaID.tap id) dependency.raw).taps := by
  induction dependencies with
  | nil =>
    intro source target loop
    obtain rfl := foldlM_nil_eq_ok.mp loop
    exact ⟨[], Extended.nil, .nil, by simp⟩
  | cons dependency rest ih =>
    intro source target loop
    obtain ⟨middle, first, later⟩ := foldlM_cons_eq_ok.mp loop
    obtain ⟨found, normal, claimed, rfl⟩ := Resolver.addDependency_eq_ok.mp first
    obtain ⟨edges, extended, recorded, used⟩ := ih later
    refine ⟨{ dependency with id := found.1 } :: edges,
      Extended.cons rfl ⟨found.2, normal⟩ extended,
      .cons ⟨found, normal, claimed, rfl⟩ recorded, ?_⟩
    intro tap
    rw [used tap]
    simp only [Worklist.record, mem_markTaps, List.flatMap_cons, List.mem_append]
    tauto

theorem slice_sortEdges (graph : Table FormulaID (List Requirement)) (id : FormulaID) :
    (sortEdges graph id).slice id = sortByKey Requirement.id (graph.slice id) := by
  unfold sortEdges Table.slice
  cases found : graph.lookup id with
  | none =>
    simp [found]
    rfl
  | some edges => simp [AList.lookup_insert]

theorem lookup_sortEdges_ne {graph : Table FormulaID (List Requirement)} {other : FormulaID}
    (different : other ≠ id) :
    (sortEdges graph id).lookup other = graph.lookup other := by
  unfold sortEdges
  split
  · rfl
  · exact AList.lookup_insert_ne different

/-! ## The worklist invariant -/

/-- Identities that the roots depend on. -/
def Reached (resolver : Resolver) (platform : Platform) (requested : List FormulaID)
    (id : FormulaID) : Prop :=
  ∃ root ∈ requested, Relation.ReflTransGen (DependsOn resolver platform) root id

/-- The loop invariant of the worklist. -/
structure Worklist.Sound (resolver : Resolver) (platform : Platform) (requested : List FormulaID)
    (worklist : Worklist) : Prop where
  queued : ∀ id ∈ worklist.queue, Reached resolver platform requested id
  node : ∀ id node, worklist.nodes.lookup id = some node →
    Reached resolver platform requested id ∧ Records resolver platform id node ∧
      worklist.graph.slice id = node.dependencies
  covered : ∀ id node, worklist.nodes.lookup id = some node →
    ∀ edge ∈ node.dependencies, edge.id ∈ worklist.nodes ∨ edge.id ∈ worklist.queue
  roots : ∀ root ∈ requested, root ∈ worklist.nodes ∨ root ∈ worklist.queue
  graph : ∀ id, worklist.nodes.lookup id = none → worklist.graph.lookup id = none

variable {requested : List FormulaID}

theorem sound_initial (used : List TapID) :
    Worklist.Sound resolver platform requested
      { queue := requested, nodes := ∅, graph := ∅, used } where
  queued := fun id member => ⟨id, member, .refl⟩
  node := by simp
  covered := by simp
  roots := fun _ member => .inr member
  graph := by simp

/-- Popping queued identities that have a node keeps the invariant. -/
theorem Worklist.Sound.skip (sound : worklist.Sound resolver platform requested) :
    Worklist.Sound resolver platform requested
      { worklist with queue := worklist.queue.dropWhile worklist.done } := by
  have moved : ∀ other, other ∈ worklist.nodes ∨ other ∈ worklist.queue →
      other ∈ worklist.nodes ∨ other ∈ worklist.queue.dropWhile worklist.done := by
    rintro other (member | member)
    · exact .inl member
    · have split := List.takeWhile_append_dropWhile (p := worklist.done) (l := worklist.queue)
      rw [← split, List.mem_append] at member
      rcases member with popped | kept
      · have known : worklist.done other = true := List.mem_takeWhile_imp popped
        exact .inl (AList.lookup_isSome.mp known)
      · exact .inr kept
  exact {
    queued := fun other member => sound.queued other ((List.dropWhile_sublist _).subset member)
    node := sound.node
    covered := fun other node found edge member => moved edge.id
      (sound.covered other node found edge member)
    roots := fun root member => moved root (sound.roots root member)
    graph := sound.graph }

/-- Completing the node of the first queued identity keeps the invariant. -/
theorem Worklist.Sound.expand {expanded : Worklist}
    {rest : List FormulaID} (sound : worklist.Sound resolver platform requested)
    (pending : worklist.queue = id :: rest) (unknown : worklist.nodes.lookup id = none)
    (result : resolver.expand platform requested { worklist with queue := rest } id =
      .ok expanded) :
    expanded.Sound resolver platform requested := by
  obtain ⟨source, node, dependencies, extended, looked, declared, loop, rfl⟩ :=
    Resolver.expand_eq_ok.mp result
  obtain ⟨edges, effect, -⟩ := recorded_of_loop loop
  obtain ⟨nodeID, raws⟩ := nodeAndDependencies_spec declared
  rw [lookupExact_id looked] at nodeID
  have nodes : extended.nodes = worklist.nodes := effect.nodes
  have fresh : worklist.graph.slice id = [] := by
    simp [Table.slice, sound.graph id unknown]
  have recorded : (sortEdges extended.graph id).slice id = sortByKey Requirement.id edges := by
    rw [slice_sortEdges, effect.slice]
    simp [fresh]
  have reachedID : Reached resolver platform requested id :=
    sound.queued id (by simp [pending])
  -- the recorded edges are dependencies of `id` in the sense of the specification
  have dependsOn : ∀ edge ∈ edges, DependsOn resolver platform id edge.id := by
    intro edge member
    refine ⟨source, looked, edge.raw, ?_, effect.normal edge member⟩
    rw [← raws, ← effect.raws]
    exact List.mem_map_of_mem member
  have reachedEdge : ∀ edge ∈ edges, Reached resolver platform requested edge.id := by
    intro edge member
    obtain ⟨root, rootMember, path⟩ := reachedID
    exact ⟨root, rootMember, path.tail (dependsOn edge member)⟩
  have moved : ∀ other, other ∈ worklist.nodes ∨ other ∈ worklist.queue →
      other ∈ (extended.complete id node).nodes ∨ other ∈ extended.queue := by
    rintro other (member | member)
    · exact .inl ((AList.mem_insert _).mpr (.inr (nodes.symm ▸ member)))
    · rw [pending] at member
      rcases List.mem_cons.mp member with rfl | later
      · exact .inl ((AList.mem_insert _).mpr (.inl rfl))
      · exact .inr (effect.kept later)
  refine ⟨?_, ?_, ?_, ?_, ?_⟩
  · intro other member
    rcases effect.queued other member with old | new
    · exact sound.queued other (by simp [pending, old])
    · obtain ⟨edge, edgeMember, rfl⟩ := List.mem_map.mp new
      exact reachedEdge edge edgeMember
  · intro other found lookup
    rcases Table.lookup_insert_eq_some.mp lookup with ⟨rfl, rfl⟩ | ⟨same, old⟩
    · refine ⟨reachedID, ⟨nodeID, source, looked, ?_, ?_⟩, rfl⟩
      · rw [recorded, ← raws, ← effect.raws]
        exact (sortByKey_perm _ _).map _
      · intro edge member
        rw [recorded, mem_sortByKey] at member
        exact effect.normal edge member
    · obtain ⟨reached, records, slice⟩ := sound.node other found (nodes ▸ old)
      refine ⟨reached, records, ?_⟩
      simp only [Worklist.complete, Table.slice, lookup_sortEdges_ne same, effect.others other same]
      exact slice
  · intro other found lookup edge member
    rcases Table.lookup_insert_eq_some.mp lookup with ⟨rfl, rfl⟩ | ⟨_, old⟩
    · rw [recorded, mem_sortByKey] at member
      rcases effect.covered edge member with known | queued
      · exact moved edge.id (.inl known)
      · exact .inr queued
    · exact moved edge.id (sound.covered other found (nodes ▸ old) edge member)
  · exact fun root member => moved root (sound.roots root member)
  · intro other missing
    by_cases same : other = id
    · subst same
      simp [Worklist.complete, AList.lookup_insert] at missing
    · simp only [Worklist.complete, AList.lookup_insert_ne same, nodes] at missing
      simp only [Worklist.complete, lookup_sortEdges_ne same, effect.others other same]
      exact sound.graph other missing

/-- The identity that a round takes from the queue has no node yet. -/
theorem Worklist.lookup_of_pending {rest : List FormulaID}
    (pending : worklist.queue.dropWhile worklist.done = id :: rest) :
    worklist.nodes.lookup id = none := by
  have notDone := List.head?_dropWhile_not worklist.done worklist.queue
  rw [pending] at notDone
  simpa [Worklist.done] using notDone

variable {budget : Nat} {drained : Worklist}

/-- What skipping and the rounds keep, the run keeps, and it ends with an empty queue. -/
theorem drain_induction {motive : Worklist → Prop}
    (skipped : ∀ worklist, motive worklist →
      motive { worklist with queue := worklist.queue.dropWhile worklist.done })
    (kept : ∀ worklist id rest expanded, motive worklist → worklist.queue = id :: rest →
      worklist.nodes.lookup id = none →
      resolver.expand platform requested { worklist with queue := rest } id = .ok expanded →
      motive expanded)
    (result : resolver.drain platform requested budget worklist = .ok drained)
    (holds : motive worklist) :
    motive drained ∧ drained.queue = [] := by
  fun_induction Resolver.drain resolver platform requested budget worklist with
  | case1 budget worklist empty =>
    obtain rfl := Except.ok.inj result
    exact ⟨empty ▸ skipped _ holds, rfl⟩
  | case2 | case3 => cases result
  | case4 worklist id rest budget pending expanded step ih =>
    have unknown := Worklist.lookup_of_pending pending
    exact ih result (kept _ id rest expanded (skipped _ holds) pending unknown step)

theorem drain_sound (sound : worklist.Sound resolver platform requested)
    (result : resolver.drain platform requested budget worklist = .ok drained) :
    drained.Sound resolver platform requested ∧ drained.queue = [] :=
  drain_induction (fun _ => .skip) (fun _ _ _ _ sound => sound.expand) result sound

/-! ## The finished worklist -/

/-- A worklist at the end of its loop. -/
structure Worklist.Finished (resolver : Resolver) (platform : Platform) (requested : List FormulaID)
    (worklist : Worklist) : Prop where
  sound : worklist.Sound resolver platform requested
  empty : worklist.queue = []

namespace Worklist.Finished

variable {worklist : Worklist} (finished : worklist.Finished resolver platform requested)
include finished

theorem root_mem {root : FormulaID} (member : root ∈ requested) : root ∈ worklist.nodes := by
  rcases finished.sound.roots root member with known | queued
  · exact known
  · simp [finished.empty] at queued

theorem edge_mem {id : FormulaID} {edge : Requirement}
    (found : worklist.nodes.lookup id = some node) (member : edge ∈ node.dependencies) :
    edge.id ∈ worklist.nodes := by
  rcases finished.sound.covered id node found edge member with known | queued
  · exact known
  · simp [finished.empty] at queued

section

variable {id dependency : FormulaID} (known : id ∈ worklist.nodes)

include known

/-- The recorded edges of a node are its runtime dependencies. -/
theorem successor_iff :
    dependency ∈ successors worklist.graph id ↔ DependsOn resolver platform id dependency := by
  obtain ⟨node, found⟩ := Option.isSome_iff_exists.mp (AList.lookup_isSome.mpr known)
  obtain ⟨_, ⟨_, source, canonical, raws, normal⟩, slice⟩ := finished.sound.node id node found
  rw [successors, slice, List.mem_map]
  constructor
  · rintro ⟨edge, member, rfl⟩
    exact ⟨source, canonical, edge.raw, raws.mem_iff.mp (List.mem_map_of_mem member),
      normal edge member⟩
  · rintro ⟨other, otherCanonical, raw, rawMember, depSource, normalized⟩
    have same : source = other := by
      have both := canonical.symm.trans otherCanonical
      simpa using both
    subst same
    obtain ⟨edge, member, rfl⟩ := List.mem_map.mp (raws.mem_iff.mpr rawMember)
    obtain ⟨edgeSource, edgeNormalized⟩ := normal edge member
    have both := edgeNormalized.symm.trans normalized
    simp only [Except.ok.injEq, Prod.mk.injEq] at both
    exact ⟨edge, member, both.1⟩

theorem successor_mem (edge : dependency ∈ successors worklist.graph id) :
    dependency ∈ worklist.nodes := by
  obtain ⟨node, found⟩ := Option.isSome_iff_exists.mp (AList.lookup_isSome.mpr known)
  obtain ⟨_, _, slice⟩ := finished.sound.node id node found
  rw [successors, slice, List.mem_map] at edge
  obtain ⟨requirement, member, rfl⟩ := edge
  exact finished.edge_mem found member

theorem dependsOn_mem (edge : DependsOn resolver platform id dependency) :
    dependency ∈ worklist.nodes :=
  finished.successor_mem known ((finished.successor_iff known).mpr edge)

end

variable {id reached : FormulaID}

/-- Paths of dependencies that start at a node are paths of recorded edges. -/
theorem path_of_dependsOn (known : id ∈ worklist.nodes)
    (path : Relation.ReflTransGen (DependsOn resolver platform) id reached) :
    reached ∈ worklist.nodes ∧
      Relation.ReflTransGen (DepthFirst.Edge (successors worklist.graph)) id reached := by
  induction path with
  | refl => exact ⟨known, .refl⟩
  | tail _ edge ih =>
    exact ⟨finished.dependsOn_mem ih.1 edge, ih.2.tail ((finished.successor_iff ih.1).mpr edge)⟩

theorem transGen_of_dependsOn (known : id ∈ worklist.nodes)
    (path : Relation.TransGen (DependsOn resolver platform) id reached) :
    Relation.TransGen (DepthFirst.Edge (successors worklist.graph)) id reached := by
  obtain ⟨middle, start, edge⟩ := Relation.TransGen.tail'_iff.mp path
  obtain ⟨middleKnown, recorded⟩ := finished.path_of_dependsOn known start
  exact Relation.TransGen.tail'_iff.mpr
    ⟨middle, recorded, (finished.successor_iff middleKnown).mpr edge⟩

/-- The identities with a node are those that the recorded edges reach from the roots. -/
theorem mem_iff_reachable : id ∈ worklist.nodes ↔ ∃ root ∈ requested,
      Relation.ReflTransGen (DepthFirst.Edge (successors worklist.graph)) root id := by
  constructor
  · intro known
    obtain ⟨node, found⟩ := Option.isSome_iff_exists.mp (AList.lookup_isSome.mpr known)
    obtain ⟨⟨root, member, path⟩, _⟩ := finished.sound.node id node found
    exact ⟨root, member, (finished.path_of_dependsOn (finished.root_mem member) path).2⟩
  · rintro ⟨root, member, path⟩
    induction path with
    | refl => exact finished.root_mem member
    | tail _ edge ih => exact finished.successor_mem ih edge

/-- The nodes are contained in every set that is closed under the dependencies of the roots. -/
theorem mem_of_closed {set : Set FormulaID} (known : id ∈ worklist.nodes)
    (roots : ∀ root ∈ requested, root ∈ set)
    (follows : ∀ id ∈ set, ∀ dependency, DependsOn resolver platform id dependency →
      dependency ∈ set) :
    id ∈ set := by
  obtain ⟨node, found⟩ := Option.isSome_iff_exists.mp (AList.lookup_isSome.mpr known)
  obtain ⟨root, member, path⟩ := (finished.sound.node id node found).1
  clear found known
  induction path with
  | refl => exact roots root member
  | tail _ edge ih => exact follows _ ih _ edge

end Worklist.Finished

/-! ## The install order -/

theorem vertices_closed (graph : Table FormulaID (List Requirement)) (roots : List FormulaID) :
    ∀ id ∈ vertices graph roots, successors graph id ⊆ vertices graph roots := by
  intro id _ dependency edge
  refine List.mem_append_right _ (List.mem_flatMap.mpr ⟨id, ?_, List.mem_cons_of_mem _ edge⟩)
  rw [← AList.mem_keys, ← AList.lookup_isSome]
  cases found : graph.lookup id with
  | none => simp [successors, Table.slice, found] at edge
  | some edges => rfl

variable {roots raws : List FormulaID}

theorem topo_spec {graph : Table FormulaID (List Requirement)} {order : List FormulaID}
    (result : topo graph roots = .ok order) :
    order.Nodup ∧ DepthFirst.Ordered (successors graph) order ∧ ∀ id, id ∈ order ↔
        ∃ root ∈ roots, Relation.ReflTransGen (DepthFirst.Edge (successors graph)) root id := by
  unfold topo at result
  split at result
  · rename_i search visited
    obtain rfl := Except.ok.inj result
    exact DepthFirst.visitAll_spec visited
  · cases result
  · cases result

/-! ## Roots -/

theorem Resolver.addRoot_eq_ok {roots collected : Roots} {raw : FormulaID} :
    resolver.addRoot roots raw = .ok collected ↔
      ∃ found, FormulaID.validate raw = .ok () ∧ (resolver.lookupExact raw).result = .ok found ∧
        found.1 ∉ roots.requested ∧
        collected = {
          requested := roots.requested ++ [found.1]
          mappings := roots.mappings ++ [{ requested := raw, resolved := found.1 }]
          used := markTaps roots.used (resolver.lookupExact raw).taps } := by
  simp only [addRoot, bind_eq_ok, within_eq_ok, check_eq_ok]
  constructor
  · rintro ⟨_, valid, found, looked, result⟩
    by_cases duplicate : found.1 ∈ roots.requested
    · rw [if_pos duplicate, throw_bind] at result
      cases result
    · rw [if_neg duplicate] at result
      exact ⟨found, valid, looked, duplicate, (Except.ok.inj result).symm⟩
  · rintro ⟨found, valid, looked, new, rfl⟩
    refine ⟨(), valid, found, looked, ?_⟩
    rw [if_neg new]
    rfl

/-- The mapping that the loop over the roots records for one of them. -/
def rootMapping (raw id : FormulaID) : RequestedMapping where
  requested := raw
  resolved := id

/-- What the loop over the roots collects. -/
structure Roots.Collects (resolver : Resolver) (raws ids : List FormulaID)
    (source target : Roots) : Prop where
  valid : ∀ raw ∈ raws, FormulaID.validate raw = .ok ()
  normal : List.Forall₂ (NormalizesRoot resolver) raws ids
  requested : target.requested = source.requested ++ ids
  mappings : target.mappings = source.mappings ++ List.zipWith rootMapping raws ids
  used : ∀ tap, tap ∈ target.used ↔
    tap ∈ source.used ∨ ∃ raw ∈ raws, tap ∈ (resolver.lookupExact raw).taps
  distinct : source.requested.Nodup → target.requested.Nodup

theorem collects_of_loop :
    ∀ {source target : Roots}, raws.foldlM resolver.addRoot source = .ok target →
      ∃ ids, Roots.Collects resolver raws ids source target := by
  induction raws with
  | nil =>
    intro source target loop
    obtain rfl := foldlM_nil_eq_ok.mp loop
    exact ⟨[], by simp, .nil, by simp, by simp, by simp, id⟩
  | cons raw rest ih =>
    intro source target loop
    obtain ⟨middle, first, later⟩ := foldlM_cons_eq_ok.mp loop
    obtain ⟨found, valid, looked, new, rfl⟩ := Resolver.addRoot_eq_ok.mp first
    obtain ⟨ids, collects⟩ := ih later
    refine ⟨found.1 :: ids, ?_, .cons ⟨found.2, looked⟩ collects.normal, ?_, ?_, ?_, ?_⟩
    · intro other member
      rcases List.mem_cons.mp member with rfl | among
      · exact valid
      · exact collects.valid other among
    · simp [collects.requested]
    · simp [collects.mappings, rootMapping]
    · intro tap
      rw [collects.used tap]
      simp only [mem_markTaps, List.exists_mem_cons_iff]
      tauto
    · intro distinct
      refine collects.distinct (List.nodup_append.mpr ⟨distinct, List.nodup_singleton _, ?_⟩)
      intro other among single member same
      exact new (by rw [← List.mem_singleton.mp member, ← same]; exact among)

/-- A normalized root of the list is one of the normalized identities, and the other way round. -/
theorem root_of_forall₂ {ids : List FormulaID}
    (normals : List.Forall₂ (NormalizesRoot resolver) raws ids) :
    id ∈ ids ↔ ∃ raw ∈ raws, NormalizesRoot resolver raw id := by
  induction normals with
  | nil => simp
  | @cons raw first raws ids normal rest ih =>
    have unique : NormalizesRoot resolver raw id ↔ id = first := by
      obtain ⟨source, found⟩ := normal
      constructor
      · rintro ⟨other, otherFound⟩
        have both := otherFound.symm.trans found
        simp only [Except.ok.injEq, Prod.mk.injEq] at both
        exact both.1
      · rintro rfl
        exact ⟨source, found⟩
    simp [ih, unique]

/-! ## The resolved closure -/

variable {closure : ClosureResult}

theorem resolve_spec (result : resolver.resolve roots platform = .ok closure) :
    ∃ worklist : Worklist, List.Forall₂ (NormalizesRoot resolver) roots closure.requested ∧
      worklist.Finished resolver platform closure.requested ∧
      topo worklist.graph closure.requested = .ok closure.installOrder ∧
      closure.nodes = sortByKey Node.id worklist.nodes.values := by
  simp only [Resolver.resolve, bind_eq_ok] at result
  obtain ⟨_, _, result⟩ := result
  split at result
  · rw [throw_bind] at result
    cases result
  obtain ⟨collected, loop, worklist, drained, _, _, order, ordered, _, _, made⟩ :=
    by simpa only [bind_eq_ok] using result
  obtain rfl := Except.ok.inj made
  obtain ⟨ids, collects⟩ := collects_of_loop loop
  obtain ⟨sound, empty⟩ := drain_sound (sound_initial collected.used) drained
  refine ⟨worklist, ?_, ⟨sound, empty⟩, ordered, rfl⟩
  simpa [collects.requested] using collects.normal

theorem Worklist.Finished.mem_nodes {nodes : List Node}
    (finished : worklist.Finished resolver platform requested)
    (listed : nodes = sortByKey Node.id worklist.nodes.values) :
    id ∈ nodes.map Node.id ↔ id ∈ worklist.nodes := by
  rw [listed, List.mem_map, ← AList.lookup_isSome, Option.isSome_iff_exists]
  constructor
  · rintro ⟨node, member, rfl⟩
    obtain ⟨key, found⟩ := Table.mem_values.mp (mem_sortByKey.mp member)
    obtain ⟨_, records, _⟩ := finished.sound.node key node found
    exact ⟨node, by rw [records.id_eq, found]⟩
  · rintro ⟨node, found⟩
    obtain ⟨_, records, _⟩ := finished.sound.node id node found
    exact ⟨node, mem_sortByKey.mpr (Table.mem_values.mpr ⟨id, found⟩), records.id_eq⟩

theorem correctClosure_of_resolve (result : resolver.resolve roots platform = .ok closure) :
    CorrectClosure resolver platform roots closure := by
  obtain ⟨worklist, normals, finished, ordered, listed⟩ := resolve_spec result
  obtain ⟨distinct, order, orderMem⟩ := topo_spec ordered
  have nodeMem : ∀ {id}, id ∈ closure.nodes.map Node.id ↔ id ∈ worklist.nodes :=
    finished.mem_nodes listed
  have lookupNode : ∀ node ∈ closure.nodes, worklist.nodes.lookup node.id = some node := by
    intro node member
    rw [listed, mem_sortByKey] at member
    obtain ⟨key, found⟩ := Table.mem_values.mp member
    rw [(finished.sound.node key node found).2.1.id_eq, found]
  have installed : ∀ id, id ∈ closure.installOrder ↔ id ∈ closure.nodes.map Node.id := by
    intro id
    rw [orderMem, nodeMem, finished.mem_iff_reachable]
  refine {
    requested := normals
    least := ⟨⟨?_, ?_⟩, ?_⟩
    recorded := fun node member => (finished.sound.node _ _ (lookupNode node member)).2.1
    edges := fun node member edge edgeMember =>
      nodeMem.mpr (finished.edge_mem (lookupNode node member) edgeMember)
    once := ⟨distinct, installed⟩
    before := ?_ }
  · intro raw member id normal
    exact nodeMem.mpr (finished.root_mem ((root_of_forall₂ normals).mpr ⟨raw, member, normal⟩))
  · intro id member dependency edge
    exact nodeMem.mpr (finished.dependsOn_mem (nodeMem.mp member) edge)
  · intro set closed id member
    refine finished.mem_of_closed (nodeMem.mp member) ?_ closed.dependencies
    intro root rootMember
    obtain ⟨raw, rawMember, normal⟩ := (root_of_forall₂ normals).mp rootMember
    exact closed.roots raw rawMember root normal
  · intro earlier id later split dependency path
    have known : id ∈ worklist.nodes := by
      rw [← nodeMem, ← installed, split]
      simp
    exact order.transitive split (finished.transGen_of_dependsOn known path)

/--
Every closure that `Resolve` returns is the least set of identities that holds
the normalized roots and is closed under the normalized runtime dependencies of
the platform; its edges stay inside it, and its install order lists each node
once, after all its transitive dependencies.
-/
theorem resolve_correct (resolver : Resolver) (platform : Platform) (roots : List FormulaID)
    (closure : ClosureResult) (result : resolver.resolve roots platform = .ok closure) :
    CorrectClosure resolver platform roots closure :=
  correctClosure_of_resolve result

end Model

/-! ## A closure over a tap and core -/

namespace Sample

def zlib : Metadata.Formula where
  name := "zlib"
  fullName := "homebrew/core/zlib"
  stableVersion := "1.3"
  revision := 0
  versionScheme := 0
  bottle := some {
    rebuild := 0
    rootURL := ""
    files := [{ tag := "all", cellar := "any", url := "", sha256 := "" }] }

def coreCatalog : Metadata.Catalog where
  canonical := (∅ : Table String Metadata.Formula).insert "zlib" zlib

def tool : Catalog.Formula where
  id := "acme/tools/tool"
  name := "tool"
  homebrewFullName := "acme/tools/tool"
  sourcePath := "Formula/tool.rb"
  sourceDigest := ""
  stableVersion := "2.0"
  revision := 0
  versionScheme := 0
  dependencies := [{ raw := "zlib", id := "homebrew/core/zlib" }]
  bottle := some {
    rootURL := ""
    rebuild := 0
    files := [{ tag := "x86_64_linux", url := "", sha256 := "", cellar := "any" }] }

/-- A tap with one Formula that has an alias and depends on a core Formula. -/
def resolver : Resolver where
  core := ⟨coreCatalog.lookup⟩
  catalogs := ∅
  formulae := (∅ : Table FormulaID Catalog.Formula).insert "acme/tools/tool" tool
  mappings := (∅ : Table FormulaID FormulaID).insert "acme/tools/t" "acme/tools/tool"
  policy := { prebuiltArchives := [] }

def amd64 : Platform := { os := "linux", architecture := "amd64" }

def closure : ClosureResult where
  requested := ["acme/tools/tool"]
  requestedMappings := some [{ requested := "acme/tools/t", resolved := "acme/tools/tool" }]
  normalizationTaps := some ["acme/tools"]
  nodes := [
    { id := "acme/tools/tool"
      tap := "acme/tools"
      name := "tool"
      homebrewFullName := "acme/tools/tool"
      formulaVersion := "2.0"
      formulaRevision := 0
      pkgVersion := "2.0"
      versionScheme := 0
      bottleRebuild := 0
      dependencies := [{ raw := "zlib", id := "homebrew/core/zlib", declaredDirectly := true }] },
    { id := "homebrew/core/zlib"
      tap := "homebrew/core"
      name := "zlib"
      homebrewFullName := "homebrew/core/zlib"
      formulaVersion := "1.3"
      formulaRevision := 0
      pkgVersion := "1.3"
      versionScheme := 0
      bottleRebuild := 0 }]
  installOrder := ["homebrew/core/zlib", "acme/tools/tool"]

theorem resolve_closure : resolver.resolve ["acme/tools/t"] amd64 = .ok closure := by
  decide +kernel

end Sample

theorem resolve_correct_sample :
    Sample.resolver.resolve ["acme/tools/t"] Sample.amd64 = .ok Sample.closure ∧
      CorrectClosure Sample.resolver Sample.amd64 ["acme/tools/t"] Sample.closure :=
  ⟨Sample.resolve_closure,
    resolve_correct Sample.resolver Sample.amd64 ["acme/tools/t"] Sample.closure
      Sample.resolve_closure⟩

end DalecHomebrew.CatalogResolver
