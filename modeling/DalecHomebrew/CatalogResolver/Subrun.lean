import DalecHomebrew.Catalog.Accepted
import DalecHomebrew.CatalogResolver.Prebuilt

/-!
# Runs inside a resolved closure

Roots that were resolved together with others are resolved again on their own.
If everything they reach has an expansion that both runs share, then the second
run succeeds inside the closure of the first one (`resolves_of_shares`).
-/

namespace DalecHomebrew.CatalogResolver

open Catalog Foundation Homebrew Policy

section Model

variable {resolver : Resolver} {platform : Platform}

/-! ## Marked taps -/

theorem tap_mem_lookupExact {id : FormulaID} (outside : FormulaID.isCore id = false) :
    FormulaID.tap id ∈ (resolver.lookupExact id).taps := by
  simp [Resolver.lookupExact, outside]

theorem markTaps_nodup {used : List TapID} (distinct : used.Nodup) (taps : List TapID) :
    (markTaps used taps).Nodup := by
  unfold markTaps
  induction taps generalizing used with
  | nil => exact distinct
  | cons tap rest ih => exact ih (distinct.insert)

theorem drain_used_nodup {requested : List FormulaID} {budget : Nat} {worklist drained : Worklist}
    (result : resolver.drain platform requested budget worklist = .ok drained)
    (distinct : worklist.used.Nodup) :
    drained.used.Nodup := by
  refine drain_preserves (motive := fun worklist => worklist.used.Nodup)
    (fun _ _ holds => holds) ?_ result distinct
  intro before id expanded holds _ step
  obtain ⟨_, _, dependencies, extended, _, _, loop, rfl⟩ := Resolver.expand_eq_ok.mp step
  refine foldlM_preserves (motive := fun worklist => worklist.used.Nodup) ?_ loop
    (markTaps_nodup holds _)
  intro source dependency target _ kept added
  obtain ⟨found, _, _, rfl⟩ := Resolver.addDependency_eq_ok.mp added
  exact markTaps_nodup kept _

/-! ## Racks -/

theorem claimRacks_succeeds {entries : List (FormulaID × Node)} :
    ∀ {byRack : Table String FormulaID}, (entries.map fun entry => entry.2.name).Nodup →
      (∀ entry ∈ entries, byRack.lookup entry.2.name = none) →
      ∃ claimed, entries.foldlM claimRack byRack = .ok claimed := by
  induction entries with
  | nil => exact fun _ _ => ⟨_, rfl⟩
  | cons entry rest ih =>
    intro byRack distinct free
    obtain ⟨new, others⟩ := List.nodup_cons.mp (List.map_cons ▸ distinct)
    have step : claimRack byRack entry = .ok (byRack.insert entry.2.name entry.1) := by
      simp [claimRack, free entry List.mem_cons_self]
    have stillFree : ∀ other ∈ rest,
        (byRack.insert entry.2.name entry.1).lookup other.2.name = none := by
      intro other member
      have different : other.2.name ≠ entry.2.name := by
        intro same
        exact new (same ▸ List.mem_map_of_mem member)
      rw [AList.lookup_insert_ne different]
      exact free other (List.mem_cons_of_mem _ member)
    obtain ⟨claimed, loop⟩ := ih others stillFree
    exact ⟨claimed, foldlM_cons_eq_ok.mpr ⟨_, step, loop⟩⟩

theorem validateRackCollisions_ok {nodes : Table FormulaID Node}
    (distinct : (nodes.values.map Node.name).Nodup) :
    validateRackCollisions nodes = .ok () := by
  have names : (nodes.entries.map fun entry => (entry.1, entry.2)).map
      (fun entry : FormulaID × Node => entry.2.name) = nodes.values.map Node.name := by
    simp [Table.values, Function.comp_def]
  obtain ⟨claimed, loop⟩ := claimRacks_succeeds (names ▸ distinct) (fun _ _ => AList.lookup_empty _)
  simp [validateRackCollisions, loop, Except.map]

/-! ## A worklist inside a resolved closure -/

/-- A finished run of some roots whose nodes all belong to a closure that was resolved before. -/
structure Worklist.Inside (resolver : Resolver) (platform : Platform) (requested : List FormulaID)
    (initial : List TapID) (whole : ClosureResult) (worklist : Worklist) : Prop where
  finished : worklist.Finished resolver platform requested
  traced : worklist.Traced resolver platform requested initial
  distinctTaps : worklist.used.Nodup
  nodes : ∀ id node, worklist.nodes.lookup id = some node → node ∈ whole.nodes ∧ node.id = id

namespace Worklist.Inside

variable {requested : List FormulaID} {initial : List TapID} {whole : ClosureResult}
  {worklist : Worklist} (inside : worklist.Inside resolver platform requested initial whole)
include inside

theorem lookup_of_value {node : Node} (member : node ∈ worklist.nodes.values) :
    worklist.nodes.lookup node.id = some node := by
  obtain ⟨key, found⟩ := Table.mem_values.mp member
  rw [(inside.nodes key node found).2, found]

/-- The taps that the expansion of a node has looked into are recorded. -/
theorem marked {node : Node} (member : node ∈ worklist.nodes.values) :
    ∃ expansion : Expansion,
      expansion.Valid resolver platform (requested.contains node.id) node.id ∧
        node = expansion.node ∧
        ∀ tap ∈ expansion.taps resolver node.id, tap ∈ worklist.used := by
  have found := inside.lookup_of_value member
  obtain ⟨expansion, valid, same⟩ := inside.traced.expanded node.id node found
  refine ⟨expansion, valid, same, fun tap among => (inside.traced.used tap).mpr (.inr
    ⟨node.id, AList.lookup_isSome.mp (by rw [found]; rfl), expansion, valid, among⟩)⟩

theorem ids_eq_keys : worklist.nodes.values.map Node.id = worklist.nodes.keys := by
  simp only [Table.values, AList.keys, List.keys, List.map_map]
  refine List.map_congr_left fun entry member => ?_
  exact (inside.nodes entry.1 entry.2 (AList.mem_lookup_iff.mpr member)).2

theorem ids_nodup : (worklist.nodes.values.map Node.id).Nodup := by
  rw [inside.ids_eq_keys]
  exact worklist.nodes.keys_nodup

theorem racks_nodup (racks : (whole.nodes.map Node.name).Nodup) :
    (worklist.nodes.values.map Node.name).Nodup := by
  refine List.Nodup.map_on ?_ inside.ids_nodup.of_map
  intro left leftMember right rightMember same
  exact List.inj_on_of_nodup_map racks
    (inside.nodes _ _ (inside.lookup_of_value leftMember)).1
    (inside.nodes _ _ (inside.lookup_of_value rightMember)).1 same

theorem mem_iff_value {id : FormulaID} :
    id ∈ worklist.nodes ↔ id ∈ worklist.nodes.values.map Node.id := by
  rw [inside.ids_eq_keys, AList.mem_keys]

/-- Outside its nodes the recorded graph is empty. -/
theorem successors_nil {id : FormulaID} (unknown : id ∉ worklist.nodes) :
    successors worklist.graph id = [] := by
  have absent : worklist.nodes.lookup id = none := AList.lookup_eq_none.mpr unknown
  simp [successors, Table.slice, inside.finished.sound.graph id absent]

/-- Recorded paths that start at a node are paths of dependencies. -/
theorem dependsOn_of_path {id reached : FormulaID} (known : id ∈ worklist.nodes)
    (path : Relation.TransGen (DepthFirst.Edge (successors worklist.graph)) id reached) :
    reached ∈ worklist.nodes ∧ Relation.TransGen (DependsOn resolver platform) id reached := by
  have finished := inside.finished
  induction path with
  | single edge =>
    exact ⟨finished.successor_mem known edge, .single ((finished.successor_iff known).mp edge)⟩
  | tail _ edge ih =>
    exact ⟨finished.successor_mem ih.1 edge, ih.2.tail ((finished.successor_iff ih.1).mp edge)⟩

section

variable
  (free : ∀ id ∈ whole.nodes.map Node.id, ¬ Relation.TransGen (DependsOn resolver platform) id id)

include free

/-- A closure without cycles leaves none to a run inside it. -/
theorem acyclic (id : FormulaID) :
    ¬ Relation.TransGen (DepthFirst.Edge (successors worklist.graph)) id id := by
  intro path
  have known : id ∈ worklist.nodes := by
    by_contra unknown
    obtain ⟨next, edge, _⟩ := Relation.TransGen.head'_iff.mp path
    rw [DepthFirst.Edge, inside.successors_nil unknown] at edge
    cases edge
  obtain ⟨node, found⟩ := Option.isSome_iff_exists.mp (AList.lookup_isSome.mpr known)
  obtain ⟨member, same⟩ := inside.nodes id node found
  exact free id (List.mem_map.mpr ⟨node, member, same⟩) (inside.dependsOn_of_path known path).2

theorem topo_succeeds :
    ∃ order, topo worklist.graph requested = .ok order := by
  obtain ⟨search, searched⟩ := DepthFirst.visitAll_succeeds
    (vertices_closed worklist.graph requested) (List.subset_append_left _ _)
    (inside.acyclic free)
  exact ⟨search.order, by simp [topo, searched]⟩

end

/-- The recorded graph is the one that the validator of the closure reads off its nodes. -/
theorem successors_eq {closure : ClosureResult}
    (nodes : closure.nodes = sortByKey Node.id worklist.nodes.values) :
    closure.successors = successors worklist.graph := by
  have ids : (closure.nodes.map Node.id).Nodup := by
    rw [nodes, ((sortByKey_perm Node.id worklist.nodes.values).map Node.id).nodup_iff]
    exact inside.ids_nodup
  funext id
  by_cases known : id ∈ worklist.nodes
  · obtain ⟨node, found⟩ := Option.isSome_iff_exists.mp (AList.lookup_isSome.mpr known)
    have member : node ∈ closure.nodes := by
      rw [nodes, mem_sortByKey, Table.mem_values]
      exact ⟨id, found⟩
    have recorded := (inside.finished.sound.node id node found).2.2
    obtain rfl := (inside.nodes id node found).2
    rw [successors_of_mem ids member, successors, recorded]
  · rw [inside.successors_nil known, List.eq_nil_iff_forall_not_mem]
    intro successor edge
    obtain ⟨node, member, rfl, _⟩ := node_of_successor edge
    rw [nodes, mem_sortByKey] at member
    exact known (inside.mem_iff_value.mpr (List.mem_map_of_mem member))

end Worklist.Inside

/-- The closure that `Resolve` builds from a finished run. -/
def Worklist.closureOfRoots (worklist : Worklist) (raws ids order : List FormulaID) :
    ClosureResult where
  requested := ids
  requestedMappings := some (List.zipWith rootMapping raws ids)
  normalizationTaps := some (sortByKey (fun tap => tap) worklist.used)
  nodes := sortByKey Node.id worklist.nodes.values
  installOrder := order

section

variable {raws ids : List FormulaID} (normal : List.Forall₂ (NormalizesRoot resolver) raws ids)

include normal

/-- Roots with distinct normal forms are distinct. -/
theorem nodup_of_normalizes (distinct : ids.Nodup) :
    raws.Nodup := by
  induction normal with
  | nil => exact List.nodup_nil
  | cons head tail ih =>
    obtain ⟨new, others⟩ := List.nodup_cons.mp distinct
    refine List.nodup_cons.mpr ⟨fun repeated => ?_, ih others⟩
    obtain ⟨other, among, source, looked⟩ := exists_right_of_forall₂ tail repeated
    obtain ⟨headSource, headLooked⟩ := head
    have same := looked.symm.trans headLooked
    simp only [Except.ok.injEq, Prod.mk.injEq] at same
    exact new (same.1 ▸ among)

/-- The recorded mappings list the roots and their normal forms. -/
theorem map_zipWith_rootMapping :
    (List.zipWith rootMapping raws ids).map RequestedMapping.requested = raws ∧
      (List.zipWith rootMapping raws ids).map RequestedMapping.resolved = ids := by
  induction normal with
  | nil => exact ⟨rfl, rfl⟩
  | cons _ _ ih => simp [rootMapping, ih.1, ih.2]

end

section Subrun

variable {raws ids : List FormulaID} {initial : List TapID} {whole : ClosureResult}
  {worklist : Worklist} {order : List FormulaID}

/-- Roots resolved inside an accepted closure give an accepted closure. -/
theorem accepted_closureOfRoots (inside : worklist.Inside resolver platform ids initial whole)
    (marks : ∀ raw ∈ raws, ∀ tap ∈ (resolver.lookupExact raw).taps, tap ∈ initial)
    (accepted : AcceptedClosure whole) (rawsValid : ∀ raw ∈ raws, FormulaID.validate raw = .ok ())
    (normal : List.Forall₂ (NormalizesRoot resolver) raws ids) (rootsDistinct : ids.Nodup)
    (roots : ids ⊆ whole.requested)
    (taps : ∀ tap ∈ worklist.used, tap ∈ normalizedClosureTaps whole)
    (ordered : topo worklist.graph ids = .ok order) :
    AcceptedClosure (worklist.closureOfRoots raws ids order) := by
  let closure := worklist.closureOfRoots raws ids order
  obtain ⟨distinct, sequence, orderMem⟩ := topo_spec ordered
  have values : ∀ {node}, node ∈ closure.nodes ↔ node ∈ worklist.nodes.values := mem_sortByKey
  have perm := sortByKey_perm Node.id worklist.nodes.values
  have members : ∀ other, other ∈ closure.nodes.map Node.id ↔ other ∈ worklist.nodes := by
    intro other
    rw [inside.mem_iff_value]
    exact (perm.map Node.id).mem_iff
  have installed : ∀ other, other ∈ order ↔ other ∈ worklist.nodes := by
    intro other
    rw [orderMem, inside.finished.mem_iff_reachable]
  have wholeNode : ∀ node ∈ closure.nodes, node ∈ whole.nodes :=
    fun node member => (inside.nodes _ _ (inside.lookup_of_value (values.mp member))).1
  have nodeIDs : (closure.nodes.map Node.id).Nodup :=
    (perm.map Node.id).nodup_iff.mpr inside.ids_nodup
  have idsValid : ∀ id ∈ ids, FormulaID.validate id = .ok () :=
    fun id member => accepted.rootValid id (roots member)
  obtain ⟨sources, targets⟩ :
      closure.mappings.map RequestedMapping.requested = raws ∧
        closure.mappings.map RequestedMapping.resolved = ids :=
    map_zipWith_rootMapping normal
  have usedTaps : ∀ {tap}, tap ∈ normalizedClosureTaps closure ↔
      tap ∈ worklist.used := mem_sortByKey
  exact {
    bounded := by
      have sub : closure.nodes.map Node.id ⊆ whole.nodes.map Node.id := by
        intro other member
        obtain ⟨node, among, rfl⟩ := List.mem_map.mp member
        exact List.mem_map_of_mem (wholeNode node among)
      have fewer := (List.subperm_of_subset nodeIDs sub).length_le
      simp only [List.length_map] at fewer
      exact fewer.trans accepted.bounded
    valid := fun node member => accepted.valid node (wholeNode node member)
    ids := nodeIDs
    racks := (perm.map Node.name).nodup_iff.mpr (inside.racks_nodup accepted.racks)
    rootValid := idsValid
    rootOnce := rootsDistinct
    rootKnown := fun other member => (members other).mpr (inside.finished.root_mem member)
    mappingCount := by
      rw [← List.length_map RequestedMapping.resolved, targets]
      rfl
    mappingValid := by
      intro mapping member
      exact ⟨rawsValid _ (sources ▸ List.mem_map_of_mem member),
        idsValid _ (targets ▸ List.mem_map_of_mem member)⟩
    mappingSources := by
      rw [sources]
      exact nodup_of_normalizes normal rootsDistinct
    mappingTargets := by
      rw [targets]
      exact rootsDistinct
    mapped := by
      rw [targets]
      exact fun other member => member
    tapValid := fun tap member => accepted.tapValid tap (taps tap (usedTaps.mp member))
    tapOnce := (sortByKey_perm _ _).nodup_iff.mpr inside.distinctTaps
    mappingTap := by
      intro mapping member
      have listed : mapping.requested ∈ raws := sources ▸ List.mem_map_of_mem member
      cases core : FormulaID.isCore mapping.requested with
      | true => exact .inl rfl
      | false =>
        refine .inr (usedTaps.mpr ((inside.traced.used _).mpr (.inl ?_)))
        exact marks _ listed _ (tap_mem_lookupExact core)
    nodeTap := by
      intro node member
      cases core : FormulaID.isCore node.id with
      | true => exact .inl rfl
      | false =>
        obtain ⟨expansion, valid, same, among⟩ := inside.marked (values.mp member)
        have tap := (identity_of_validateNode (accepted.valid node (wholeNode node member))).2.1
        rw [tap]
        exact .inr (usedTaps.mpr (among _ (List.mem_append_left _ (tap_mem_lookupExact core))))
    rawTap := by
      intro node member dependency among slash parsed parses
      cases core : FormulaID.isCore parsed with
      | true => exact .inl rfl
      | false =>
        obtain ⟨expansion, valid, same, used⟩ := inside.marked (values.mp member)
        rw [same, Expansion.node, mem_sortByKey] at among
        obtain ⟨declared, listed, found, _, _, rfl⟩ := exists_left_of_forall₂ valid.recorded among
        refine .inr (usedTaps.mpr (used _ (List.mem_append_right _ (List.mem_flatMap.mpr
          ⟨declared, listed, ?_⟩))))
        simp only [Resolver.normalizeDependency, slash, if_true, Resolver.lookupParsed, parses]
        exact tap_mem_lookupExact core
    edges := by
      intro node member dependency among
      exact (members _).mpr
        (inside.finished.edge_mem (inside.lookup_of_value (values.mp member)) among)
    orderCount := by
      have same : order.Perm (closure.nodes.map Node.id) :=
        (List.perm_ext_iff_of_nodup distinct nodeIDs).mpr fun other =>
          (installed other).trans (members other).symm
      exact same.length_eq.trans (List.length_map _)
    orderValid := by
      intro other member
      obtain ⟨node, among, rfl⟩ := List.mem_map.mp ((members other).mpr ((installed other).mp member))
      refine accepted.orderValid node.id ((accepted.checked.enumerates node.id).mpr ?_)
      exact List.mem_map_of_mem (wholeNode node among)
    orderKnown := fun other member => (members other).mpr ((installed other).mp member)
    orderOnce := distinct
    placed := by
      intro node member
      have known := (members node.id).mp (List.mem_map_of_mem member)
      obtain ⟨index, found, earlier⟩ := InstallOrder.positions_of_ordered distinct sequence
        ((installed node.id).mpr known)
      refine ⟨index, found, fun dependency among => earlier dependency.id ?_⟩
      have graph : closure.successors = _ := inside.successors_eq rfl
      rw [← graph, successors_of_mem nodeIDs member]
      exact List.mem_map_of_mem among
    reached := by
      intro node member
      have known := (members node.id).mp (List.mem_map_of_mem member)
      rw [ClosureResult.Reaches, inside.successors_eq rfl]
      exact inside.finished.mem_iff_reachable.mp known }

/-! ## The second run -/

/-- What both runs compute for every identity that the roots of the second one reach. -/
def Shares (resolver : Resolver) (platform : Platform) (whole : ClosureResult)
    (ids : List FormulaID) : Prop :=
  ∀ other, Reached resolver platform ids other → ∃ expansion : Expansion,
    expansion.Valid resolver platform (whole.requested.contains other) other ∧
    expansion.Valid resolver platform (ids.contains other) other ∧
    expansion.node ∈ whole.nodes

variable {roots : List FormulaID}

theorem acceptedClosure_of_resolve
    (joint : resolver.resolve roots platform = .ok whole) : AcceptedClosure whole :=
  (validateClosureResult_iff.mp (resolved_of_resolve joint).accepted).1

/-- The worklist of the second run drains. -/
theorem drains_of_shares (accepted : AcceptedClosure whole)
    (shares : Shares resolver platform whole ids) (used : List TapID) :
    ∃ worklist, resolver.drain platform ids maxClosureNodes
      { queue := ids, nodes := ∅, graph := ∅, used } = .ok worklist := by
  classical
  let reach := (whole.nodes.map Node.id).filter fun other => Reached resolver platform ids other
  have mem_reach : ∀ other, other ∈ reach ↔ Reached resolver platform ids other := by
    intro other
    simp only [reach, List.mem_filter, decide_eq_true_eq, and_iff_right_iff_imp]
    intro path
    obtain ⟨expansion, valid, _, among⟩ := shares other path
    exact List.mem_map.mpr ⟨_, among, valid.node_id⟩
  have expandable : ∀ other ∈ reach, ∃ expansion : Expansion,
      expansion.Valid resolver platform (ids.contains other) other ∧
        expansion.edges.map Requirement.id ⊆ reach := by
    intro other among
    obtain ⟨start, root, path⟩ := (mem_reach other).mp among
    obtain ⟨expansion, _, valid, _⟩ := shares other ⟨start, root, path⟩
    exact ⟨expansion, valid, fun next edge =>
      (mem_reach next).mpr ⟨start, root, path.tail (valid.dependsOn_iff.mp edge)⟩⟩
  have queued : ids ⊆ reach := fun id member => (mem_reach id).mpr ⟨id, member, .refl⟩
  have fewer : reach.length ≤ maxClosureNodes := by
    have bounded := accepted.bounded
    rw [← List.length_map Node.id] at bounded
    exact (List.length_filter_le _ _).trans bounded
  exact drain_succeeds expandable (traced_initial used) queued (by simp) (by simpa using fewer)

theorem inside_of_drain (shares : Shares resolver platform whole ids) (distinct : initial.Nodup)
    (drained : resolver.drain platform ids maxClosureNodes
      { queue := ids, nodes := ∅, graph := ∅, used := initial } = .ok worklist) :
    worklist.Inside resolver platform ids initial whole := by
  obtain ⟨sound, empty⟩ := drain_sound (sound_initial initial) drained
  have traced := drain_traced drained (traced_initial initial)
  refine ⟨⟨sound, empty⟩, traced, drain_used_nodup drained distinct, ?_⟩
  intro other node found
  obtain ⟨expansion, _, valid, listed⟩ := shares other (sound.node other node found).1
  obtain ⟨recorded, recordedValid, rfl⟩ := traced.expanded other node found
  rw [recordedValid.unique valid]
  exact ⟨listed, valid.node_id⟩

theorem taps_of_drain (joint : resolver.resolve roots platform = .ok whole) (subset : raws ⊆ roots)
    (marks : ∀ tap ∈ initial, ∃ raw ∈ raws, tap ∈ (resolver.lookupExact raw).taps)
    (shares : Shares resolver platform whole ids)
    (inside : worklist.Inside resolver platform ids initial whole) :
    ∀ tap ∈ worklist.used, tap ∈ normalizedClosureTaps whole := by
  have resolved := resolved_of_resolve joint
  have taps : normalizedClosureTaps whole = whole.normalizationTaps.getD [] := by
    obtain ⟨_, _, _, _, _, _, _, _, _, rfl, _⟩ := Resolver.resolve_eq_ok.mp joint
    rfl
  intro tap among
  rw [taps, resolved.taps tap]
  rcases (inside.traced.used tap).mp among with first | ⟨other, known, recorded, valid, marked⟩
  · obtain ⟨raw, member, marked⟩ := marks tap first
    exact .inl ⟨raw, subset member, marked⟩
  · obtain ⟨node, found⟩ := Option.isSome_iff_exists.mp (AList.lookup_isSome.mpr known)
    obtain ⟨expansion, jointValid, validAlone, listed⟩ :=
      shares other (inside.finished.sound.node other node found).1
    obtain rfl := valid.unique validAlone
    refine .inr ⟨recorded.node, listed, recorded, ?_, ?_⟩
    · rw [validAlone.node_id]
      exact jointValid
    · rw [validAlone.node_id]
      exact marked

/-- The loop over the roots succeeds if all of them normalize, to distinct identities. -/
theorem collects_succeeds (valid : ∀ raw ∈ raws, FormulaID.validate raw = .ok ())
    (normal : List.Forall₂ (NormalizesRoot resolver) raws ids) :
    ∀ source : Roots, (source.requested ++ ids).Nodup →
      ∃ target, raws.foldlM resolver.addRoot source = .ok target := by
  induction normal with
  | nil =>
    intro source _
    exact ⟨source, rfl⟩
  | @cons raw id rest restIDs head tail ih =>
    intro source distinct
    obtain ⟨found, looked⟩ := head
    rw [List.forall_mem_cons] at valid
    have new : id ∉ source.requested := by
      intro among
      exact (List.nodup_append.mp distinct).2.2 id among id List.mem_cons_self rfl
    obtain ⟨next, step, grown⟩ : ∃ next, resolver.addRoot source raw = .ok next ∧
        next.requested = source.requested ++ [id] :=
      ⟨_, Resolver.addRoot_eq_ok.mpr ⟨(id, found), valid.1, looked, new, rfl⟩, rfl⟩
    obtain ⟨target, loop⟩ := ih valid.2 next (by simpa [grown] using distinct)
    exact ⟨target, foldlM_cons_eq_ok.mpr ⟨next, step, loop⟩⟩

theorem collects_used_nodup {source target : Roots}
    (loop : raws.foldlM resolver.addRoot source = .ok target) (distinct : source.used.Nodup) :
    target.used.Nodup := by
  refine foldlM_preserves (motive := fun roots => roots.used.Nodup) ?_ loop distinct
  intro before raw after _ held step
  obtain ⟨found, _, _, _, rfl⟩ := Resolver.addRoot_eq_ok.mp step
  exact markTaps_nodup held _

theorem acyclic_of_correct (correct : CorrectClosure resolver platform roots whole) :
    ∀ other ∈ whole.nodes.map Node.id,
      ¬ Relation.TransGen (DependsOn resolver platform) other other := by
  intro other known path
  obtain ⟨earlier, later, split⟩ := List.append_of_mem ((correct.once.2 other).mpr known)
  have twice := correct.before earlier other later split other path
  have distinct := correct.once.1
  rw [split] at distinct
  exact (List.nodup_middle.mp distinct).notMem (List.mem_append_left _ twice)

/-- Roots that share what they reach with a resolved closure resolve on their own. -/
theorem resolves_of_shares (joint : resolver.resolve roots platform = .ok whole)
    (subset : raws ⊆ roots) (nonempty : raws ≠ [])
    (normal : List.Forall₂ (NormalizesRoot resolver) raws ids) (distinct : ids.Nodup)
    (shares : Shares resolver platform whole ids) :
    ∃ closure, resolver.resolve raws platform = .ok closure ∧ closure.requested = ids := by
  have resolved := resolved_of_resolve joint
  have accepted := acceptedClosure_of_resolve joint
  have rawsValid : ∀ raw ∈ raws, FormulaID.validate raw = .ok () :=
    fun raw member => resolved.validRoots raw (subset member)
  have rootsListed : ids ⊆ whole.requested := by
    intro id member
    obtain ⟨raw, among, normalizes⟩ := exists_left_of_forall₂ normal member
    exact (root_of_forall₂ resolved.normal).mpr ⟨raw, subset among, normalizes⟩
  obtain ⟨_, _, _, supported, _⟩ := Resolver.resolve_eq_ok.mp joint
  obtain ⟨collected, loop⟩ := collects_succeeds rawsValid normal {} (by simpa using distinct)
  obtain ⟨found, collects⟩ := collects_of_loop loop
  have same : found = ids := List.right_unique_forall₂'
    (fun _ _ _ ⟨_, one⟩ ⟨_, other⟩ =>
      congrArg Prod.fst (Except.ok.inj (one.symm.trans other))) collects.normal normal
  subst same
  have requested : collected.requested = found := by simpa using collects.requested
  have marks : ∀ tap, tap ∈ collected.used ↔
      ∃ raw ∈ raws, tap ∈ (resolver.lookupExact raw).taps := by
    simpa using collects.used
  obtain ⟨worklist, drained⟩ := drains_of_shares accepted shares collected.used
  have inside := inside_of_drain shares (collects_used_nodup loop List.nodup_nil) drained
  obtain ⟨order, ordered⟩ := inside.topo_succeeds
    (acyclic_of_correct (correctClosure_of_resolve joint))
  have accepts := accepted_closureOfRoots inside
    (fun raw member tap marked => (marks tap).mpr ⟨raw, member, marked⟩) accepted rawsValid normal
    distinct rootsListed
    (taps_of_drain joint subset (fun tap marked => (marks tap).mp marked) shares inside) ordered
  have mappings : collected.mappings = List.zipWith rootMapping raws found := by
    simpa using collects.mappings
  obtain ⟨raw, rest, rfl⟩ := List.exists_cons_of_ne_nil nonempty
  obtain ⟨id, restIDs, _, _, listed⟩ := List.forall₂_cons_left_iff.mp normal
  have rooted : found ≠ [] := by
    rw [listed]
    exact List.cons_ne_nil _ _
  refine ⟨worklist.closureOfRoots (raw :: rest) found order, Resolver.resolve_eq_ok.mpr
    ⟨collected, worklist, order, supported, nonempty, loop, requested ▸ drained, ?_,
      requested ▸ ordered, ?_, ?_⟩, rfl⟩
  · exact validateRackCollisions_ok (inside.racks_nodup accepted.racks)
  · rw [requested, mappings]
    rfl
  · exact validateClosureResult_iff.mpr ⟨accepts, fun unrooted => absurd unrooted rooted⟩

end Subrun

end Model

end DalecHomebrew.CatalogResolver
