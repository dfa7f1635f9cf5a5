import DalecHomebrew.CatalogResolver.Closure

/-!
# Runs of the worklist

What a run of the resolver writes for one identity does not depend on the run:
an `Expansion` holds the record, the declared dependencies and the normalized
edges of an identity, and the only thing it takes from the run is whether the
identity is a requested root.  A successful run consists of the expansions of
its nodes (`Worklist.Traced`), and a run whose reachable identities all have an
expansion and fit into the budget succeeds (`drain_succeeds`).
-/

namespace DalecHomebrew.CatalogResolver

open Catalog Foundation Homebrew Policy

/-! ## Expansions -/

/-- Everything that a run computes about one identity. -/
structure Expansion where
  source : FormulaSource
  base : Node
  dependencies : List Requirement
  edges : List Requirement

namespace Expansion

/-- The node that a run adds for an identity. -/
def node (expansion : Expansion) : Node :=
  { expansion.base with dependencies := sortByKey Requirement.id expansion.edges }

/-- The taps that a run marks as used for an identity. -/
def taps (resolver : Resolver) (id : FormulaID) (expansion : Expansion) : List TapID :=
  (resolver.lookupExact id).taps ++ expansion.dependencies.flatMap fun dependency =>
    (resolver.normalizeDependency (FormulaID.tap id) dependency.raw).taps

/-- The computation of a run for an identity succeeds with this outcome. -/
structure Valid (resolver : Resolver) (platform : Platform) (root : Bool) (id : FormulaID)
    (expansion : Expansion) : Prop where
  canonical : Canonical resolver id expansion.source
  declared : resolver.nodeAndDependencies expansion.source platform (bottleTag platform) root =
    .ok (expansion.base, expansion.dependencies)
  recorded : List.Forall₂ (Recorded resolver (FormulaID.tap id)) expansion.dependencies
    expansion.edges

end Expansion

section Model

variable {resolver : Resolver} {platform : Platform} {requested roots : List FormulaID}
  {owner : TapID} {dependencies : List Requirement} {root : Bool} {expansion : Expansion}
  {worklist expanded drained : Worklist} {budget : Nat} {initial : List TapID}
  {closure : ClosureResult}

theorem Recorded.unique {dependency left right : Requirement}
    (first : Recorded resolver owner dependency left)
    (second : Recorded resolver owner dependency right) :
    left = right := by
  obtain ⟨found, normal, _, rfl⟩ := first
  obtain ⟨other, otherNormal, _, rfl⟩ := second
  obtain rfl : found = other := by simpa using normal.symm.trans otherNormal
  rfl

theorem recorded_unique {left right : List Requirement}
    (first : List.Forall₂ (Recorded resolver owner) dependencies left)
    (second : List.Forall₂ (Recorded resolver owner) dependencies right) :
    left = right :=
  List.right_unique_forall₂' (fun _ _ _ one other => one.unique other) first second

/-- An identity has at most one expansion. -/
theorem Expansion.Valid.unique {id : FormulaID} {left right : Expansion}
    (first : left.Valid resolver platform root id)
    (second : right.Valid resolver platform root id) :
    left = right := by
  obtain ⟨source, base, dependencies, edges⟩ := left
  obtain ⟨otherSource, otherBase, otherDependencies, otherEdges⟩ := right
  obtain rfl : source = otherSource := by
    simpa using first.canonical.symm.trans second.canonical
  obtain ⟨rfl, rfl⟩ : base = otherBase ∧ dependencies = otherDependencies := by
    simpa using first.declared.symm.trans second.declared
  obtain rfl := recorded_unique first.recorded second.recorded
  rfl

theorem Expansion.Valid.node_id {id : FormulaID}
    (valid : expansion.Valid resolver platform root id) :
    expansion.node.id = id := by
  rw [← lookupExact_id valid.canonical]
  exact (nodeAndDependencies_spec valid.declared).1

/-- The edges of an expansion are dependencies in the sense of the specification. -/
theorem Expansion.Valid.dependsOn_iff {id dependency : FormulaID}
    (valid : expansion.Valid resolver platform root id) :
    dependency ∈ expansion.edges.map Requirement.id ↔ DependsOn resolver platform id dependency := by
  have raws := (nodeAndDependencies_spec valid.declared).2
  constructor
  · intro member
    obtain ⟨edge, edgeMember, rfl⟩ := List.mem_map.mp member
    obtain ⟨declared, declaredMember, found, normal, _, rfl⟩ :=
      exists_left_of_forall₂ valid.recorded edgeMember
    refine ⟨expansion.source, valid.canonical, declared.raw, ?_, found.2, normal⟩
    rw [← raws]
    exact List.mem_map_of_mem declaredMember
  · rintro ⟨source, canonical, raw, rawMember, found, normal⟩
    obtain rfl : expansion.source = source := by
      simpa using valid.canonical.symm.trans canonical
    rw [← raws] at rawMember
    obtain ⟨declared, declaredMember, rfl⟩ := List.mem_map.mp rawMember
    obtain ⟨edge, edgeMember, other, otherNormal, _, rfl⟩ :=
      exists_right_of_forall₂ valid.recorded declaredMember
    obtain rfl : (dependency, found) = other := by simpa using normal.symm.trans otherNormal
    exact List.mem_map_of_mem edgeMember

/-! ## One round -/

theorem loop_succeeds {id : FormulaID} {edges : List Requirement}
    (recorded : List.Forall₂ (Recorded resolver (FormulaID.tap id)) dependencies edges)
    (source : Worklist) :
    ∃ target, dependencies.foldlM (resolver.addDependency id) source = .ok target := by
  have next : ∀ (worklist : Worklist) (dependency : Requirement), dependency ∈ dependencies →
      True → ∃ target, resolver.addDependency id worklist dependency = .ok target ∧ True := by
    intro worklist dependency member _
    obtain ⟨edge, _, found, normal, claimed, _⟩ := exists_right_of_forall₂ recorded member
    exact ⟨_, Resolver.addDependency_eq_ok.mpr ⟨found, normal, claimed, rfl⟩, trivial⟩
  obtain ⟨target, loop, _⟩ := foldlM_succeeds (motive := fun _ => True) next (trivial : True)
  exact ⟨target, loop⟩

/-- The effect of a round of the worklist on everything but the order of its queue. -/
structure Worklist.Round (resolver : Resolver) (id : FormulaID) (expansion : Expansion)
    (source target : Worklist) : Prop where
  nodes : target.nodes = source.nodes.insert id expansion.node
  others : ∀ other, other ≠ id → target.graph.lookup other = source.graph.lookup other
  queued : ∀ pending ∈ target.queue,
    pending ∈ source.queue ∨ pending ∈ expansion.edges.map Requirement.id
  used : ∀ tap, tap ∈ target.used ↔ tap ∈ source.used ∨ tap ∈ expansion.taps resolver id

theorem expand_round {id : FormulaID} (fresh : worklist.graph.lookup id = none)
    (result : resolver.expand platform requested worklist id = .ok expanded) :
    ∃ expansion : Expansion, expansion.Valid resolver platform (requested.contains id) id ∧
      Worklist.Round resolver id expansion worklist expanded := by
  obtain ⟨source, node, dependencies, extended, looked, declared, loop, rfl⟩ :=
    Resolver.expand_eq_ok.mp result
  obtain ⟨edges, effect, recorded, used⟩ := recorded_of_loop loop
  refine ⟨⟨source, node, dependencies, edges⟩, ⟨looked, declared, recorded⟩, ?_⟩
  have slice : (sortEdges extended.graph id).slice id = sortByKey Requirement.id edges := by
    rw [slice_sortEdges, effect.slice]
    simp [Table.slice, fresh]
  constructor
  · rw [Worklist.complete, slice, effect.nodes]
    rfl
  · intro other different
    rw [Worklist.complete, lookup_sortEdges_ne different, effect.others other different]
  · exact effect.queued
  · intro tap
    rw [Worklist.complete, used tap]
    simp only [mem_markTaps, Expansion.taps, List.mem_append]
    tauto

/-- A round succeeds whenever its identity has an expansion. -/
theorem expand_succeeds (worklist : Worklist) {id : FormulaID}
    (valid : expansion.Valid resolver platform (requested.contains id) id) :
    ∃ expanded, resolver.expand platform requested worklist id = .ok expanded := by
  obtain ⟨extended, loop⟩ := loop_succeeds valid.recorded
    { worklist with used := markTaps worklist.used (resolver.lookupExact id).taps }
  exact ⟨_, Resolver.expand_eq_ok.mpr
    ⟨expansion.source, expansion.base, expansion.dependencies, extended, valid.canonical,
      valid.declared, loop, rfl⟩⟩

/-! ## Whole runs -/

/-- What every round keeps, the run keeps; popped identities do not matter to it. -/
theorem drain_preserves {motive : Worklist → Prop}
    (popped : ∀ worklist queue, motive worklist → motive { worklist with queue := queue })
    (kept : ∀ worklist id expanded, motive worklist → worklist.nodes.lookup id = none →
      resolver.expand platform requested worklist id = .ok expanded → motive expanded)
    (result : resolver.drain platform requested budget worklist = .ok drained)
    (holds : motive worklist) :
    motive drained :=
  (drain_induction (fun _ => popped _ _)
    (fun _ id rest expanded before _ => kept _ id expanded (popped _ rest before))
    result holds).1

/-- A worklist that was filled by expansions only, after the roots marked `initial`. -/
structure Worklist.Traced (resolver : Resolver) (platform : Platform) (requested : List FormulaID)
    (initial : List TapID) (worklist : Worklist) : Prop where
  fresh : ∀ id, worklist.nodes.lookup id = none → worklist.graph.lookup id = none
  expanded : ∀ id node, worklist.nodes.lookup id = some node → ∃ expansion : Expansion,
    expansion.Valid resolver platform (requested.contains id) id ∧ node = expansion.node
  used : ∀ tap, tap ∈ worklist.used ↔ tap ∈ initial ∨ ∃ id ∈ worklist.nodes,
    ∃ expansion : Expansion, expansion.Valid resolver platform (requested.contains id) id ∧
      tap ∈ expansion.taps resolver id

theorem traced_initial (used : List TapID) :
    Worklist.Traced resolver platform requested used
      { queue := requested, nodes := ∅, graph := ∅, used } where
  fresh := by simp
  expanded := by simp
  used := by simp

theorem Worklist.Traced.round {id : FormulaID}
    (traced : worklist.Traced resolver platform requested initial)
    (unknown : worklist.nodes.lookup id = none)
    (result : resolver.expand platform requested worklist id = .ok expanded) :
    expanded.Traced resolver platform requested initial := by
  obtain ⟨expansion, valid, round⟩ := expand_round (traced.fresh id unknown) result
  constructor
  · intro other missing
    by_cases same : other = id
    · subst same
      simp [round.nodes, AList.lookup_insert] at missing
    · rw [round.nodes, AList.lookup_insert_ne same] at missing
      rw [round.others other same]
      exact traced.fresh other missing
  · intro other node found
    rw [round.nodes] at found
    rcases Table.lookup_insert_eq_some.mp found with ⟨rfl, rfl⟩ | ⟨_, old⟩
    · exact ⟨expansion, valid, rfl⟩
    · exact traced.expanded other node old
  · intro tap
    rw [round.used tap, traced.used tap, round.nodes]
    constructor
    · rintro ((early | ⟨other, member, facts⟩) | new)
      · exact .inl early
      · exact .inr ⟨other, (AList.mem_insert _).mpr (.inr member), facts⟩
      · exact .inr ⟨id, (AList.mem_insert _).mpr (.inl rfl), expansion, valid, new⟩
    · rintro (early | ⟨other, member, found, foundValid, marked⟩)
      · exact .inl (.inl early)
      · rcases (AList.mem_insert _).mp member with rfl | old
        · rw [foundValid.unique valid] at marked
          exact .inr marked
        · exact .inl (.inr ⟨other, old, found, foundValid, marked⟩)

theorem drain_traced (result : resolver.drain platform requested budget worklist = .ok drained)
    (traced : worklist.Traced resolver platform requested initial) :
    drained.Traced resolver platform requested initial :=
  drain_preserves
    (fun _ _ holds => ⟨holds.fresh, holds.expanded, holds.used⟩)
    (fun _ _ _ holds unknown step => holds.round unknown step)
    result traced

/--
A run succeeds when the queued identities belong to a finite set of identities
that all have an expansion inside the set and for which the budget suffices.
-/
theorem drain_succeeds {reach : List FormulaID}
    (expandable : ∀ id ∈ reach, ∃ expansion : Expansion,
      expansion.Valid resolver platform (requested.contains id) id ∧
        expansion.edges.map Requirement.id ⊆ reach)
    (traced : worklist.Traced resolver platform requested initial)
    (queued : worklist.queue ⊆ reach)
    (inside : worklist.nodes.keys ⊆ reach)
    (enough : reach.length ≤ worklist.nodes.keys.length + budget) :
    ∃ drained, resolver.drain platform requested budget worklist = .ok drained := by
  induction budget generalizing worklist with
  | zero =>
    unfold Resolver.drain
    split
    · exact ⟨_, rfl⟩
    · rename_i id rest pending _
      -- with the budget used up every identity of the set has a node already
      exfalso
      have missing : id ∉ worklist.nodes.keys := by
        rw [← AList.mem_keys, ← AList.lookup_isSome, Worklist.lookup_of_pending pending]
        simp
      have member : id ∈ reach :=
        queued ((List.dropWhile_sublist _).subset (by rw [pending]; simp))
      have distinct : (id :: worklist.nodes.keys).Nodup :=
        List.nodup_cons.mpr ⟨missing, worklist.nodes.keys_nodup⟩
      have among : id :: worklist.nodes.keys ⊆ reach := List.cons_subset.mpr ⟨member, inside⟩
      have bounded := (List.subperm_of_subset distinct among).length_le
      simp only [List.length_cons] at bounded
      omega
    · contradiction
  | succ budget ih =>
    unfold Resolver.drain
    split
    · exact ⟨_, rfl⟩
    · contradiction
    · rename_i id rest remaining pending counted
      obtain rfl : budget = remaining := by simpa using counted
      have unknown := Worklist.lookup_of_pending pending
      have rests : id :: rest ⊆ reach := by
        rw [← pending]
        exact List.Subset.trans (List.dropWhile_sublist _).subset queued
      obtain ⟨expansion, valid, edges⟩ := expandable id (rests List.mem_cons_self)
      obtain ⟨expanded, step⟩ := expand_succeeds { worklist with queue := rest } valid
      have popped : Worklist.Traced resolver platform requested initial
          { worklist with queue := rest } := ⟨traced.fresh, traced.expanded, traced.used⟩
      obtain ⟨found, foundValid, round⟩ := expand_round (popped.fresh id unknown) step
      obtain rfl := foundValid.unique valid
      rw [step]
      refine ih (popped.round unknown step) ?_ ?_ ?_
      · intro other member
        rcases round.queued other member with old | new
        · exact rests (List.mem_cons_of_mem _ old)
        · exact edges new
      · intro other member
        rw [round.nodes, ← AList.mem_keys, AList.mem_insert] at member
        rcases member with rfl | old
        · exact rests List.mem_cons_self
        · exact inside (AList.mem_keys.mp old)
      · rw [round.nodes, Table.length_keys_insert _ unknown]
        omega

/-! ## The whole resolution -/

theorem Resolver.resolve_eq_ok :
    resolver.resolve roots platform = .ok closure ↔ ∃ collected worklist order,
        platform.validate = .ok () ∧ roots ≠ [] ∧
        roots.foldlM resolver.addRoot {} = .ok collected ∧
        resolver.drain platform collected.requested maxClosureNodes
          { queue := collected.requested, nodes := ∅, graph := ∅, used := collected.used } =
            .ok worklist ∧
        validateRackCollisions worklist.nodes = .ok () ∧
        topo worklist.graph collected.requested = .ok order ∧
        closure = {
          requested := collected.requested, requestedMappings := some collected.mappings,
          normalizationTaps := some (sortByKey id worklist.used),
          nodes := sortByKey Node.id worklist.nodes.values, installOrder := order } ∧
        validateClosureResult closure = .ok () := by
  simp only [resolve, bind_eq_ok, check_eq_ok]
  constructor
  · rintro ⟨_, supported, result⟩
    by_cases empty : roots = []
    · rw [if_pos empty, throw_bind] at result
      cases result
    · rw [if_neg empty] at result
      obtain ⟨collected, loop, worklist, drained, _, racks, order, ordered, _, valid, made⟩ :=
        by simpa only [bind_eq_ok, check_eq_ok] using result
      obtain rfl := Except.ok.inj made
      exact ⟨collected, worklist, order, supported, empty, loop, drained, racks, ordered, rfl, valid⟩
  · rintro ⟨collected, worklist, order, supported, nonempty, loop, drained, racks, ordered, rfl,
      valid⟩
    refine ⟨(), supported, ?_⟩
    rw [if_neg nonempty]
    simp only [bind_eq_ok, check_eq_ok]
    exact ⟨collected, loop, worklist, drained, (), racks, order, ordered, (), valid, rfl⟩

/-- A resolved closure in terms of the expansions of its nodes. -/
structure Resolved (resolver : Resolver) (platform : Platform) (roots : List FormulaID)
    (closure : ClosureResult) : Prop where
  validRoots : ∀ raw ∈ roots, FormulaID.validate raw = .ok ()
  normal : List.Forall₂ (NormalizesRoot resolver) roots closure.requested
  mappings : closure.requestedMappings = some (List.zipWith rootMapping roots closure.requested)
  distinct : closure.requested.Nodup
  expanded : ∀ node ∈ closure.nodes, ∃ expansion : Expansion,
    expansion.Valid resolver platform (closure.requested.contains node.id) node.id ∧
      node = expansion.node
  taps : ∀ tap, tap ∈ closure.normalizationTaps.getD [] ↔
    (∃ raw ∈ roots, tap ∈ (resolver.lookupExact raw).taps) ∨
      ∃ node ∈ closure.nodes, ∃ expansion : Expansion,
        expansion.Valid resolver platform (closure.requested.contains node.id) node.id ∧
          tap ∈ expansion.taps resolver node.id
  accepted : validateClosureResult closure = .ok ()

theorem resolved_of_resolve (result : resolver.resolve roots platform = .ok closure) :
    Resolved resolver platform roots closure := by
  obtain ⟨collected, worklist, order, _, _, loop, drained, _, _, rfl, accepted⟩ :=
    Resolver.resolve_eq_ok.mp result
  obtain ⟨ids, collects⟩ := collects_of_loop loop
  have requested : collected.requested = ids := by simpa using collects.requested
  have traced := drain_traced drained (traced_initial collected.used)
  have nodeOf : ∀ node ∈ sortByKey Node.id worklist.nodes.values,
      worklist.nodes.lookup node.id = some node := by
    intro node member
    obtain ⟨key, found⟩ := Table.mem_values.mp (mem_sortByKey.mp member)
    obtain ⟨expansion, valid, rfl⟩ := traced.expanded key node found
    rw [valid.node_id, found]
  constructor
  · exact collects.valid
  · rw [requested]
    exact collects.normal
  · rw [requested]
    simpa using collects.mappings
  · exact collects.distinct List.nodup_nil
  · intro node member
    exact traced.expanded node.id node (nodeOf node member)
  · intro tap
    simp only [Option.getD_some, mem_sortByKey]
    rw [traced.used tap, collects.used tap]
    simp only [List.not_mem_nil, false_or]
    refine or_congr_right ⟨?_, ?_⟩
    · rintro ⟨id, member, facts⟩
      obtain ⟨node, found⟩ := Option.isSome_iff_exists.mp (AList.lookup_isSome.mpr member)
      obtain ⟨expansion, valid, rfl⟩ := traced.expanded id node found
      refine ⟨expansion.node, Table.mem_values.mpr ⟨id, found⟩, ?_⟩
      rw [valid.node_id]
      exact facts
    · rintro ⟨node, member, facts⟩
      refine ⟨node.id, AList.lookup_isSome.mp ?_, facts⟩
      rw [nodeOf node (mem_sortByKey.mpr member)]
      rfl
  · exact accepted

end Model

end DalecHomebrew.CatalogResolver
