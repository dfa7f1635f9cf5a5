import DalecHomebrew.Catalog.Validate
import DalecHomebrew.Foundation.InstallOrder
import Mathlib.Data.List.Dedup

/-!
# Accepted closures

What `ValidateClosureResult` accepts, without its messages: `AcceptedClosure` has
one field for each loop of the validator, and `validateClosureResult_eq_ok` says
that the two agree.  The validator's own traversal is compared with the
depth-first search of the library: wherever that search succeeds, the traversal
makes the same marks and finds nothing.
-/

namespace DalecHomebrew.Catalog

open Foundation Foundation.GoString Homebrew

/-- The recorded dependencies of an identity of a closure. -/
def ClosureResult.successors (closure : ClosureResult) (id : FormulaID) : List FormulaID :=
  (((closure.node? id).map Node.dependencies).getD []).map Requirement.id

/-- The identities that a start reaches over recorded dependencies. -/
def ClosureResult.Reaches (closure : ClosureResult) : FormulaID → FormulaID → Prop :=
  Relation.ReflTransGen (DepthFirst.Edge closure.successors)

/-- The tap of a dependency that is spelled with its tap takes part in the normalization. -/
def QualifiedFrom (taps : List TapID) (dependency : Requirement) : Prop :=
  containsChar dependency.raw '/' = true → ∀ id, parseFormulaID dependency.raw = .ok id →
    FormulaID.isCore id = true ∨ FormulaID.tap id ∈ taps

/-- The conditions under which a closure with roots and nodes is accepted. -/
structure AcceptedClosure (closure : ClosureResult) : Prop where
  bounded : closure.nodes.length ≤ maxClosureNodes
  valid : ∀ node ∈ closure.nodes, validateNode node = .ok ()
  ids : (closure.nodes.map Node.id).Nodup
  racks : (closure.nodes.map Node.name).Nodup
  rootValid : ∀ root ∈ closure.requested, FormulaID.validate root = .ok ()
  rootOnce : closure.requested.Nodup
  rootKnown : ∀ root ∈ closure.requested, root ∈ closure.nodes.map Node.id
  mappingCount : closure.mappings.length = closure.requested.length
  mappingValid : ∀ mapping ∈ closure.mappings, FormulaID.validate mapping.requested = .ok () ∧
    FormulaID.validate mapping.resolved = .ok ()
  mappingSources : (closure.mappings.map RequestedMapping.requested).Nodup
  mappingTargets : (closure.mappings.map RequestedMapping.resolved).Nodup
  mapped : ∀ root ∈ closure.requested, root ∈ closure.mappings.map RequestedMapping.resolved
  tapValid : ∀ tap ∈ normalizedClosureTaps closure,
    TapID.isCore tap = false ∧ TapID.validate tap = .ok ()
  tapOnce : (normalizedClosureTaps closure).Nodup
  mappingTap : ∀ mapping ∈ closure.mappings, FormulaID.isCore mapping.requested = true ∨
    FormulaID.tap mapping.requested ∈ normalizedClosureTaps closure
  nodeTap : ∀ node ∈ closure.nodes, FormulaID.isCore node.id = true ∨
    node.tap ∈ normalizedClosureTaps closure
  rawTap : ∀ node ∈ closure.nodes, ∀ dependency ∈ node.dependencies,
    QualifiedFrom (normalizedClosureTaps closure) dependency
  edges : ∀ node ∈ closure.nodes, ∀ dependency ∈ node.dependencies,
    dependency.id ∈ closure.nodes.map Node.id
  orderCount : closure.installOrder.length = closure.nodes.length
  orderValid : ∀ id ∈ closure.installOrder, FormulaID.validate id = .ok ()
  orderKnown : ∀ id ∈ closure.installOrder, id ∈ closure.nodes.map Node.id
  orderOnce : closure.installOrder.Nodup
  placed : ∀ node ∈ closure.nodes, ∃ index, closure.position node.id = some index ∧
    ∀ dependency ∈ node.dependencies, ∃ earlier,
      closure.position dependency.id = some earlier ∧ earlier < index
  reached : ∀ node ∈ closure.nodes, ∃ root ∈ closure.requested, closure.Reaches root node.id

section Model

variable {closure : ClosureResult}

/-! ## The node map -/

variable {id : FormulaID}

theorem node?_isSome : (closure.node? id).isSome ↔ id ∈ closure.nodes.map Node.id := by
  simp [ClosureResult.node?, List.find?_isSome, List.mem_map]

theorem node?_isNone_eq_false :
    (closure.node? id).isNone = false ↔ id ∈ closure.nodes.map Node.id := by
  rw [← node?_isSome]
  cases closure.node? id <;> simp

variable {node : Node}

theorem mem_of_node? (found : closure.node? id = some node) : node ∈ closure.nodes ∧ node.id = id :=
  ⟨List.mem_reverse.mp (List.mem_of_find?_eq_some found), by simpa using List.find?_some found⟩

/-- With distinct identities the map finds every node of the closure. -/
theorem node?_of_mem (ids : (closure.nodes.map Node.id).Nodup)
    (member : node ∈ closure.nodes) : closure.node? node.id = some node := by
  obtain ⟨found, selected⟩ := Option.isSome_iff_exists.mp
    (node?_isSome.mpr (List.mem_map_of_mem (f := Node.id) member))
  obtain ⟨among, same⟩ := mem_of_node? selected
  rw [selected, List.inj_on_of_nodup_map ids among member same]

theorem successors_of_mem (ids : (closure.nodes.map Node.id).Nodup)
    (member : node ∈ closure.nodes) :
    closure.successors node.id = node.dependencies.map Requirement.id := by
  simp [ClosureResult.successors, node?_of_mem ids member]

theorem node_of_successor {successor : FormulaID} (edge : successor ∈ closure.successors id) :
    ∃ node ∈ closure.nodes, node.id = id ∧
      ∃ dependency ∈ node.dependencies, dependency.id = successor := by
  unfold ClosureResult.successors at edge
  cases found : closure.node? id with
  | none => simp [found] at edge
  | some node =>
    obtain ⟨member, same⟩ := mem_of_node? found
    simp only [found, Option.map_some, Option.getD_some, List.mem_map] at edge
    exact ⟨node, member, same, edge⟩

/-- The identity of a valid node is the one its fields are about. -/
theorem identity_of_validateNode (valid : validateNode node = .ok ()) :
    FormulaID.validate node.id = .ok () ∧ node.tap = FormulaID.tap node.id ∧
      node.name = FormulaID.name node.id ∧ node.homebrewFullName = node.id := by
  simp only [validateNode, joinErrors_eq_ok, List.append_eq_nil_iff, nested_eq_nil,
    finding_eq_nil, bne_eq_false_iff_eq] at valid
  exact ⟨valid.1.1.1.1.1.1.1.1.1, valid.1.1.1.1.1.1.1.2, valid.1.1.1.1.1.2, valid.1.1.1.1.2⟩

/-! ## The validator's traversal -/

/-- The traversal after it has come to an identity for the first time. -/
def Reach.enter (state : Reach) (id : FormulaID) : Reach where
  marks := Function.update state.marks id .active
  reachable := id :: state.reachable
  findings := state.findings

/-- The traversal after the dependencies of an identity. -/
def Reach.leave (state : Reach) (id : FormulaID) : Reach :=
  { state with marks := Function.update state.marks id .done }

variable {depth : Nat}

theorem reach_done {state : Reach} (done : state.marks id = .done) :
    reach closure (depth + 1) state id = { state with reachable := id :: state.reachable } := by
  simp [reach, done]

theorem reach_fresh {state : Reach} (fresh : state.marks id = .fresh) :
    reach closure (depth + 1) state id =
      ((closure.successors id).foldl (reach closure depth) (state.enter id)).leave id := by
  simp only [reach, fresh]
  rfl

/-- The traversal before its first root. -/
def Reach.initial : Reach where
  marks := fun _ => .fresh
  reachable := []
  findings := []

/-- Everything the traversal has seen is recorded as reachable. -/
def Reach.Covers (state : Reach) : Prop :=
  ∀ id, state.marks id ≠ .fresh → id ∈ state.reachable

/-- The traversal made the marks of a search and found nothing. -/
structure Reach.Follows (search : DepthFirst.Search FormulaID) (source target : Reach) : Prop where
  marks : target.marks = search.marks
  covers : target.Covers
  grows : source.reachable ⊆ target.reachable
  findings : target.findings = source.findings

theorem reach_follows_foldl
    (single : ∀ search id visited (state : Reach),
      DepthFirst.visit closure.successors depth search id = .ok visited →
      state.marks = search.marks → state.Covers →
      Reach.Follows visited state (reach closure depth state id))
    (ids : List FormulaID) :
    ∀ {search visited} {state : Reach},
      ids.foldlM (DepthFirst.visit closure.successors depth) search = .ok visited →
      state.marks = search.marks → state.Covers →
      Reach.Follows visited state (ids.foldl (reach closure depth) state) := by
  induction ids with
  | nil =>
    intro search visited state result same covers
    obtain rfl := foldlM_nil_eq_ok.mp result
    exact ⟨same, covers, List.Subset.refl _, rfl⟩
  | cons id rest ih =>
    intro search visited state result same covers
    obtain ⟨middle, first, later⟩ := foldlM_cons_eq_ok.mp result
    have step := single search id middle state first same covers
    have steps := ih later step.marks step.covers
    exact ⟨steps.marks, steps.covers, List.Subset.trans step.grows steps.grows,
      steps.findings.trans step.findings⟩

/-- Where the search succeeds, the traversal follows it. -/
theorem reach_follows (depth : Nat) :
    ∀ search id visited (state : Reach),
      DepthFirst.visit closure.successors depth search id = .ok visited →
      state.marks = search.marks → state.Covers →
      Reach.Follows visited state (reach closure depth state id) := by
  induction depth with
  | zero =>
    intro search id visited state result
    simp [DepthFirst.visit] at result
  | succ depth ih =>
    intro search id visited state result same covers
    rw [DepthFirst.visit] at result
    cases mark : search.marks id with
    | active => simp [mark] at result
    | done =>
      obtain rfl : search = visited := by simpa [mark] using result
      rw [reach_done (by rw [same, mark])]
      exact ⟨same, fun other seen => List.mem_cons_of_mem _ (covers other seen),
        List.subset_cons_self _ _, rfl⟩
    | fresh =>
      simp only [mark, bind_eq_ok] at result
      obtain ⟨middle, inner, left⟩ := result
      obtain rfl := Except.ok.inj left
      rw [reach_fresh (by rw [same, mark])]
      have entered : (state.enter id).Covers := by
        intro other seen
        by_cases equal : other = id
        · simp [Reach.enter, equal]
        · simp only [Reach.enter, Function.update_of_ne equal] at seen
          exact List.mem_cons_of_mem _ (covers other seen)
      have steps := reach_follows_foldl ih (closure.successors id) inner
        (by simp [Reach.enter, DepthFirst.Search.enter, same]) entered
      refine ⟨by simp [Reach.leave, DepthFirst.Search.leave, steps.marks], ?_, ?_, steps.findings⟩
      · intro other seen
        by_cases equal : other = id
        · exact steps.grows (by simp [Reach.enter, equal])
        · simp only [Reach.leave, Function.update_of_ne equal] at seen
          exact steps.covers other seen
      · exact List.Subset.trans (List.subset_cons_self _ _) steps.grows

/-- The traversal records only identities that the edges reach. -/
theorem reach_reachable (depth : Nat) :
    ∀ (state : Reach) start id, id ∈ (reach closure depth state start).reachable →
      id ∈ state.reachable ∨ closure.Reaches start id := by
  induction depth with
  | zero => exact fun _ _ _ member => .inl member
  | succ depth ih =>
    intro state start id member
    cases mark : state.marks start with
    | active => exact .inl (by simpa [reach, mark] using member)
    | done =>
      rw [reach_done mark] at member
      rcases List.mem_cons.mp member with rfl | old
      · exact .inr .refl
      · exact .inl old
    | fresh =>
      rw [reach_fresh mark] at member
      rcases foldl_origin (motive := fun state : Reach => id ∈ state.reachable)
        (fun state next => ih state next id) member with early | ⟨next, edge, path⟩
      · rcases List.mem_cons.mp early with rfl | old
        · exact .inr .refl
        · exact .inl old
      · exact .inr (.head edge path)

/-! ## The loops of the validator -/

/-- Among nodes with other identities every shared rack name is found. -/
theorem sharedRack_eq_nil {earlier : List Node} {message : Node → String}
    (others : ∀ other ∈ earlier, other.id ≠ node.id) :
    ((match earlier.reverse.find? fun other => other.name == node.name with
      | some prior => finding (prior.id != node.id) (message prior)
      | none => []) = []) ↔ ∀ other ∈ earlier, other.name ≠ node.name := by
  split
  · rename_i prior found
    have among := List.mem_reverse.mp (List.mem_of_find?_eq_some found)
    have same : prior.name = node.name := by simpa using List.find?_some found
    simp only [finding_eq_nil, bne_eq_false_iff_eq]
    exact ⟨fun equal => absurd equal (others prior among), fun every => absurd same (every prior among)⟩
  · rename_i missing
    simpa [List.find?_eq_none] using missing

theorem nodeFindings_eq_nil :
    nodeFindings closure = [] ↔ (∀ node ∈ closure.nodes, validateNode node = .ok ()) ∧
        (closure.nodes.map Node.id).Nodup ∧ (closure.nodes.map Node.name).Nodup := by
  simp only [nodeFindings, List.flatMap_eq_nil_iff, List.append_eq_nil_iff, nested_eq_nil,
    finding_eq_nil, forall_and]
  rw [@forall_zipIdx Node closure.nodes fun node => validateNode node = .ok (), and_assoc,
    forall_zipIdx_fresh]
  refine and_congr_right fun _ => and_congr_right fun ids => ?_
  rw [← forall_positioned_fresh] at ids ⊢
  rw [← @forall_zipIdx_iff Node closure.nodes fun before node =>
    ∀ other ∈ before, other.name ≠ node.name]
  rw [← @forall_zipIdx_iff Node closure.nodes fun before node =>
    ∀ other ∈ before, other.id ≠ node.id] at ids
  exact forall₂_congr fun entry member => sharedRack_eq_nil (ids entry member)

theorem requestedFindings_eq_nil :
    requestedFindings closure = [] ↔
      (∀ root ∈ closure.requested, FormulaID.validate root = .ok ()) ∧ closure.requested.Nodup ∧
        ∀ root ∈ closure.requested, root ∈ closure.nodes.map Node.id := by
  simp only [requestedFindings, List.flatMap_eq_nil_iff, List.append_eq_nil_iff, nested_eq_nil,
    finding_eq_nil, node?_isNone_eq_false, forall_and]
  rw [forall_zipIdx_new, and_assoc,
    @forall_zipIdx FormulaID closure.requested fun root => FormulaID.validate root = .ok (),
    @forall_zipIdx FormulaID closure.requested fun root => root ∈ closure.nodes.map Node.id]

theorem mappingFindings_eq_nil :
    mappingFindings closure = [] ↔ closure.mappings.length = closure.requested.length ∧
      (∀ mapping ∈ closure.mappings, FormulaID.validate mapping.requested = .ok () ∧
        FormulaID.validate mapping.resolved = .ok ()) ∧
      (closure.mappings.map RequestedMapping.requested).Nodup ∧
      (closure.mappings.map RequestedMapping.resolved).Nodup ∧
      ∀ root ∈ closure.requested, root ∈ closure.mappings.map RequestedMapping.resolved := by
  simp only [mappingFindings, List.flatMap_eq_nil_iff, List.append_eq_nil_iff, nested_eq_nil,
    finding_eq_nil, bne_eq_false_iff_eq, List.mem_dedup, Bool.not_eq_false', forall_and]
  rw [forall_zipIdx_fresh, forall_zipIdx_fresh,
    @forall_zipIdx RequestedMapping closure.mappings fun mapping =>
      FormulaID.validate mapping.requested = .ok (),
    @forall_zipIdx RequestedMapping closure.mappings fun mapping =>
      FormulaID.validate mapping.resolved = .ok ()]
  simp only [and_assoc, List.any_eq_true, beq_iff_eq, List.mem_map]

theorem absentTap_eq_false {tap : TapID} {taps : List TapID} :
    (!FormulaID.isCore id && !taps.contains tap) = false ↔
      FormulaID.isCore id = true ∨ tap ∈ taps := by
  cases FormulaID.isCore id <;> simp

theorem qualifiedFrom_iff {taps : List TapID} {dependency : Requirement}
    {message : FormulaID → String} :
    (if containsChar dependency.raw '/' then
        match parseFormulaID dependency.raw with
        | .ok rawID =>
          finding (!FormulaID.isCore rawID && !taps.contains (FormulaID.tap rawID))
            (message rawID)
        | .error _ => []
      else []) = [] ↔ QualifiedFrom taps dependency := by
  unfold QualifiedFrom
  split
  · rename_i slash
    split
    · rename_i rawID parsed
      simp only [finding_eq_nil, absentTap_eq_false, slash, forall_const, Except.ok.injEq,
        forall_eq', parsed]
    · rename_i error parsed
      simp [parsed]
  · rename_i bare
    simp [bare]

theorem validTap_iff {tap : TapID} :
    (TapID.isCore tap || (match TapID.validate tap with | .ok _ => false | .error _ => true)) = false ↔
      TapID.isCore tap = false ∧ TapID.validate tap = .ok () := by
  rw [Bool.or_eq_false_iff]
  refine and_congr_right fun _ => ?_
  split
  · rename_i valid
    simp [valid]
  · rename_i invalid
    simp [invalid]

theorem normalizationFindings_eq_nil :
    normalizationFindings closure = [] ↔ ((∀ tap ∈ normalizedClosureTaps closure,
        TapID.isCore tap = false ∧ TapID.validate tap = .ok ()) ∧
      (normalizedClosureTaps closure).Nodup) ∧
      (∀ mapping ∈ closure.mappings, FormulaID.isCore mapping.requested = true ∨
        FormulaID.tap mapping.requested ∈ normalizedClosureTaps closure) ∧
      ∀ node ∈ closure.nodes, (FormulaID.isCore node.id = true ∨
        node.tap ∈ normalizedClosureTaps closure) ∧ ∀ dependency ∈ node.dependencies,
        QualifiedFrom (normalizedClosureTaps closure) dependency ∧
          dependency.id ∈ closure.nodes.map Node.id := by
  simp only [normalizationFindings, List.flatMap_eq_nil_iff, List.append_eq_nil_iff,
    finding_eq_nil, node?_isNone_eq_false, absentTap_eq_false]
  refine and_assoc.trans (and_congr ?_ (and_congr Iff.rfl (forall₂_congr fun node _ => and_congr Iff.rfl
    (forall₂_congr fun dependency _ => and_congr qualifiedFrom_iff Iff.rfl))))
  rw [← forall_zipIdx_and_new]
  exact forall₂_congr fun entry _ => and_congr validTap_iff Iff.rfl

theorem placed_eq_nil {message : Requirement → String} :
    (match closure.position node.id with
      | none => ["install_order omits node " ++ quote node.id]
      | some nodePosition =>
        node.dependencies.flatMap fun dependency =>
          finding ((closure.position dependency.id).all fun dependencyPosition =>
              nodePosition ≤ dependencyPosition)
            (message dependency)) = [] ↔
      ∃ index, closure.position node.id = some index ∧ ∀ dependency ∈ node.dependencies, ∃ earlier,
          closure.position dependency.id = some earlier ∧ earlier < index := by
  split
  · rename_i absent
    simp [absent]
  · rename_i index found
    simp only [List.flatMap_eq_nil_iff, finding_eq_nil, found, Option.some.injEq, exists_eq_left']
    refine forall₂_congr fun dependency _ => ?_
    cases closure.position dependency.id <;> simp

theorem installOrderFindings_eq_nil (ids : (closure.nodes.map Node.id).Nodup) :
    installOrderFindings closure = [] ↔ closure.installOrder.length = closure.nodes.length ∧
      ((∀ id ∈ closure.installOrder, FormulaID.validate id = .ok () ∧
        id ∈ closure.nodes.map Node.id) ∧ closure.installOrder.Nodup) ∧
      ∀ node ∈ closure.nodes, ∃ index, closure.position node.id = some index ∧
        ∀ dependency ∈ node.dependencies, ∃ earlier,
          closure.position dependency.id = some earlier ∧ earlier < index := by
  simp only [installOrderFindings, List.flatMap_eq_nil_iff, List.append_eq_nil_iff, nested_eq_nil,
    finding_eq_nil, node?_isNone_eq_false, bne_eq_false_iff_eq, ids.dedup, List.length_map]
  refine and_assoc.trans (and_congr Iff.rfl (and_congr ?_
    (forall₂_congr fun node _ => placed_eq_nil)))
  exact @forall_zipIdx_and_new FormulaID closure.installOrder _ fun id =>
    FormulaID.validate id = .ok () ∧ id ∈ closure.nodes.map Node.id

/-! ## Reachability -/

/-- Every identity that occurs in a closure. -/
def ClosureResult.identities (closure : ClosureResult) : List FormulaID :=
  closure.requested ++ closure.nodes.flatMap fun node =>
    node.id :: node.dependencies.map Requirement.id

theorem successors_subset_identities (id : FormulaID) :
    closure.successors id ⊆ closure.identities := by
  intro successor edge
  obtain ⟨node, member, _, dependency, among, rfl⟩ := node_of_successor edge
  exact List.mem_append_right _ (List.mem_flatMap.mpr
    ⟨node, member, List.mem_cons_of_mem _ (List.mem_map_of_mem among)⟩)

/-- Without a cycle the traversal finds nothing exactly when it comes to every node. -/
theorem reachabilityFindings_eq_nil
    (acyclic : ∀ id, ¬ Relation.TransGen (DepthFirst.Edge closure.successors) id id) :
    reachabilityFindings closure = [] ↔
      ∀ node ∈ closure.nodes, ∃ root ∈ closure.requested, closure.Reaches root node.id := by
  obtain ⟨search, searched⟩ := DepthFirst.visitAll_succeeds
    (fun id _ => successors_subset_identities id) (List.subset_append_left closure.requested _)
    acyclic
  have follows : Reach.Follows search .initial
      (closure.requested.foldl (reach closure (closure.identities.length + 1)) .initial) :=
    reach_follows_foldl (reach_follows _) closure.requested searched rfl
      (by simp [Reach.Covers, Reach.initial])
  have visited := DepthFirst.visited_foldlM (DepthFirst.visited_visit _) closure.requested
    (DepthFirst.Search.wellFormed_initial _) searched
  obtain ⟨_, _, order⟩ := DepthFirst.visitAll_spec searched
  have recorded : ∀ id, id ∈ (closure.requested.foldl
      (reach closure (closure.identities.length + 1)) .initial).reachable ↔
      ∃ root ∈ closure.requested, closure.Reaches root id := by
    intro id
    constructor
    · intro member
      rcases foldl_origin (motive := fun state : Reach => id ∈ state.reachable)
        (fun state root => reach_reachable _ state root id) member with early | reached
      · simp [Reach.initial] at early
      · exact reached
    · intro reached
      refine follows.covers id ?_
      rw [follows.marks, (visited.wellFormed.done_iff id).mpr ((order id).mpr reached)]
      simp
  have unfolded : reachabilityFindings closure = [] ↔ ∀ node ∈ closure.nodes,
      node.id ∈ (closure.requested.foldl
        (reach closure (closure.identities.length + 1)) .initial).reachable := by
    have quiet := follows.findings
    simp only [reachabilityFindings, List.append_eq_nil_iff, List.flatMap_eq_nil_iff,
      finding_eq_nil, Bool.not_eq_false', List.contains_iff_mem]
    exact and_iff_right quiet
  rw [unfolded]
  exact forall₂_congr fun node _ => recorded node.id

/-! ## Acceptance -/

/-- The conditions on positions are those of the library. -/
theorem placed_of_order (ids : (closure.nodes.map Node.id).Nodup)
    (orderOnce : closure.installOrder.Nodup)
    (orderKnown : ∀ id ∈ closure.installOrder, id ∈ closure.nodes.map Node.id)
    (placed : ∀ node ∈ closure.nodes, ∃ index, closure.position node.id = some index ∧
      ∀ dependency ∈ node.dependencies, ∃ earlier,
        closure.position dependency.id = some earlier ∧ earlier < index) :
    InstallOrder.Placed (closure.nodes.map Node.id) closure.successors closure.installOrder where
  distinct := orderOnce
  known := orderKnown
  placed := by
    intro id member
    obtain ⟨node, among, rfl⟩ := List.mem_map.mp member
    obtain ⟨index, found, earlier⟩ := placed node among
    refine ⟨index, found, ?_⟩
    rw [successors_of_mem ids among]
    intro successor edge
    obtain ⟨dependency, listed, rfl⟩ := List.mem_map.mp edge
    exact earlier dependency listed

theorem acyclic_of_placed
    (placed : InstallOrder.Placed (closure.nodes.map Node.id) closure.successors
      closure.installOrder) (id : FormulaID) :
    ¬ Relation.TransGen (DepthFirst.Edge closure.successors) id id := by
  intro path
  obtain ⟨next, edge, _⟩ := Relation.TransGen.head'_iff.mp path
  obtain ⟨node, member, rfl, _⟩ := node_of_successor edge
  exact placed.acyclic (List.mem_map_of_mem member) path

/-- The validator accepts a closure with roots and nodes exactly under these conditions. -/
theorem validateClosureResult_eq_ok (rooted : closure.requested ≠ [])
    (inhabited : closure.nodes ≠ []) :
    validateClosureResult closure = .ok () ↔ AcceptedClosure closure := by
  simp only [validateClosureResult, rooted, inhabited, or_self, if_false, joinErrors_eq_ok,
    List.append_eq_nil_iff, finding_eq_nil, nodeFindings_eq_nil, requestedFindings_eq_nil,
    mappingFindings_eq_nil, normalizationFindings_eq_nil, decide_eq_false_iff_not, not_lt]
  constructor
  · rintro ⟨⟨⟨⟨⟨⟨bounded, valid, ids, racks⟩, rootValid, rootOnce, rootKnown⟩, mappingCount,
      mappingValid, mappingSources, mappingTargets, mapped⟩, ⟨tapValid, tapOnce⟩, mappingTap,
      nodes⟩, order⟩, reached⟩
    obtain ⟨orderCount, ⟨orderEntries, orderOnce⟩, placed⟩ := (installOrderFindings_eq_nil ids).mp order
    have acyclic := acyclic_of_placed
      (placed_of_order ids orderOnce (fun id member => (orderEntries id member).2) placed)
    exact {
      bounded, valid, ids, racks, rootValid, rootOnce, rootKnown, mappingCount, mappingValid,
      mappingSources, mappingTargets, mapped, tapValid, tapOnce, mappingTap, orderCount, orderOnce,
      placed
      nodeTap := fun node member => (nodes node member).1
      rawTap := fun node member dependency among => ((nodes node member).2 dependency among).1
      edges := fun node member dependency among => ((nodes node member).2 dependency among).2
      orderValid := fun id member => (orderEntries id member).1
      orderKnown := fun id member => (orderEntries id member).2
      reached := (reachabilityFindings_eq_nil acyclic).mp reached }
  · intro accepted
    have acyclic := acyclic_of_placed (placed_of_order accepted.ids accepted.orderOnce
      accepted.orderKnown accepted.placed)
    exact ⟨⟨⟨⟨⟨⟨accepted.bounded, accepted.valid, accepted.ids, accepted.racks⟩,
      accepted.rootValid, accepted.rootOnce, accepted.rootKnown⟩,
      accepted.mappingCount, accepted.mappingValid, accepted.mappingSources,
      accepted.mappingTargets, accepted.mapped⟩,
      ⟨accepted.tapValid, accepted.tapOnce⟩, accepted.mappingTap,
      fun node member => ⟨accepted.nodeTap node member, fun dependency among =>
        ⟨accepted.rawTap node member dependency among, accepted.edges node member dependency among⟩⟩⟩,
      (installOrderFindings_eq_nil accepted.ids).mpr ⟨accepted.orderCount,
        ⟨fun id member => ⟨accepted.orderValid id member, accepted.orderKnown id member⟩,
          accepted.orderOnce⟩, accepted.placed⟩⟩,
      (reachabilityFindings_eq_nil acyclic).mpr accepted.reached⟩

/-- The order of an accepted closure passes the local conditions of the library. -/
theorem AcceptedClosure.checked (accepted : AcceptedClosure closure) :
    InstallOrder.Checked (closure.nodes.map Node.id) closure.successors closure.requested
      closure.installOrder where
  toPlaced := placed_of_order accepted.ids accepted.orderOnce accepted.orderKnown accepted.placed
  rooted := accepted.rootKnown
  reached := by
    intro id member
    obtain ⟨node, among, rfl⟩ := List.mem_map.mp member
    exact accepted.reached node among

/-- A closure without roots is valid only if it has no taps. -/
theorem validateClosureResult_iff :
    validateClosureResult closure = .ok () ↔
      AcceptedClosure closure ∧ (closure.requested = [] → normalizedClosureTaps closure = []) := by
  by_cases empty : closure.requested = [] ∨ closure.nodes = []
  · simp only [validateClosureResult, if_pos empty, joinErrors_eq_ok, List.append_eq_nil_iff,
      finding_eq_nil, Bool.or_eq_false_iff, bne_eq_false_iff_eq, decide_eq_false_iff_not, not_lt]
    obtain ⟨requested, requestedMappings, normalizationTaps, nodes, installOrder⟩ := closure
    have tapsOf : normalizedClosureTaps ⟨[], requestedMappings, normalizationTaps, [], []⟩ =
        normalizationTaps.getD [] := by
      cases normalizationTaps <;> rfl
    constructor
    · rintro ⟨-, ⟨⟨⟨rfl, rfl⟩, rfl⟩, mappings⟩, taps⟩
      have noMappings : ClosureResult.mappings ⟨[], requestedMappings, normalizationTaps, [], []⟩ =
          [] := mappings
      rw [← tapsOf] at taps
      refine ⟨?_, fun _ => taps⟩
      constructor <;> simp [noMappings, taps]
    · rintro ⟨accepted, taps⟩
      obtain rfl : nodes = [] := by
        refine empty.elim (fun unrooted => List.eq_nil_iff_forall_not_mem.mpr ?_) id
        intro node member
        obtain ⟨root, listed, _⟩ := accepted.reached node member
        simp only at unrooted listed
        rw [unrooted] at listed
        cases listed
      obtain rfl : requested = [] :=
        List.eq_nil_iff_forall_not_mem.mpr fun root listed => by
          simpa using accepted.rootKnown root listed
      obtain rfl : installOrder = [] := List.length_eq_zero_iff.mp accepted.orderCount
      have noMappings := List.length_eq_zero_iff.mp accepted.mappingCount
      exact ⟨accepted.bounded, ⟨⟨⟨rfl, rfl⟩, rfl⟩, noMappings⟩, tapsOf.symm.trans (taps rfl)⟩
  · obtain ⟨rooted, inhabited⟩ := not_or.mp empty
    rw [validateClosureResult_eq_ok rooted inhabited]
    exact ⟨fun accepted => ⟨accepted, fun unrooted => absurd unrooted rooted⟩, And.left⟩

/-- An accepted closure, with roots or empty, has a sound order and distinct rack names. -/
theorem sound_of_validateClosureResult (valid : validateClosureResult closure = .ok ()) :
    InstallOrder.Sound (closure.nodes.map Node.id) closure.successors closure.requested
      closure.installOrder ∧ (closure.nodes.map Node.name).Nodup :=
  have accepted := (validateClosureResult_iff.mp valid).1
  ⟨accepted.checked.sound, accepted.racks⟩

end Model

end DalecHomebrew.Catalog
