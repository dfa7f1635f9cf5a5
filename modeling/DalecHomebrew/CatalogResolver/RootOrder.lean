import DalecHomebrew.Catalog.Compare
import DalecHomebrew.CatalogResolver.Subrun

/-!
# The order of the roots

What a run computes for an identity depends on the identity and on whether it is
a requested root, and the least closed set depends on the set of roots.  So two
runs over permuted roots both succeed or both fail, and their closures differ in
the order of the roots and in the install order only (`resolve_root_order`).
-/

namespace DalecHomebrew.CatalogResolver

open Catalog Foundation Homebrew Policy

section Model

variable {resolver : Resolver} {platform : Platform} {roots permuted : List FormulaID}
  {closure other : ClosureResult}

/-! ## Permuted roots -/

variable {ids permutedIDs : List FormulaID}

theorem contains_of_perm (perm : permutedIDs.Perm ids)
    (id : FormulaID) : permutedIDs.contains id = ids.contains id := by
  rw [Bool.eq_iff_iff, List.contains_iff_mem, List.contains_iff_mem]
  exact perm.mem_iff

/-- Everything that the roots reach is a node of their closure. -/
theorem mem_of_reached (result : resolver.resolve roots platform = .ok closure) {id : FormulaID}
    (reached : Reached resolver platform closure.requested id) :
    id ∈ closure.nodes.map Node.id := by
  have resolved := resolved_of_resolve result
  have closed := (correctClosure_of_resolve result).least.1
  obtain ⟨root, member, path⟩ := reached
  induction path with
  | refl =>
    obtain ⟨raw, among, normal⟩ := (root_of_forall₂ resolved.normal).mp member
    exact closed.roots raw among root normal
  | tail _ edge ih => exact closed.dependencies _ ih _ edge

/-- Permuted roots resolve. -/
theorem resolves_of_perm (perm : permuted.Perm roots)
    (result : resolver.resolve roots platform = .ok closure) :
    ∃ other, resolver.resolve permuted platform = .ok other := by
  have resolved := resolved_of_resolve result
  obtain ⟨ids, normal, same⟩ := List.perm_comp_forall₂ perm resolved.normal
  have nonempty : permuted ≠ [] := by
    obtain ⟨_, _, _, _, nonempty, _⟩ := Resolver.resolve_eq_ok.mp result
    exact fun empty => nonempty (List.perm_nil.mp (empty ▸ perm.symm))
  have shares : Shares resolver platform closure ids := by
    rintro id ⟨root, member, path⟩
    obtain ⟨node, among, rfl⟩ := List.mem_map.mp
      (mem_of_reached result ⟨root, same.mem_iff.mp member, path⟩)
    obtain ⟨expansion, valid, written⟩ := resolved.expanded node among
    refine ⟨expansion, valid, ?_, written ▸ among⟩
    rw [contains_of_perm same]
    exact valid
  obtain ⟨other, resolves, _⟩ := resolves_of_shares result perm.subset nonempty normal
    (same.nodup_iff.mpr resolved.distinct) shares
  exact ⟨other, resolves⟩

/-! ## What both closures record -/

theorem mem_zipWith_rootMapping {raws : List FormulaID}
    (normal : List.Forall₂ (NormalizesRoot resolver) raws ids) {mapping : RequestedMapping} :
    mapping ∈ List.zipWith rootMapping raws ids ↔ mapping.requested ∈ raws ∧
        NormalizesRoot resolver mapping.requested mapping.resolved := by
  induction normal with
  | nil => simp
  | @cons raw id rest restIDs head _ ih =>
    rw [List.zipWith_cons_cons, List.mem_cons, ih, List.mem_cons]
    constructor
    · rintro (rfl | ⟨member, normal⟩)
      · exact ⟨.inl rfl, head⟩
      · exact ⟨.inr member, normal⟩
    · rintro ⟨rfl | member, normal⟩
      · obtain ⟨_, one⟩ := head
        obtain ⟨_, another⟩ := normal
        have same : id = mapping.resolved :=
          congrArg Prod.fst (Except.ok.inj (one.symm.trans another))
        exact .inl (by rw [rootMapping, same])
      · exact .inr ⟨member, normal⟩

section

variable (perm : permuted.Perm roots) (result : resolver.resolve roots platform = .ok closure)
  (otherResult : resolver.resolve permuted platform = .ok other)

include perm result otherResult

theorem requested_of_perm :
    other.requested.Perm closure.requested := by
  have resolved := resolved_of_resolve result
  have otherResolved := resolved_of_resolve otherResult
  refine (List.perm_ext_iff_of_nodup otherResolved.distinct resolved.distinct).mpr fun id => ?_
  rw [root_of_forall₂ otherResolved.normal, root_of_forall₂ resolved.normal]
  simp only [perm.mem_iff]

theorem mappings_of_perm :
    other.mappings.Perm closure.mappings := by
  have resolved := resolved_of_resolve result
  have otherResolved := resolved_of_resolve otherResult
  have distinct := (acceptedClosure_of_resolve result).mappingSources.of_map
  have otherDistinct := (acceptedClosure_of_resolve otherResult).mappingSources.of_map
  refine (List.perm_ext_iff_of_nodup otherDistinct distinct).mpr fun mapping => ?_
  rw [ClosureResult.mappings, ClosureResult.mappings, resolved.mappings, otherResolved.mappings,
    Option.getD_some, Option.getD_some, mem_zipWith_rootMapping resolved.normal,
    mem_zipWith_rootMapping otherResolved.normal, perm.mem_iff]

/-- Both runs write the same node for an identity. -/
theorem mem_nodes_of_perm {node : Node} (member : node ∈ closure.nodes) : node ∈ other.nodes := by
  have resolved := resolved_of_resolve result
  have otherResolved := resolved_of_resolve otherResult
  have least := (correctClosure_of_resolve result).least
  have otherClosed := (correctClosure_of_resolve otherResult).least.1
  have closed : Closed resolver platform roots {id | id ∈ other.nodes.map Node.id} :=
    ⟨fun raw among id normal => otherClosed.roots raw (perm.mem_iff.mpr among) id normal,
      otherClosed.dependencies⟩
  have known : node.id ∈ other.nodes.map Node.id := least.2 closed (List.mem_map_of_mem member)
  obtain ⟨found, among, same⟩ := List.mem_map.mp known
  obtain ⟨expansion, valid, written⟩ := resolved.expanded node member
  obtain ⟨otherExpansion, otherValid, otherWritten⟩ := otherResolved.expanded found among
  rw [same, contains_of_perm (requested_of_perm perm result otherResult)] at otherValid
  rw [written, valid.unique otherValid, ← otherWritten]
  exact among

end

theorem sortedClosure_of_resolve (result : resolver.resolve roots platform = .ok closure) :
    SortedClosure closure := by
  have resolved := resolved_of_resolve result
  obtain ⟨_, worklist, _, _, _, _, _, _, _, rfl, _⟩ := Resolver.resolve_eq_ok.mp result
  refine ⟨sortByKey_pairwise _ _, ?_, _, rfl, sortByKey_pairwise _ _⟩
  intro node member
  obtain ⟨expansion, _, rfl⟩ := resolved.expanded node member
  exact sortByKey_pairwise _ _

section

variable (perm : permuted.Perm roots) (result : resolver.resolve roots platform = .ok closure)
  (otherResult : resolver.resolve permuted platform = .ok other)

include perm result otherResult

theorem nodes_of_perm :
    other.nodes = closure.nodes := by
  have ids := (acceptedClosure_of_resolve result).ids
  have otherIDs := (acceptedClosure_of_resolve otherResult).ids
  have same : other.nodes.Perm closure.nodes :=
    (List.perm_ext_iff_of_nodup otherIDs.of_map ids.of_map).mpr fun node =>
      ⟨mem_nodes_of_perm perm.symm otherResult result, mem_nodes_of_perm perm result otherResult⟩
  rw [← sortByKey_of_pairwise (sortedClosure_of_resolve result).nodes,
    ← sortByKey_of_pairwise (sortedClosure_of_resolve otherResult).nodes]
  exact sortByKey_eq_of_perm same fun _ left _ right => List.inj_on_of_nodup_map otherIDs left right

/-- Both runs mark the same taps. -/
theorem taps_of_perm :
    other.normalizationTaps = closure.normalizationTaps := by
  have resolved := resolved_of_resolve result
  have otherResolved := resolved_of_resolve otherResult
  obtain ⟨taps, listed, sorted⟩ := (sortedClosure_of_resolve result).taps
  obtain ⟨otherTaps, otherListed, otherSorted⟩ := (sortedClosure_of_resolve otherResult).taps
  have once : taps.Nodup := by
    simpa [normalizedClosureTaps, listed] using (acceptedClosure_of_resolve result).tapOnce
  have otherOnce : otherTaps.Nodup := by
    simpa [normalizedClosureTaps, otherListed] using
      (acceptedClosure_of_resolve otherResult).tapOnce
  have marked := resolved.taps
  have otherMarked := otherResolved.taps
  rw [listed, Option.getD_some] at marked
  rw [otherListed, Option.getD_some] at otherMarked
  have same : otherTaps.Perm taps := by
    refine (List.perm_ext_iff_of_nodup otherOnce once).mpr fun tap => ?_
    rw [marked, otherMarked, nodes_of_perm perm result otherResult]
    simp only [perm.mem_iff, contains_of_perm (requested_of_perm perm result otherResult)]
  rw [listed, otherListed]
  refine congrArg some ?_
  calc otherTaps = sortByKey id otherTaps := (sortByKey_of_pairwise otherSorted).symm
    _ = sortByKey id taps := sortByKey_eq_of_perm same fun _ _ _ _ equal => equal
    _ = taps := sortByKey_of_pairwise sorted

end

end Model

/--
For every permutation of the roots both orders resolve or neither does.  If they
do, the closures have the same nodes with the same dependencies and the same
taps, their install orders list the same identities, and `CompareClosure`
accepts one for the other once the install order is left aside.
-/
theorem resolve_root_order (resolver : Resolver) (platform : Platform) (codec : ClosureCodec)
    (roots permuted : List FormulaID) (perm : permuted.Perm roots) :
    ((∃ closure, resolver.resolve roots platform = .ok closure) ↔
      ∃ other, resolver.resolve permuted platform = .ok other) ∧
    ∀ closure other, resolver.resolve roots platform = .ok closure →
      resolver.resolve permuted platform = .ok other →
      other.nodes = closure.nodes ∧
      other.normalizationTaps = closure.normalizationTaps ∧
      other.installOrder.Perm closure.installOrder ∧
      compareClosure codec closure { other with installOrder := closure.installOrder } = .ok () := by
  refine ⟨⟨fun ⟨_, result⟩ => resolves_of_perm perm result,
    fun ⟨_, result⟩ => resolves_of_perm perm.symm result⟩, ?_⟩
  intro closure other result otherResult
  have nodes := nodes_of_perm perm result otherResult
  have taps := taps_of_perm perm result otherResult
  have accepted := acceptedClosure_of_resolve result
  have order := (correctClosure_of_resolve result).once
  have otherOrder := (correctClosure_of_resolve otherResult).once
  refine ⟨nodes, taps, ?_, ?_⟩
  · refine (List.perm_ext_iff_of_nodup otherOrder.1 order.1).mpr fun id => ?_
    rw [otherOrder.2, order.2, nodes]
  · have requested := requested_of_perm perm result otherResult
    have mappings := mappings_of_perm perm result otherResult
    have same : closure.unordered =
        ({ other with installOrder := closure.installOrder } : ClosureResult).unordered := by
      refine unordered_eq_iff.mpr ⟨requested.symm, mappings.symm, ?_, by rw [nodes], rfl⟩
      unfold normalizedClosureTaps
      simp only [taps, nodes, List.Perm.refl]
    exact compareClosure_of_unordered (resolved_of_resolve result).accepted same

/-- The two orders give closures that differ in their requests only. -/
theorem resolve_root_order_sample :
    ∃ closure other,
      Sample.resolver.resolve ["homebrew/core/zlib", "acme/tools/t"] Sample.amd64 = .ok closure ∧
      Sample.resolver.resolve ["acme/tools/t", "homebrew/core/zlib"] Sample.amd64 = .ok other ∧
      closure.requested = ["homebrew/core/zlib", "acme/tools/tool"] ∧
      other.requested = ["acme/tools/tool", "homebrew/core/zlib"] ∧
      other.nodes = closure.nodes ∧ other.normalizationTaps = closure.normalizationTaps ∧
      other.installOrder.Perm closure.installOrder ∧
      ∀ codec, compareClosure codec closure
        { other with installOrder := closure.installOrder } = .ok () := by
  have swapped : ["acme/tools/t", "homebrew/core/zlib"].Perm
      ["homebrew/core/zlib", "acme/tools/t"] := List.Perm.swap _ _ _
  have law := fun codec => resolve_root_order Sample.resolver Sample.amd64 codec _ _ swapped
  have first : (Sample.resolver.resolve ["homebrew/core/zlib", "acme/tools/t"]
      Sample.amd64).toOption.map ClosureResult.requested =
        some ["homebrew/core/zlib", "acme/tools/tool"] := by decide +kernel
  have second : (Sample.resolver.resolve ["acme/tools/t", "homebrew/core/zlib"]
      Sample.amd64).toOption.map ClosureResult.requested =
        some ["acme/tools/tool", "homebrew/core/zlib"] := by decide +kernel
  cases result : Sample.resolver.resolve ["homebrew/core/zlib", "acme/tools/t"] Sample.amd64 with
  | error cause =>
    rw [result] at first
    cases first
  | ok closure =>
    obtain ⟨other, otherResult⟩ := (law ⟨fun _ => "", id⟩).1.mp ⟨closure, result⟩
    rw [result] at first
    rw [otherResult] at second
    obtain ⟨nodes, taps, order, -⟩ := (law ⟨fun _ => "", id⟩).2 _ _ result otherResult
    exact ⟨closure, other, rfl, otherResult, Option.some.inj first, Option.some.inj second, nodes,
      taps, order, fun codec => ((law codec).2 _ _ result otherResult).2.2.2⟩

end DalecHomebrew.CatalogResolver
