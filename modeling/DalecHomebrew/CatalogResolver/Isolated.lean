import DalecHomebrew.CatalogResolver.Subrun

/-!
# Resolving one root of many

A root that was resolved together with others is resolved again on its own.
What the second run computes for an identity differs from the first only in the
requested-root flag, which a native bottle makes irrelevant.  So the second run
succeeds if every other tap Formula that the root reaches has a native bottle
(`resolves_alone`), and only then (`standsAlone_of_resolve`).
-/

namespace DalecHomebrew.CatalogResolver

open Catalog Foundation Homebrew Policy

section Model

variable {resolver : Resolver} {platform : Platform}

/-! ## The requested-root flag -/

/-- A record that is installed from a native bottle. -/
def FormulaSource.Native (platform : Platform) : FormulaSource → Prop
  | .core _ _ => True
  | .external formula _ => hasNativeBottleForTag formula.bottle (bottleTag platform) = true

theorem nodeAndDependencies_flag {source : FormulaSource} (native : source.Native platform)
    (flag other : Bool) :
    resolver.nodeAndDependencies source platform (bottleTag platform) flag =
      resolver.nodeAndDependencies source platform (bottleTag platform) other := by
  cases source with
  | core formula id => rfl
  | external formula id =>
    have bottle : hasNativeBottleForTag formula.bottle (bottleTag platform) = true := native
    simp only [Resolver.nodeAndDependencies, Resolver.externalNode, Resolver.externalRebuild,
      bottle, if_true]

section Single

variable {raw id : FormulaID} {whole : ClosureResult}

/-! ## One root resolved again -/

/-- Every other tap Formula that an identity reaches has a native bottle. -/
def StandsAlone (resolver : Resolver) (platform : Platform) (id : FormulaID) : Prop :=
  ∀ other formula, Relation.ReflTransGen (DependsOn resolver platform) id other → other ≠ id →
    Canonical resolver other (.external formula other) →
    hasNativeBottleForTag formula.bottle (bottleTag platform) = true

section

variable {roots : List FormulaID} (member : raw ∈ roots) (normal : NormalizesRoot resolver raw id)
  (joint : resolver.resolve roots platform = .ok whole) (alone : StandsAlone resolver platform id)

include member normal joint alone

/-- What both runs compute for an identity that the root reaches. -/
theorem shares_alone : Shares resolver platform whole [id] := by
  rintro other ⟨start, single, reached⟩
  obtain rfl := List.mem_singleton.mp single
  have resolved := resolved_of_resolve joint
  have closed := (correctClosure_of_resolve joint).least.1
  have known : other ∈ whole.nodes.map Node.id := by
    induction reached with
    | refl => exact closed.roots raw member start normal
    | tail _ edge ih => exact closed.dependencies _ ih _ edge
  obtain ⟨node, among, rfl⟩ := List.mem_map.mp known
  obtain ⟨expansion, valid, same⟩ := resolved.expanded node among
  refine ⟨expansion, valid, ?_, same ▸ among⟩
  by_cases root : node.id = start
  · have both : whole.requested.contains node.id = [start].contains node.id := by
      have listed := (root_of_forall₂ resolved.normal).mpr ⟨raw, member, normal⟩
      simp [root, listed]
    exact both ▸ valid
  · refine ⟨valid.canonical, (nodeAndDependencies_flag ?_ _ _).trans valid.declared, valid.recorded⟩
    cases source : expansion.source with
    | core formula found => trivial
    | external formula found =>
      have canonical := valid.canonical
      rw [source] at canonical
      obtain rfl : found = node.id := lookupExact_id canonical
      exact alone node.id formula reached root canonical

/-- A root that stands alone resolves alone, to the same identity. -/
theorem resolves_alone :
    ∃ closure, resolver.resolve [raw] platform = .ok closure ∧ closure.requested = [id] :=
  resolves_of_shares joint (List.cons_subset.mpr ⟨member, List.nil_subset _⟩)
    (List.cons_ne_nil _ _) (.cons normal .nil) (List.nodup_singleton _)
    (shares_alone member normal joint alone)

end

section

variable {closure : ClosureResult} (normal : NormalizesRoot resolver raw id)
  (result : resolver.resolve [raw] platform = .ok closure)

include normal result

/-- A root that is resolved alone is recorded under the identity it normalizes to. -/
theorem requested_alone :
    closure.requested = [id] := by
  obtain ⟨found, rest, ⟨source, looked⟩, none, listed⟩ :=
    List.forall₂_cons_left_iff.mp (resolved_of_resolve result).normal
  obtain rfl := List.forall₂_nil_left_iff.mp none
  obtain ⟨other, otherLooked⟩ := normal
  have same := looked.symm.trans otherLooked
  simp only [Except.ok.injEq, Prod.mk.injEq] at same
  rw [listed, same.1]

/-- A root that resolves alone stands alone. -/
theorem standsAlone_of_resolve :
    StandsAlone resolver platform id := by
  have resolved := resolved_of_resolve result
  have closed := (correctClosure_of_resolve result).least.1
  have requested := requested_alone normal result
  intro other formula path different canonical
  have known : other ∈ closure.nodes.map Node.id := by
    clear different canonical
    induction path with
    | refl => exact closed.roots raw (List.mem_singleton_self _) id normal
    | tail _ edge ih => exact closed.dependencies _ ih _ edge
  obtain ⟨node, among, rfl⟩ := List.mem_map.mp known
  obtain ⟨expansion, valid, _⟩ := resolved.expanded node among
  have source : expansion.source = .external formula node.id := by
    simpa using valid.canonical.symm.trans canonical
  rcases valid.installable source with native | ⟨flag, _⟩
  · exact native
  · rw [requested] at flag
    simp [different] at flag

end

end Single

end Model

end DalecHomebrew.CatalogResolver
