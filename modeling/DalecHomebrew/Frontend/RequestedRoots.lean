import DalecHomebrew.CatalogResolver.Isolated

/-!
# Requested roots of a V2 build

`v2RequestedRoots` of `internal/frontend/v2_build.go` resolves every root of the
build on its own in order to learn its canonical identity, while the closure
that it is given was resolved from all roots together.
-/

namespace DalecHomebrew.Frontend

open Catalog CatalogResolver Foundation Homebrew Policy

/-- `speccontract.Root`. -/
structure Root where
  name : String
  requested : String
  id : FormulaIdentity

/-- `catalog.FormulaIDFromShared` of the root's identity. -/
def Root.formulaID (root : Root) : FormulaID := root.id.string

/-- `resolver.V2RequestedRoot`. -/
structure V2RequestedRoot where
  requested : String
  id : FormulaID

/-- The body of the loop over the roots. -/
def requestRoot (resolver : Resolver) (result : PlatformResult) (root : Root) :
    Except CatalogResolver.Failure V2RequestedRoot := do
  let closure ← resolver.resolve [root.formulaID] result.platform
  match closure.requested with
  | [] => .error (.text "index out of range [0] with length 0")
  | id :: _ =>
    if result.closure.nodes.any fun node => node.id == id then
      return { requested := root.requested, id }
    else
      .error (.text ("requested Formula " ++ id ++ " is absent from the signed catalog closure"))

def v2RequestedRoots (validateTapCatalog : TapCatalog → Except String Unit) (policy : TapPolicy)
    (core : Option CoreCatalog) (catalogs : List (TapID × Option TapCatalog))
    (result : PlatformResult) (roots : List Root) :
    Except CatalogResolver.Failure (List V2RequestedRoot) := do
  let resolver ← new validateTapCatalog policy core catalogs
  roots.mapM (requestRoot resolver result)

/-- The requested roots carry the identities that a closure records for them. -/
structure FollowsMappings (closure : ClosureResult) (roots : List Root)
    (requested : List V2RequestedRoot) : Prop where
  mappings : closure.requestedMappings =
    some (List.zipWith rootMapping (roots.map Root.formulaID) (requested.map V2RequestedRoot.id))
  count : requested.length = roots.length
  spelled : requested.map V2RequestedRoot.requested = roots.map Root.requested

section Model

variable {resolver : Resolver} {result : PlatformResult}

theorem requestRoot_eq_ok {root : Root} {requested : V2RequestedRoot}
    {id : FormulaID} (normal : NormalizesRoot resolver root.formulaID id) :
    requestRoot resolver result root = .ok requested ↔
      (∃ closure, resolver.resolve [root.formulaID] result.platform = .ok closure) ∧
      id ∈ result.closure.nodes.map Node.id ∧ requested = { requested := root.requested, id } := by
  simp only [requestRoot, bind_eq_ok]
  have present : (result.closure.nodes.any fun node => node.id == id) = true ↔
      id ∈ result.closure.nodes.map Node.id := by
    simp [List.any_eq_true, List.mem_map]
  constructor
  · rintro ⟨closure, resolved, answered⟩
    rw [requested_alone normal resolved] at answered
    by_cases known : (result.closure.nodes.any fun node => node.id == id) = true
    · simp only [known, if_true, pure_eq_ok] at answered
      exact ⟨⟨closure, resolved⟩, present.mp known, answered.symm⟩
    · simp [known] at answered
  · rintro ⟨⟨closure, resolved⟩, known, rfl⟩
    refine ⟨closure, resolved, ?_⟩
    rw [requested_alone normal resolved]
    simp only [present.mpr known, if_true]
    rfl

/-- The results of the loop when every root is answered with its normalized identity. -/
theorem requestRoots_of_normal {roots : List Root} {ids : List FormulaID}
    (normal : List.Forall₂ (NormalizesRoot resolver) (roots.map Root.formulaID) ids)
    (answered : ∀ root ∈ roots, ∀ id, NormalizesRoot resolver root.formulaID id →
      requestRoot resolver result root = .ok { requested := root.requested, id }) :
    ∃ requested, List.Forall₂ (fun root answer => requestRoot resolver result root = .ok answer)
      roots requested ∧ requested.map V2RequestedRoot.id = ids ∧
      requested.map V2RequestedRoot.requested = roots.map Root.requested := by
  induction roots generalizing ids with
  | nil =>
    obtain rfl := List.forall₂_nil_left_iff.mp normal
    exact ⟨[], .nil, rfl, rfl⟩
  | cons root rest ih =>
    obtain ⟨id, others, first, later, rfl⟩ := List.forall₂_cons_left_iff.mp normal
    obtain ⟨requested, loop, identities, spelled⟩ := ih later
      fun other member => answered other (List.mem_cons_of_mem _ member)
    refine ⟨{ requested := root.requested, id } :: requested,
      .cons (answered root List.mem_cons_self id first) loop, ?_, ?_⟩
    · simp [identities]
    · simp [spelled]

/--
After a joint resolution, the roots resolve one by one to the identities of the
joint closure exactly when each of them stands alone: no root may depend on a
prebuilt Formula, even if that Formula is itself a root.
-/
theorem v2RequestedRoots_follows_iff (validateTapCatalog : TapCatalog → Except String Unit)
    (policy : TapPolicy) (core : Option CoreCatalog) (catalogs : List (TapID × Option TapCatalog))
    (resolver : Resolver) (result : PlatformResult) (roots : List Root)
    (made : new validateTapCatalog policy core catalogs = .ok resolver)
    (joint : resolver.resolve (roots.map Root.formulaID) result.platform = .ok result.closure) :
    (∃ requested, v2RequestedRoots validateTapCatalog policy core catalogs result roots =
        .ok requested ∧ FollowsMappings result.closure roots requested) ↔
      ∀ root ∈ roots, ∀ id, NormalizesRoot resolver root.formulaID id →
        StandsAlone resolver result.platform id := by
  have resolved := resolved_of_resolve joint
  have closed := (correctClosure_of_resolve joint).least.1
  have listed : ∀ root ∈ roots, root.formulaID ∈ roots.map Root.formulaID :=
    fun root member => List.mem_map_of_mem member
  have loop : ∀ requested, v2RequestedRoots validateTapCatalog policy core catalogs result roots =
      .ok requested ↔ List.Forall₂ (fun root answer => requestRoot resolver result root = .ok answer)
        roots requested := by
    intro requested
    rw [← mapM_eq_ok, v2RequestedRoots, made]
    rfl
  simp only [loop]
  constructor
  · rintro ⟨requested, answers, _⟩ root member id normal
    obtain ⟨answer, _, answered⟩ := exists_right_of_forall₂ answers member
    obtain ⟨⟨closure, alone⟩, _⟩ := (requestRoot_eq_ok normal).mp answered
    exact standsAlone_of_resolve normal alone
  · intro alone
    obtain ⟨requested, answers, identities, spelled⟩ := requestRoots_of_normal resolved.normal (by
      intro root member id normal
      obtain ⟨closure, single, _⟩ := resolves_alone (listed root member) normal joint
        (alone root member id normal)
      exact (requestRoot_eq_ok normal).mpr
        ⟨⟨closure, single⟩, closed.roots _ (listed root member) id normal, rfl⟩)
    refine ⟨requested, answers, ?_, answers.length_eq.symm, spelled⟩
    rw [identities]
    exact resolved.mappings

end Model

/-! ## A root that depends on a prebuilt root -/

namespace Sample

open CatalogResolver.Sample

def root (name : String) : Root where
  name := "sozercan/repo/" ++ name
  requested := "sozercan/repo/" ++ name
  id := { tap := { owner := "sozercan", name := "repo" }, name }

def result : PlatformResult where
  platform := amd64
  closure := suiteClosure
  artifacts := []

theorem resolve_roots :
    repoResolver.resolve ([root "suite", root "a365"].map Root.formulaID) result.platform =
      .ok result.closure :=
  resolve_suite

theorem suite_alone : ∀ closure, repoResolver.resolve ["sozercan/repo/suite"] amd64 ≠ .ok closure := by
  have failed : (repoResolver.resolve ["sozercan/repo/suite"] amd64).toOption = none := by
    decide +kernel
  intro closure resolved
  simp [resolved, Except.toOption] at failed

theorem v2RequestedRoots_suite (requested : List V2RequestedRoot) :
    v2RequestedRoots (validateTapCatalog net) embeddedTapPolicy (some ⟨coreCatalog.lookup⟩)
      [("sozercan/repo", some repo)] result [root "suite", root "a365"] ≠ .ok requested := by
  intro answered
  rw [v2RequestedRoots, repo_new] at answered
  obtain ⟨_, _, first, _⟩ := List.forall₂_cons_left_iff.mp (mapM_eq_ok.mp answered)
  obtain ⟨closure, resolved, _⟩ := bind_eq_ok.mp first
  exact suite_alone closure resolved

theorem exists_resolve_a365 :
    ∃ closure, repoResolver.resolve ["sozercan/repo/a365"] amd64 = .ok closure :=
  exists_eq_ok_of_toBool (by decide +kernel)

end Sample

open CatalogResolver.Sample in
/-- `suite` does not stand alone; the prebuilt `a365` does. -/
theorem v2RequestedRoots_follows_iff_suite :
    (repoResolver.resolve ([Sample.root "suite", Sample.root "a365"].map Root.formulaID) amd64 =
        .ok suiteClosure ∧
      ¬ ∀ root ∈ [Sample.root "suite", Sample.root "a365"], ∀ id,
        NormalizesRoot repoResolver root.formulaID id → StandsAlone repoResolver amd64 id) ∧
    ∃ closure, repoResolver.resolve ([Sample.root "a365"].map Root.formulaID) amd64 = .ok closure ∧
      ∃ requested, v2RequestedRoots (validateTapCatalog net) embeddedTapPolicy
        (some ⟨coreCatalog.lookup⟩) [("sozercan/repo", some repo)] { Sample.result with closure }
        [Sample.root "a365"] = .ok requested ∧
          FollowsMappings closure [Sample.root "a365"] requested := by
  have law := fun result roots => v2RequestedRoots_follows_iff (validateTapCatalog net)
    embeddedTapPolicy (some ⟨coreCatalog.lookup⟩) [("sozercan/repo", some repo)] repoResolver
    result roots repo_new
  refine ⟨⟨Sample.resolve_roots, fun alone => ?_⟩, ?_⟩
  · obtain ⟨requested, answered, -⟩ := (law Sample.result _ Sample.resolve_roots).mpr alone
    exact Sample.v2RequestedRoots_suite requested answered
  · obtain ⟨closure, resolved⟩ := Sample.exists_resolve_a365
    refine ⟨closure, resolved, (law { Sample.result with closure } [Sample.root "a365"]
      resolved).mpr ?_⟩
    intro root member id normal
    obtain rfl := List.mem_singleton.mp member
    exact standsAlone_of_resolve normal resolved

open CatalogResolver.Sample in
/--
The joint resolution of `suite` and of the prebuilt `a365` it depends on
succeeds under the embedded policy, and `v2RequestedRoots` fails on it: alone,
`suite` reaches an archive that is not a requested root.
-/
theorem v2RequestedRoots_fails_suite :
    new (validateTapCatalog net) embeddedTapPolicy (some ⟨coreCatalog.lookup⟩)
        [("sozercan/repo", some repo)] = .ok repoResolver ∧
      repoResolver.resolve ([Sample.root "suite", Sample.root "a365"].map Root.formulaID) amd64 =
        .ok Sample.result.closure ∧
      ∀ requested, v2RequestedRoots (validateTapCatalog net) embeddedTapPolicy
        (some ⟨coreCatalog.lookup⟩) [("sozercan/repo", some repo)] Sample.result
        [Sample.root "suite", Sample.root "a365"] ≠ .ok requested :=
  ⟨repo_new, Sample.resolve_roots, Sample.v2RequestedRoots_suite⟩

end DalecHomebrew.Frontend
