import DalecHomebrew.CatalogResolver.Construction
import DalecHomebrew.CatalogResolver.Run

/-!
# Resolving with more catalogs

A resolver with more catalogs goes through the same steps as one with fewer
until the smaller one misses a tap, and there it marks that tap as used.  So a
resolution with more catalogs either answers the same, or the smaller one ends
with a `MissingTapError` whose tap the larger closure records
(`resolve_agrees`).
-/

namespace DalecHomebrew.CatalogResolver

open Catalog Foundation Foundation.GoString Homebrew Policy

/-- A resolver whose entries belong to its own taps. -/
structure Resolver.Scoped (resolver : Resolver) : Prop where
  mappings : ∀ id next, resolver.mappings.lookup id = some next →
    FormulaID.tap id ∈ resolver.catalogs
  formulae : ∀ id formula, resolver.formulae.lookup id = some formula →
    FormulaID.tap id ∈ resolver.catalogs
  outside : ∀ tap ∈ resolver.catalogs, TapID.isCore tap = false

/-- A resolver that has the catalogs of another one, and perhaps more. -/
structure Resolver.Extends (small large : Resolver) : Prop where
  core : large.core = small.core
  policy : large.policy = small.policy
  catalogs : ∀ tap ∈ small.catalogs, tap ∈ large.catalogs
  formulae : ∀ id, FormulaID.tap id ∈ small.catalogs →
    large.formulae.lookup id = small.formulae.lookup id
  mappings : ∀ id, FormulaID.tap id ∈ small.catalogs →
    large.mappings.lookup id = small.mappings.lookup id

/-- Two lookups agree, or the first one misses a tap that the second one marks. -/
def Marked.Agrees {Value : Type} (small large : Marked Value) : Prop :=
  small = large ∨ ∃ cause tap, small.result = .error cause ∧ cause.missingTap? = some tap ∧
    tap ∈ large.taps

/-- Two steps agree, or the first one misses a tap that is used after the second one. -/
def StepAgrees {State : Type} (used : State → List TapID) (small large : Except Failure State) : Prop :=
  small = large ∨ ∃ cause tap, small = .error cause ∧ cause.missingTap? = some tap ∧
    ∀ state, large = .ok state → tap ∈ used state

/-! ## Construction -/

section Construction

variable {net : NetLibrary} {policy : TapPolicy} {core : CoreCatalog}

/-- The source of a mapping belongs to the tap of its catalog, and the target is an identity. -/
theorem scope_of_catalogMappings {document : TapCatalog} (inside : document.Scoped)
    {mapping : ScopedMapping} (member : mapping ∈ catalogMappings document) :
    FormulaID.tap mapping.fromID = document.tap.id ∧ FormulaID.validate mapping.toID = .ok () := by
  rcases List.mem_append.mp member with listed | migrated
  · exact inside.mappings mapping listed
  · obtain ⟨migration, among, rfl⟩ := List.mem_map.mp migrated
    exact inside.migrations migration among

section

variable {entries : List (TapID × Option TapCatalog)} {resolver : Resolver}
  (built : resolver.Built (validateTapCatalog net) policy core entries)

include built

theorem Resolver.Built.isScoped :
    resolver.Scoped := by
  have known : ∀ {tap document}, (tap, some document) ∈ entries →
      document.Scoped ∧ document.tap.id ∈ resolver.catalogs := by
    intro tap document member
    obtain ⟨rfl, valid, _⟩ := built.document member
    exact ⟨scoped_of_validateTapCatalog valid,
      (built.catalogs _).mpr (List.mem_map.mpr ⟨_, member, rfl⟩)⟩
  constructor
  · intro id next found
    obtain ⟨tap, document, member, mapping, declared, rfl, _⟩ := (built.mappings id next).mp found
    rw [(scope_of_catalogMappings (known member).1 declared).1]
    exact (known member).2
  · intro id formula found
    obtain ⟨tap, document, member, declared, rfl⟩ := (built.formulae id formula).mp found
    rw [(known member).1.formulae formula declared]
    exact (known member).2
  · intro tap listed
    obtain ⟨entry, member, rfl⟩ := List.mem_map.mp ((built.catalogs tap).mp listed)
    obtain ⟨document, rfl, _, outside⟩ := built.present _ member
    exact outside

/-- The targets of mappings are identities, so that they name a tap. -/
theorem Resolver.Built.named :
    ∀ id next, resolver.mappings.lookup id = some next → FormulaID.tap next ≠ "" := by
  intro id next found
  obtain ⟨tap, document, member, mapping, declared, _, rfl⟩ := (built.mappings id next).mp found
  obtain ⟨rfl, valid, _⟩ := built.document member
  exact FormulaID.tap_ne_empty (FormulaID.parseFormulaID_of_validate
    (scope_of_catalogMappings (scoped_of_validateTapCatalog valid) declared).2)

end

/-- The resolver of more catalogs extends the resolver of fewer, with one catalog per tap. -/
theorem Resolver.Built.isExtended {fewer more : List (TapID × Option TapCatalog)}
    {small large : Resolver} (smallBuilt : small.Built (validateTapCatalog net) policy core fewer)
    (largeBuilt : large.Built (validateTapCatalog net) policy core more) (included : fewer ⊆ more)
    (distinct : (more.map Prod.fst).Nodup) :
    small.Extends large := by
  -- an entry of the larger map whose tap the smaller one knows is an entry of the smaller map
  have shared : ∀ {tap document id}, (tap, some document) ∈ more →
      FormulaID.tap id = document.tap.id → FormulaID.tap id ∈ small.catalogs →
      (tap, some document) ∈ fewer := by
    intro tap document id member owned listed
    obtain ⟨rfl, _, _⟩ := largeBuilt.document member
    rw [owned] at listed
    obtain ⟨entry, among, key⟩ := List.mem_map.mp ((smallBuilt.catalogs _).mp listed)
    rw [← List.inj_on_of_nodup_map distinct (included among) member key]
    exact among
  have scope : ∀ {tap document}, (tap, some document) ∈ more → document.Scoped := by
    intro tap document member
    obtain ⟨rfl, valid, _⟩ := largeBuilt.document member
    exact scoped_of_validateTapCatalog valid
  constructor
  · rw [largeBuilt.core, smallBuilt.core]
  · rw [largeBuilt.policy, smallBuilt.policy]
  · intro tap listed
    rw [largeBuilt.catalogs]
    exact List.map_subset _ included ((smallBuilt.catalogs tap).mp listed)
  · intro id listed
    refine Option.ext fun formula => ?_
    rw [largeBuilt.formulae, smallBuilt.formulae]
    constructor
    · rintro ⟨tap, document, member, declared, rfl⟩
      exact ⟨tap, document, shared member ((scope member).formulae formula declared) listed,
        declared, rfl⟩
    · rintro ⟨tap, document, member, facts⟩
      exact ⟨tap, document, included member, facts⟩
  · intro id listed
    refine Option.ext fun next => ?_
    rw [largeBuilt.mappings, smallBuilt.mappings]
    constructor
    · rintro ⟨tap, document, member, mapping, declared, rfl, same⟩
      exact ⟨tap, document,
        shared member (scope_of_catalogMappings (scope member) declared).1 listed, mapping,
        declared, rfl, same⟩
    · rintro ⟨tap, document, member, facts⟩
      exact ⟨tap, document, included member, facts⟩

end Construction

/-! ## Lookups -/

section Lookups

variable {small large : Resolver}

theorem isCore_eq (id : FormulaID) : FormulaID.isCore id = TapID.isCore (FormulaID.tap id) := rfl

/-- The taps that one step of a chain of mappings marks. -/
def chainTaps (id : FormulaID) : List TapID :=
  if FormulaID.isCore id then [] else [FormulaID.tap id]

variable {mappings : Table FormulaID FormulaID} {chain : List FormulaID}

theorem followMapping_repeated {id : FormulaID} (repeated : id ∈ chain) :
    followMapping mappings chain id = {
      taps := chainTaps id
      result := .error (.text ("alias/rename/migration cycle: " ++
        join (chain.drop (chain.idxOf id) ++ [id]) " -> ")) } := by
  rw [followMapping]
  simp [repeated, chainTaps]

theorem followMapping_none
    {id : FormulaID} (new : id ∉ chain) (missing : mappings.lookup id = none) :
    followMapping mappings chain id = { taps := chainTaps id, result := .ok id } := by
  rw [followMapping]
  simp only [new, dite_false]
  split
  · rfl
  · rename_i next found
    rw [missing] at found
    cases found

theorem followMapping_some
    {id next : FormulaID} (new : id ∉ chain) (found : mappings.lookup id = some next) :
    followMapping mappings chain id = {
      taps := chainTaps id ++ (followMapping mappings (chain ++ [id]) next).taps
      result := (followMapping mappings (chain ++ [id]) next).result } := by
  rw [followMapping]
  simp only [new, dite_false]
  split
  · rename_i missing
    rw [missing] at found
    cases found
  · rename_i other otherFound
    obtain rfl : other = next := by simpa using otherFound.symm.trans found
    rfl

section

variable (extends' : small.Extends large) (smallScoped : small.Scoped) (largeScoped : large.Scoped)

include extends' smallScoped largeScoped

/--
A chain of mappings is the same in both resolvers, or it ends in the smaller one
at an identity of a tap that only the larger one may know.
-/
theorem followMapping_extends (chain : List FormulaID) (id : FormulaID) :
    (followMapping small.mappings chain id = followMapping large.mappings chain id ∧
      ∀ last, (followMapping small.mappings chain id).result = .ok last →
        FormulaID.isCore last = true ∨ FormulaID.tap last ∈ small.catalogs) ∨
    ∃ last, (followMapping small.mappings chain id).result = .ok last ∧
      FormulaID.isCore last = false ∧ FormulaID.tap last ∉ small.catalogs ∧
      FormulaID.tap last ∈ (followMapping large.mappings chain id).taps := by
  induction chain, id using followMapping.induct small.mappings with
  | case1 chain id repeated =>
    rw [followMapping_repeated repeated, followMapping_repeated repeated]
    exact .inl ⟨rfl, by simp⟩
  | case2 chain id new missing =>
    rw [followMapping_none new missing]
    by_cases core : FormulaID.isCore id = true
    · have absent : large.mappings.lookup id = none := by
        rw [Option.eq_none_iff_forall_ne_some]
        intro next found
        have outside := largeScoped.outside _ (largeScoped.mappings id next found)
        rw [← isCore_eq, core] at outside
        cases outside
      rw [followMapping_none new absent]
      refine .inl ⟨rfl, fun last same => .inl ?_⟩
      rw [← Except.ok.inj same]
      exact core
    · by_cases known : FormulaID.tap id ∈ small.catalogs
      · rw [followMapping_none new ((extends'.mappings id known).trans missing)]
        refine .inl ⟨rfl, fun last same => .inr ?_⟩
        rw [← Except.ok.inj same]
        exact known
      · refine .inr ⟨id, rfl, by simpa using core, known, ?_⟩
        have marked : FormulaID.tap id ∈ chainTaps id := by simp [chainTaps, core]
        cases found : large.mappings.lookup id with
        | none => rw [followMapping_none new found]; exact marked
        | some next => rw [followMapping_some new found]; exact List.mem_append_left _ marked
  | case3 chain id new next found ih =>
    have known := smallScoped.mappings id next found
    rw [followMapping_some new found,
      followMapping_some new ((extends'.mappings id known).trans found)]
    rcases ih with ⟨same, ends⟩ | ⟨last, result, outside, unknown, marked⟩
    · refine .inl ⟨by rw [same], ends⟩
    · exact .inr ⟨last, result, outside, unknown, List.mem_append_right _ marked⟩

theorem lookupExact_agrees (id : FormulaID) :
    (small.lookupExact id).Agrees (large.lookupExact id) := by
  cases core : FormulaID.isCore id with
  | true =>
    refine .inl ?_
    simp only [Resolver.lookupExact, core, if_true, Resolver.lookupCore, extends'.core]
  | false =>
    simp only [Resolver.lookupExact, core, Bool.false_eq_true, if_false]
    rcases followMapping_extends extends' smallScoped largeScoped [] id with
      ⟨same, ends⟩ | ⟨last, result, outside, unknown, marked⟩
    · refine .inl ?_
      have mapped : large.resolveMapping id = small.resolveMapping id := same.symm
      rw [mapped]
      cases reached : (small.resolveMapping id).result with
      | error cause => rfl
      | ok last =>
        rcases ends last reached with core | known
        · simp only [bind, Except.bind, core, if_true, Resolver.lookupMigrated, extends'.core]
        · have there := extends'.catalogs _ known
          have smallKnown : (small.catalogs.lookup (FormulaID.tap last)).isNone = false := by
            simpa using AList.lookup_isSome.mpr known
          have largeKnown : (large.catalogs.lookup (FormulaID.tap last)).isNone = false := by
            simpa using AList.lookup_isSome.mpr there
          simp only [bind, Except.bind, Resolver.lookupExternal, extends'.formulae last known,
            smallKnown, largeKnown, Resolver.lookupMigrated, extends'.core]
    · refine .inr ⟨.missingTap (FormulaID.tap last), FormulaID.tap last, ?_, rfl,
        List.mem_cons_of_mem _ marked⟩
      have reached : (small.resolveMapping id).result = .ok last := result
      have absent : small.formulae.lookup last = none := by
        rw [Option.eq_none_iff_forall_ne_some]
        exact fun formula found => unknown (smallScoped.formulae last formula found)
      have missing : small.catalogs.lookup (FormulaID.tap last) = none :=
        AList.lookup_eq_none.mpr unknown
      simp [reached, bind, Except.bind, outside, Resolver.lookupExternal, absent, missing]

theorem lookupParsed_agrees (value : String) :
    (small.lookupParsed value).Agrees (large.lookupParsed value) := by
  unfold Resolver.lookupParsed
  split
  · exact .inl rfl
  · exact lookupExact_agrees extends' smallScoped largeScoped _

end

/-- A missing tap is not a missing Formula, so that no fallback follows it. -/
theorem not_formulaNotFound_of_missingTap {cause : Failure} {tap : TapID}
    (missing : cause.missingTap? = some tap) : cause.is .formulaNotFound = false := by
  induction cause with
  | core cause => simp [Failure.missingTap?] at missing
  | missingTap other | text message => rfl
  | wrapped before cause after ih => exact ih missing

theorem normalizeDependency_agrees (extends' : small.Extends large) (smallScoped : small.Scoped)
    (largeScoped : large.Scoped) (owner : TapID) (raw : String) :
    (small.normalizeDependency owner raw).Agrees (large.normalizeDependency owner raw) := by
  unfold Resolver.normalizeDependency
  split
  · exact lookupParsed_agrees extends' smallScoped largeScoped raw
  cases parsed : parseFormulaID raw with
  | error message => exact .inl rfl
  | ok coreID =>
    dsimp only
    rcases lookupExact_agrees extends' smallScoped largeScoped coreID with
      same | ⟨cause, tap, failed, missing, marked⟩
    · rw [← same]
      cases found : (small.lookupExact coreID).result with
      | ok answer => exact .inl rfl
      | error cause =>
        dsimp only
        split
        · rcases lookupParsed_agrees extends' smallScoped largeScoped (owner ++ "/" ++ raw)
            with equal | ⟨other, tap, failed, missing, marked⟩
          · exact .inl (by rw [equal])
          · exact .inr ⟨other, tap, failed, missing, List.mem_append_right _ marked⟩
        · exact .inl rfl
    · refine .inr ⟨cause, tap, ?_, missing, ?_⟩
      · simp only [failed, not_formulaNotFound_of_missingTap missing, Bool.false_eq_true, if_false]
      · split
        · exact marked
        · split
          · exact List.mem_append_left _ marked
          · exact marked

end Lookups

/-! ## Steps that agree -/

section Steps

variable {State Next Value Item : Type}

theorem StepAgrees.rfl (used : State → List TapID) (result : Except Failure State) :
    StepAgrees used result result := .inl (Eq.refl _)

variable {used : State → List TapID}

/-- What follows an agreeing step agrees, provided that no tap is forgotten. -/
theorem StepAgrees.bind {usedNext : Next → List TapID}
    {small large : Except Failure State} {smallNext largeNext : State → Except Failure Next}
    (agrees : StepAgrees used small large)
    (next : ∀ state, StepAgrees usedNext (smallNext state) (largeNext state))
    (kept : ∀ state result, largeNext state = .ok result → used state ⊆ usedNext result) :
    StepAgrees usedNext (small >>= smallNext) (large >>= largeNext) := by
  rcases agrees with same | ⟨cause, tap, failed, missing, marked⟩
  · subst same
    cases small with
    | error cause => exact .rfl _ _
    | ok state => exact next state
  · refine .inr ⟨cause, tap, by rw [failed]; rfl, missing, fun result reached => ?_⟩
    obtain ⟨state, stepped, later⟩ := bind_eq_ok.mp reached
    exact kept state result later (marked state stepped)

theorem StepAgrees.foldlM {small large : State → Item → Except Failure State}
    (step : ∀ state item, StepAgrees used (small state item) (large state item))
    (kept : ∀ state item next, large state item = .ok next → used state ⊆ used next)
    (items : List Item) (state : State) :
    StepAgrees used (items.foldlM small state) (items.foldlM large state) := by
  induction items generalizing state with
  | nil => exact .rfl _ _
  | cons item rest ih =>
    rw [List.foldlM_cons, List.foldlM_cons]
    refine (step state item).bind ih fun middle target later => ?_
    exact foldlM_preserves (motive := fun reached => used middle ⊆ used reached)
      (fun source item target _ held moved => List.Subset.trans held (kept source item target moved))
      later (List.Subset.refl _)

variable {small large : Marked Value}

/-- The step of the source after a lookup: it records what the lookup marked. -/
theorem Marked.Agrees.step
    {smallNext largeNext : List TapID → Value → Except Failure State} (agrees : small.Agrees large)
    (next : ∀ taps value, StepAgrees used (smallNext taps value) (largeNext taps value))
    (records : ∀ taps value state, largeNext taps value = .ok state → taps ⊆ used state) :
    StepAgrees used (small.result >>= smallNext small.taps)
      (large.result >>= largeNext large.taps) := by
  rcases agrees with same | ⟨cause, tap, failed, missing, marked⟩
  · subst same
    cases small.result with
    | error cause => exact .rfl _ _
    | ok value => exact next small.taps value
  · refine .inr ⟨cause, tap, by rw [failed]; rfl, missing, fun state reached => ?_⟩
    obtain ⟨value, _, later⟩ := bind_eq_ok.mp reached
    exact records _ value state later marked

theorem Marked.Agrees.within (agrees : small.Agrees large) (context : String) :
    Marked.Agrees { small with result := CatalogResolver.within context small.result }
      { large with result := CatalogResolver.within context large.result } := by
  rcases agrees with same | ⟨cause, tap, failed, missing, marked⟩
  · rw [same]
    exact .inl rfl
  · exact .inr ⟨.wrapped context cause "", tap, by simp [failed, CatalogResolver.within], missing,
      marked⟩

end Steps

/-! ## The resolution -/

section Resolution

variable {small large : Resolver} {platform : Platform} {requested : List FormulaID}

theorem nodeAndDependencies_extends (extends' : small.Extends large) (source : FormulaSource)
    (tag : String) (root : Bool) :
    large.nodeAndDependencies source platform tag root =
      small.nodeAndDependencies source platform tag root := by
  cases source with
  | core formula id => rfl
  | external formula id =>
    simp only [Resolver.nodeAndDependencies, Resolver.externalNode, Resolver.externalRebuild,
      Resolver.authorizePrebuiltArchive, extends'.policy]

theorem addDependency_agrees (extends' : small.Extends large) (smallScoped : small.Scoped)
    (largeScoped : large.Scoped) (id : FormulaID) (worklist : Worklist) (dependency : Requirement) :
    StepAgrees Worklist.used (small.addDependency id worklist dependency)
      (large.addDependency id worklist dependency) := by
  let next (taps : List TapID) (found : FormulaID × FormulaSource) : Except Failure Worklist := do
    if dependency.id ≠ "" ∧ dependency.id ≠ found.1 then
      throw (.text ("Formula " ++ id ++ " dependency " ++ quote dependency.raw ++
        " normalizes to " ++ found.1 ++ ", signed catalog claimed " ++ dependency.id))
    return worklist.record id { dependency with id := found.1 } taps
  have lookups := (normalizeDependency_agrees extends' smallScoped largeScoped (FormulaID.tap id)
    dependency.raw).within ("Formula " ++ id ++ " dependency " ++ quote dependency.raw ++ ": ")
  refine lookups.step (fun taps found => .rfl _ (next taps found)) ?_
  intro taps found state reached tap member
  simp only [next, throw_bind, ite_error_eq_ok, pure_eq_ok] at reached
  rw [← reached.2]
  exact mem_markTaps.mpr (.inr member)

variable {resolver : Resolver}

theorem used_addDependency {id : FormulaID} {worklist extended : Worklist}
    {dependency : Requirement}
    (result : resolver.addDependency id worklist dependency = .ok extended) :
    worklist.used ⊆ extended.used := by
  obtain ⟨found, _, _, rfl⟩ := Resolver.addDependency_eq_ok.mp result
  exact fun tap member => mem_markTaps.mpr (.inl member)

theorem used_loop {id : FormulaID} {dependencies : List Requirement} {worklist extended : Worklist}
    (loop : dependencies.foldlM (resolver.addDependency id) worklist = .ok extended) :
    worklist.used ⊆ extended.used :=
  foldlM_preserves (motive := fun reached => worklist.used ⊆ reached.used)
    (fun _ _ _ _ held step => List.Subset.trans held (used_addDependency step)) loop
    (List.Subset.refl _)

theorem used_expand {worklist expanded : Worklist} {id : FormulaID}
    (result : resolver.expand platform requested worklist id = .ok expanded) :
    worklist.used ⊆ expanded.used := by
  obtain ⟨source, node, dependencies, extended, _, _, loop, rfl⟩ := Resolver.expand_eq_ok.mp result
  exact fun tap member => used_loop loop (mem_markTaps.mpr (.inl member))

theorem used_drain {budget : Nat} {worklist drained : Worklist}
    (result : resolver.drain platform requested budget worklist = .ok drained) :
    worklist.used ⊆ drained.used :=
  drain_preserves (motive := fun reached => worklist.used ⊆ reached.used)
    (fun _ _ held => held)
    (fun _ _ _ held _ step => List.Subset.trans held (used_expand step)) result
    (List.Subset.refl _)

/-- The body of a round after its lookup. -/
def Resolver.expandFound (resolver : Resolver) (platform : Platform) (requested : List FormulaID)
    (worklist : Worklist) (id : FormulaID) (taps : List TapID) (found : FormulaID × FormulaSource) :
    Except Failure Worklist := do
  if found.1 ≠ id then
    throw (.text ("canonical queue identity " ++ id ++ " maps to " ++ found.1))
  let declared ← within ("Formula " ++ id ++ ": ")
    (resolver.nodeAndDependencies found.2 platform (bottleTag platform) (requested.contains id))
  let expanded ← declared.2.foldlM (resolver.addDependency id)
    { worklist with used := markTaps worklist.used taps }
  return expanded.complete id declared.1

theorem used_expandFound {worklist expanded : Worklist} {id : FormulaID}
    {taps : List TapID} {found : FormulaID × FormulaSource}
    (result : resolver.expandFound platform requested worklist id taps found = .ok expanded) :
    taps ⊆ expanded.used := by
  simp only [Resolver.expandFound, throw_bind, ite_error_eq_ok, bind_eq_ok, pure_eq_ok] at result
  obtain ⟨_, declared, _, extended, loop, rfl⟩ := result
  exact fun tap member => used_loop loop (mem_markTaps.mpr (.inr member))

section

variable (extends' : small.Extends large) (smallScoped : small.Scoped) (largeScoped : large.Scoped)
  (worklist : Worklist) (id : FormulaID)

include extends' smallScoped largeScoped worklist id

theorem expandFound_agrees (taps : List TapID) (found : FormulaID × FormulaSource) :
    StepAgrees Worklist.used (small.expandFound platform requested worklist id taps found)
      (large.expandFound platform requested worklist id taps found) := by
  simp only [Resolver.expandFound, nodeAndDependencies_extends extends']
  split
  · rw [throw_bind, throw_bind]
    exact .rfl _ _
  refine (StepAgrees.rfl (fun _ => []) _).bind (fun declared => ?_)
    (fun _ _ _ => List.nil_subset _)
  refine (StepAgrees.foldlM (addDependency_agrees extends' smallScoped largeScoped id)
    (fun _ _ _ step => used_addDependency step) _ _).bind (fun _ => .rfl _ _) ?_
  intro extended expanded completed
  rw [← Except.ok.inj completed]
  exact List.Subset.refl _

theorem expand_agrees :
    StepAgrees Worklist.used (small.expand platform requested worklist id)
      (large.expand platform requested worklist id) :=
  (lookupExact_agrees extends' smallScoped largeScoped id).step
    (expandFound_agrees extends' smallScoped largeScoped worklist id)
    (fun _ _ _ => used_expandFound)

end

theorem drain_pending (resolver : Resolver) {worklist : Worklist} {id : FormulaID}
    {rest : List FormulaID} (budget : Nat)
    (pending : worklist.queue.dropWhile worklist.done = id :: rest) :
    resolver.drain platform requested (budget + 1) worklist =
      resolver.expand platform requested { worklist with queue := rest } id >>=
        resolver.drain platform requested budget := by
  unfold Resolver.drain
  rw [pending]
  dsimp only
  cases resolver.expand platform requested { worklist with queue := rest } id with
  | error cause | ok expanded => rfl

theorem drain_agrees (extends' : small.Extends large) (smallScoped : small.Scoped)
    (largeScoped : large.Scoped) (budget : Nat) (worklist : Worklist) :
    StepAgrees Worklist.used (small.drain platform requested budget worklist)
      (large.drain platform requested budget worklist) := by
  induction budget generalizing worklist with
  | zero =>
    unfold Resolver.drain
    cases worklist.queue.dropWhile worklist.done with
    | nil | cons id rest => exact .rfl _ _
  | succ budget ih =>
    cases pending : worklist.queue.dropWhile worklist.done with
    | nil =>
      unfold Resolver.drain
      rw [pending]
      exact .rfl _ _
    | cons id rest =>
      rw [drain_pending small budget pending, drain_pending large budget pending]
      exact (expand_agrees extends' smallScoped largeScoped _ id).bind ih
        (fun _ _ => used_drain)

theorem addRoot_agrees (extends' : small.Extends large) (smallScoped : small.Scoped)
    (largeScoped : large.Scoped) (roots : Roots) (raw : FormulaID) :
    StepAgrees Roots.used (small.addRoot roots raw) (large.addRoot roots raw) := by
  let next (taps : List TapID) (found : FormulaID × FormulaSource) : Except Failure Roots := do
    if found.1 ∈ roots.requested then throw (.text ("duplicate canonical root " ++ found.1))
    return {
      requested := roots.requested ++ [found.1]
      mappings := roots.mappings ++ [{ requested := raw, resolved := found.1 }]
      used := markTaps roots.used taps }
  refine (StepAgrees.rfl (fun _ => []) _).bind (fun _ => ?_) (fun _ _ _ => List.nil_subset _)
  have lookups := (lookupExact_agrees extends' smallScoped largeScoped raw).within
    ("root " ++ raw ++ ": ")
  refine lookups.step (fun taps found => .rfl _ (next taps found)) ?_
  intro taps found state reached tap member
  simp only [next, throw_bind, ite_error_eq_ok, pure_eq_ok] at reached
  rw [← reached.2]
  exact mem_markTaps.mpr (.inr member)

/-- The taps that a closure records. -/
def recordedTaps (closure : ClosureResult) : List TapID := closure.normalizationTaps.getD []

/-- The end of a resolution, which reads the worklist only. -/
def closureOfRun (collected : Roots) (worklist : Worklist) : Except Failure ClosureResult := do
  validateRackCollisions worklist.nodes
  let order ← topo worklist.graph collected.requested
  let closure : ClosureResult := {
    requested := collected.requested, requestedMappings := some collected.mappings,
    normalizationTaps := some (sortByKey id worklist.used),
    nodes := sortByKey Node.id worklist.nodes.values, installOrder := order }
  check (validateClosureResult closure)
  return closure

/-- The worklist that the roots fill first. -/
def Roots.worklist (collected : Roots) : Worklist where
  queue := collected.requested
  nodes := ∅
  graph := ∅
  used := collected.used

theorem resolve_eq (resolver : Resolver) (roots : List FormulaID) (platform : Platform) :
    resolver.resolve roots platform = (do
      check platform.validate
      if roots = [] then throw (.text "no roots")
      let collected ← roots.foldlM resolver.addRoot {}
      let worklist ← resolver.drain platform collected.requested maxClosureNodes collected.worklist
      closureOfRun collected worklist) := rfl

theorem used_closureOfRun {collected : Roots} {worklist : Worklist} {closure : ClosureResult}
    (result : closureOfRun collected worklist = .ok closure) :
    worklist.used ⊆ recordedTaps closure := by
  simp only [closureOfRun, bind_eq_ok] at result
  obtain ⟨_, _, order, _, _, _, made⟩ := result
  rw [← Except.ok.inj made]
  exact fun tap member => mem_sortByKey.mpr member

/--
A resolution with more catalogs gives the same answer, or the one with fewer
misses a tap that every answer of the larger one records.
-/
theorem resolve_agrees (extends' : small.Extends large) (smallScoped : small.Scoped)
    (largeScoped : large.Scoped) (roots : List FormulaID) (platform : Platform) :
    StepAgrees recordedTaps (small.resolve roots platform) (large.resolve roots platform) := by
  rw [resolve_eq, resolve_eq]
  refine (StepAgrees.rfl (fun _ => []) _).bind (fun _ => ?_) (fun _ _ _ => List.nil_subset _)
  by_cases empty : roots = []
  · rw [if_pos empty, if_pos empty, throw_bind, throw_bind]
    exact .rfl _ _
  rw [if_neg empty, if_neg empty]
  have collected := StepAgrees.foldlM (addRoot_agrees extends' smallScoped largeScoped)
    (fun source raw target step => by
      obtain ⟨found, _, _, _, rfl⟩ := Resolver.addRoot_eq_ok.mp step
      exact fun tap member => mem_markTaps.mpr (.inl member)) roots {}
  refine collected.bind (fun gathered => ?_) ?_
  · exact (drain_agrees extends' smallScoped largeScoped _ _).bind (fun _ => .rfl _ _)
      (fun _ _ => used_closureOfRun)
  · intro gathered closure finished
    obtain ⟨worklist, drained, closed⟩ := bind_eq_ok.mp finished
    exact List.Subset.trans (used_drain drained) (used_closureOfRun closed)

end Resolution

end DalecHomebrew.CatalogResolver
