import DalecHomebrew.CatalogResolver.MappingChains

/-!
# Missing and reached taps

A `MissingTapError` names a tap that the resolver has no catalog for, and the
name is never empty (`resolve_reports`).  The taps that a successful resolution
records all have a catalog (`known_of_resolve`).
-/

namespace DalecHomebrew.CatalogResolver

open Catalog Foundation Homebrew

variable {found : FormulaID × FormulaSource}

/-- A missing tap that a computation reports has a name and no catalog. -/
def Reports {Value : Type} (resolver : Resolver) (result : Except Failure Value) : Prop :=
  ∀ cause tap, result = .error cause → cause.missingTap? = some tap →
    tap ≠ "" ∧ tap ∉ resolver.catalogs

/-- The targets of the mappings name a tap. -/
def Resolver.Named (resolver : Resolver) : Prop :=
  ∀ id next, resolver.mappings.lookup id = some next → FormulaID.tap next ≠ ""

section Reports

variable {State Value Next : Type} {resolver : Resolver}

theorem reports_ok (value : Value) : Reports resolver (.ok value) := by
  rintro cause tap failed
  cases failed

theorem reports_error {cause : Failure} (other : cause.missingTap? = none) :
    Reports resolver (.error cause : Except Failure Value) := by
  rintro raised tap failed missing
  obtain rfl := Except.error.inj failed
  rw [other] at missing
  cases missing

variable {result : Except Failure Value}

theorem Reports.bind {next : Value → Except Failure Next} (first : Reports resolver result)
    (later : ∀ value, result = .ok value → Reports resolver (next value)) :
    Reports resolver (result >>= next) := by
  cases result with
  | error cause =>
    intro raised tap failed
    exact first raised tap (by rw [← Except.error.inj failed])
  | ok value => exact later value rfl

theorem Reports.within (reports : Reports resolver result)
    (context : String) : Reports resolver (CatalogResolver.within context result) := by
  cases result with
  | error cause =>
    intro raised tap failed missing
    obtain rfl := Except.error.inj failed
    exact reports cause tap rfl missing
  | ok value => exact reports_ok value

theorem reports_check (result : Except String Unit) : Reports resolver (check result) := by
  cases result with
  | error message => exact reports_error rfl
  | ok _ => exact reports_ok ()

theorem Reports.foldlM {Item : Type} {step : State → Item → Except Failure State}
    (each : ∀ source item, Reports resolver (step source item)) (items : List Item)
    (source : State) : Reports resolver (items.foldlM step source) := by
  induction items generalizing source with
  | nil => exact reports_ok source
  | cons item rest ih =>
    rw [List.foldlM_cons]
    exact (each source item).bind fun middle _ => ih middle

end Reports

section Lookups

variable {resolver : Resolver}

theorem reports_resolveMapping (named : resolver.Named) {id : FormulaID}
    (start : FormulaID.tap id ≠ "") :
    Reports resolver (resolver.resolveMapping id).result ∧
      ∀ last, (resolver.resolveMapping id).result = .ok last → FormulaID.tap last ≠ "" := by
  have follows := follows_resolveMapping resolver id
  constructor
  · intro cause tap failed missing
    cases (follows.cycles cause failed).2.symm.trans missing
  · intro last reached
    rcases (follows.ends last reached).1.cases_tail with rfl | ⟨before, _, mapped⟩
    · exact start
    · exact named before last mapped

/-- A lookup reports missing taps only, and what it finds names a tap. -/
def Answers (resolver : Resolver) (result : Except Failure (FormulaID × FormulaSource)) : Prop :=
  Reports resolver result ∧ ∀ found, result = .ok found → FormulaID.tap found.1 ≠ ""

theorem answers_error {cause : Failure} (other : cause.missingTap? = none) :
    Answers resolver (.error cause) :=
  ⟨reports_error other, nofun⟩

section

variable (named : resolver.Named)

include named

variable {id : FormulaID}

theorem answers_lookupExact (start : FormulaID.tap id ≠ "") :
    Answers resolver (resolver.lookupExact id).result := by
  obtain ⟨reports, follows⟩ := reports_resolveMapping named start
  constructor
  · unfold Resolver.lookupExact
    split
    · unfold Resolver.lookupCore
      repeat' split
      all_goals first | exact reports_error rfl | exact reports_ok _
    refine reports.bind fun last reached => ?_
    split
    · unfold Resolver.lookupMigrated
      repeat' split
      all_goals first | exact reports_error rfl | exact reports_ok _
    unfold Resolver.lookupExternal
    split
    · exact reports_ok _
    split
    · rename_i absent
      intro cause tap failed missing
      obtain rfl := Except.error.inj failed
      obtain rfl := Option.some.inj missing
      exact ⟨follows last reached, AList.lookup_eq_none.mp (by simpa using absent)⟩
    · exact reports_error rfl
  · intro found looked
    rcases lookupExact_cases looked with ⟨_, parsed, _⟩ | ⟨_, reached, _⟩
    · exact FormulaID.tap_ne_empty parsed
    · exact follows found.1 reached

theorem answers_lookupParsed (value : String) :
    Answers resolver (resolver.lookupParsed value).result := by
  unfold Resolver.lookupParsed
  split
  · exact answers_error rfl
  · rename_i id parsed
    exact answers_lookupExact named (FormulaID.tap_ne_empty parsed)

theorem answers_normalizeDependency (owner : TapID) (raw : String) :
    Answers resolver (resolver.normalizeDependency owner raw).result := by
  unfold Resolver.normalizeDependency
  split
  · exact answers_lookupParsed named raw
  split
  · exact answers_error rfl
  rename_i id parsed
  have exact' := answers_lookupExact named (FormulaID.tap_ne_empty parsed)
  dsimp only
  split
  · exact exact'
  · split
    · exact answers_lookupParsed named _
    · exact exact'

end

end Lookups

/-! ## Runs -/

section Runs

variable {resolver : Resolver} {platform : Platform} {requested : List FormulaID}

/-- The queued identities name a tap. -/
def Worklist.Named (worklist : Worklist) : Prop :=
  ∀ id ∈ worklist.queue, FormulaID.tap id ≠ ""

theorem reports_externalRebuild (formula : Catalog.Formula) (tag : String) (root : Bool) :
    Reports resolver (resolver.externalRebuild formula platform tag root) := by
  have unavailable : (externalBottleUnavailableError formula.bottle tag).missingTap? = none := by
    unfold externalBottleUnavailableError
    split
    · rfl
    · rfl
  unfold Resolver.externalRebuild
  split
  · exact reports_ok _
  split
  · exact reports_ok _
  · dsimp only
    split
    · exact reports_error unavailable
    · exact reports_error unavailable

theorem reports_nodeAndDependencies (source : FormulaSource) (tag : String) (root : Bool) :
    Reports resolver (resolver.nodeAndDependencies source platform tag root) := by
  cases source with
  | core formula id =>
    simp only [Resolver.nodeAndDependencies, coreNode]
    split
    · exact reports_error rfl
    · split
      · exact reports_error rfl
      · exact reports_ok _
  | external formula id =>
    simp only [Resolver.nodeAndDependencies, Resolver.externalNode]
    split
    · exact reports_error rfl
    refine Reports.bind (reports_externalRebuild formula tag root) fun _ _ => ?_
    refine Reports.bind (Reports.foldlM (fun selected variation => ?_) _ _) fun _ _ => reports_ok _
    unfold overlay
    split
    · exact reports_ok _
    · split
      · exact reports_error rfl
      · exact reports_ok _

section

variable (named : resolver.Named)

include named

variable {id : FormulaID}

theorem Worklist.Named.addDependency {worklist extended : Worklist} {dependency : Requirement}
    (result : resolver.addDependency id worklist dependency = .ok extended)
    (queued : worklist.Named) : extended.Named := by
  obtain ⟨found, normal, _, rfl⟩ := Resolver.addDependency_eq_ok.mp result
  intro pending member
  simp only [Worklist.record] at member
  split at member
  · exact queued pending member
  · rcases List.mem_append.mp member with old | new
    · exact queued pending old
    · rw [List.mem_singleton.mp new]
      exact (answers_normalizeDependency named _ _).2 found normal

theorem Worklist.Named.expand {worklist expanded : Worklist}
    (result : resolver.expand platform requested worklist id = .ok expanded)
    (queued : worklist.Named) : expanded.Named := by
  obtain ⟨source, node, dependencies, extended, _, _, loop, rfl⟩ := Resolver.expand_eq_ok.mp result
  have marked : Worklist.Named
      { worklist with used := markTaps worklist.used (resolver.lookupExact id).taps } := queued
  have loaded : extended.Named := foldlM_preserves
    (fun _ _ _ _ held step => Worklist.Named.addDependency named step held) loop marked
  exact loaded

theorem reports_expand (start : FormulaID.tap id ≠ "") (worklist : Worklist) :
    Reports resolver (resolver.expand platform requested worklist id) := by
  refine (answers_lookupExact named start).1.bind fun found _ => ?_
  split
  · exact reports_error rfl
  · refine ((reports_nodeAndDependencies _ _ _).within _).bind fun declared _ => ?_
    refine (Reports.foldlM (fun _ _ => ?_) _ _).bind fun _ _ => reports_ok _
    refine ((answers_normalizeDependency named _ _).1.within _).bind fun found _ => ?_
    split
    · exact reports_error rfl
    · exact reports_ok _

theorem reports_drain (budget : Nat) (worklist : Worklist) (queued : worklist.Named) :
    Reports resolver (resolver.drain platform requested budget worklist) := by
  induction budget generalizing worklist with
  | zero =>
    unfold Resolver.drain
    split
    · exact reports_ok _
    · exact reports_error rfl
    · contradiction
  | succ budget ih =>
    cases pending : worklist.queue.dropWhile worklist.done with
    | nil =>
      unfold Resolver.drain
      rw [pending]
      exact reports_ok _
    | cons id rest =>
      rw [drain_pending resolver budget pending]
      have inside : id :: rest ⊆ worklist.queue := by
        rw [← pending]
        exact (List.dropWhile_suffix _).subset
      have rests : Worklist.Named { worklist with queue := rest } :=
        fun other member => queued other (inside (List.mem_cons_of_mem _ member))
      refine (reports_expand named (queued id (inside List.mem_cons_self)) _).bind ?_
      exact fun expanded step => ih expanded (rests.expand named step)

theorem reports_addRoot (roots : Roots) (raw : FormulaID) :
    Reports resolver (resolver.addRoot roots raw) := by
  refine ((reports_check _).within _).bind fun _ checked => ?_
  have valid : FormulaID.validate raw = .ok () := by simpa using checked
  refine ((answers_lookupExact named (FormulaID.tap_ne_empty
    (FormulaID.parseFormulaID_of_validate valid))).1.within _).bind fun found _ => ?_
  split
  · exact reports_error rfl
  · exact reports_ok _

theorem requested_named {raws : List FormulaID} {collected : Roots}
    (loop : raws.foldlM resolver.addRoot {} = .ok collected) :
    ∀ id ∈ collected.requested, FormulaID.tap id ≠ "" := by
  refine foldlM_preserves
    (motive := fun roots => ∀ id ∈ roots.requested, FormulaID.tap id ≠ "") ?_ loop (by simp)
  intro source raw target _ held step
  obtain ⟨found, valid, looked, _, rfl⟩ := Resolver.addRoot_eq_ok.mp step
  rw [List.forall_mem_append]
  refine ⟨held, ?_⟩
  simpa using (answers_lookupExact named
    (FormulaID.tap_ne_empty (FormulaID.parseFormulaID_of_validate valid))).2 found looked

end

theorem reports_closureOfRun (collected : Roots) (worklist : Worklist) :
    Reports resolver (closureOfRun collected worklist) := by
  have racks : Reports resolver (validateRackCollisions worklist.nodes) := by
    refine Reports.bind (Reports.foldlM (fun byRack entry => ?_) _ _) fun _ _ => reports_ok _
    unfold claimRack
    split
    · split
      · exact reports_error rfl
      · exact reports_ok _
    · exact reports_ok _
  refine racks.bind fun _ _ => Reports.bind ?_ fun order _ => ?_
  · unfold topo
    split
    · exact reports_ok _
    · exact reports_error rfl
    · exact reports_error rfl
  · exact (reports_check _).bind fun _ _ => reports_ok _

/-- A tap that a resolution misses has a name and no catalog. -/
theorem resolve_reports (named : resolver.Named) (roots : List FormulaID) (platform : Platform) :
    Reports resolver (resolver.resolve roots platform) := by
  rw [resolve_eq]
  refine (reports_check _).bind fun _ _ => ?_
  by_cases empty : roots = []
  · rw [if_pos empty, throw_bind]
    exact reports_error rfl
  rw [if_neg empty]
  refine (Reports.foldlM (reports_addRoot named) _ _).bind fun collected loop => ?_
  have queued : collected.worklist.Named := requested_named named loop
  refine (reports_drain named _ _ queued).bind fun worklist _ => ?_
  exact reports_closureOfRun collected worklist

end Runs

/-! ## Recorded taps -/

section Recorded

variable {resolver : Resolver} {platform : Platform}

theorem known_resolveMapping (inside : resolver.Scoped) {id last : FormulaID}
    (reached : (resolver.resolveMapping id).result = .ok last)
    (ends : FormulaID.isCore last = true ∨ FormulaID.tap last ∈ resolver.catalogs) :
    ∀ tap ∈ (resolver.resolveMapping id).taps, tap ∈ resolver.catalogs := by
  have follows := follows_resolveMapping resolver id
  intro tap marked
  obtain ⟨other, path, outside, rfl⟩ := follows.sound tap marked
  cases found : resolver.mappings.lookup other with
  | some next => exact inside.mappings other next found
  | none =>
    obtain ⟨ended, missing⟩ := follows.ends last reached
    obtain rfl := eq_of_leads found (leads_end ended missing path)
    exact ends.resolve_left (by simp [outside])

/-- The taps that a successful lookup marks have a catalog. -/
theorem known_lookupExact (inside : resolver.Scoped) {id : FormulaID}
    (looked : (resolver.lookupExact id).result = .ok found) :
    ∀ tap ∈ (resolver.lookupExact id).taps, tap ∈ resolver.catalogs := by
  cases core : FormulaID.isCore id with
  | true => simp [Resolver.lookupExact, core]
  | false =>
    simp only [Resolver.lookupExact, core, Bool.false_eq_true, if_false] at looked ⊢
    obtain ⟨last, reached, answered⟩ := bind_eq_ok.mp looked
    have ends : FormulaID.isCore last = true ∨ FormulaID.tap last ∈ resolver.catalogs := by
      split at answered
      · rename_i migrated
        exact .inl migrated
      unfold Resolver.lookupExternal at answered
      split at answered
      · rename_i formula indexed
        exact .inr (inside.formulae last formula indexed)
      · split at answered
        · cases answered
        · cases answered
    have chained := known_resolveMapping inside reached ends
    rw [List.forall_mem_cons]
    refine ⟨chained _ ?_, chained⟩
    simpa using (follows_resolveMapping resolver id).complete id .refl core

theorem known_lookupParsed (inside : resolver.Scoped) {value : String}
    (looked : (resolver.lookupParsed value).result = .ok found) :
    ∀ tap ∈ (resolver.lookupParsed value).taps, tap ∈ resolver.catalogs := by
  unfold Resolver.lookupParsed at looked ⊢
  split at looked
  · cases looked
  · exact known_lookupExact inside looked

theorem known_normalizeDependency (inside : resolver.Scoped) {owner : TapID} {raw : String}
    (looked : (resolver.normalizeDependency owner raw).result = .ok found) :
    ∀ tap ∈ (resolver.normalizeDependency owner raw).taps, tap ∈ resolver.catalogs := by
  cases qualified : GoString.containsChar raw '/' with
  | true =>
    simp only [Resolver.normalizeDependency, qualified, if_true] at looked ⊢
    exact known_lookupParsed inside looked
  | false =>
    simp only [Resolver.normalizeDependency, qualified, Bool.false_eq_true, if_false] at looked ⊢
    split at looked
    · cases looked
    rename_i id parsed
    split at looked
    · exact known_lookupExact inside looked
    split at looked
    · -- a bare name is looked up in core, which marks no tap
      rename_i unknown
      have core := (FormulaID.name_of_bare qualified parsed).1
      simp only [unknown, Resolver.lookupExact, core, if_true, List.nil_append]
      exact known_lookupParsed inside looked
    · rename_i other
      rw [if_neg other]
      exact known_lookupExact inside looked

variable {roots : List FormulaID} {closure : ClosureResult}

/-- The taps that a successful resolution records have a catalog. -/
theorem known_of_resolve (inside : resolver.Scoped)
    (result : resolver.resolve roots platform = .ok closure) :
    ∀ tap ∈ recordedTaps closure, tap ∈ resolver.catalogs := by
  intro tap member
  have resolved := resolved_of_resolve result
  rcases (resolved.taps tap).mp member with ⟨raw, among, marked⟩ | ⟨node, _, expansion, valid, marked⟩
  · obtain ⟨id, _, source, looked⟩ := exists_right_of_forall₂ resolved.normal among
    exact known_lookupExact inside looked tap marked
  · rcases List.mem_append.mp marked with own | declared
    · exact known_lookupExact inside valid.canonical tap own
    · obtain ⟨dependency, among, used⟩ := List.mem_flatMap.mp declared
      obtain ⟨edge, _, found, normal, _, _⟩ := exists_right_of_forall₂ valid.recorded among
      exact known_normalizeDependency inside normal tap used

end Recorded

end DalecHomebrew.CatalogResolver
