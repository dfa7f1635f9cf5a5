import DalecHomebrew.Homebrew.CoreCatalog
import DalecHomebrew.Homebrew.FormulaID

/-!
# Lookups in a built core catalog

Construction leaves indexes that point to canonical names only.  A lookup in an
accepted catalog therefore reports a missing Formula exactly for the names that
core does not mention at all (`lookup_absent_iff`), and never for a canonical
name, an alias or an old name (`lookup_known`).
-/

namespace DalecHomebrew.Homebrew.Metadata

open Foundation Foundation.GoString

variable {catalog : CoreCatalog} {known : List String}

/-- The indexes that lookups read. -/
def CoreCatalog.index (catalog : CoreCatalog) : Catalog where
  canonical := catalog.canonical.mapValues CatalogFormula.toFormula
  aliases := catalog.aliases
  oldNames := catalog.oldNames
  resolvedMigrations := catalog.resolvedMigrations

/-- The indexes of names point to canonical names, and these are among the known ones. -/
structure CoreCatalog.Indexed (known : List String) (catalog : CoreCatalog) : Prop where
  named : ∀ name formula, catalog.canonical.lookup name = some formula →
    formula.name = name ∧ name ∈ known
  aliases : ∀ name canonical, catalog.aliases.lookup name = some canonical →
    canonical ∈ catalog.canonical
  oldNames : ∀ name canonical, catalog.oldNames.lookup name = some canonical →
    canonical ∈ catalog.canonical

/-- A catalog before construction looks at migrations. -/
structure CoreCatalog.Unmigrated (known : List String) (catalog : CoreCatalog) : Prop
    extends CoreCatalog.Indexed known catalog where
  migrations : catalog.migrations = ∅
  resolvedMigrations : catalog.resolvedMigrations = ∅

/-- A migration ends outside core or at a canonical name. -/
def CoreCatalog.Ends (catalog : CoreCatalog) (resolved : MigrationResolution) : Prop :=
  resolved.externalTarget ≠ "" ∨ resolved.canonical ∈ catalog.canonical

/-- Migrations out of core name their target. -/
def CoreCatalog.Directed (catalog : CoreCatalog) : Prop :=
  ∀ name migration, catalog.migrations.lookup name = some migration →
    migration.inCore = false → migration.target ≠ ""

/-- What is recorded about migrations is about migrations of the catalog, and they end. -/
def CoreCatalog.Settled (catalog : CoreCatalog) : Prop :=
  ∀ name resolved, catalog.resolvedMigrations.lookup name = some resolved →
    name ∈ catalog.migrations ∧ catalog.Ends resolved

/-! ## The indexes of names -/

/-- An index of names with one more entry that points to a canonical name. -/
theorem mem_of_lookup_insert {canonicals : Table String CatalogFormula}
    {index : Table String String} {name other : String} (present : name ∈ canonicals)
    (pointing : ∀ name canonical, index.lookup name = some canonical → canonical ∈ canonicals) :
    ∀ wanted canonical, (index.insert other name).lookup wanted = some canonical →
      canonical ∈ canonicals := by
  intro wanted canonical found
  rcases Table.lookup_insert_eq_some.mp found with ⟨_, rfl⟩ | ⟨_, old⟩
  · exact present
  · exact pointing wanted canonical old

/-- A canonical Formula is added or replaced under its name. -/
theorem CoreCatalog.Unmigrated.insert (held : catalog.Unmigrated known) {formula : CatalogFormula}
    (listed : formula.name ∈ known) (names : List String) :
    CoreCatalog.Unmigrated known { catalog with
      canonical := catalog.canonical.insert formula.name formula, canonicalNames := names } := by
  refine ⟨⟨?_, ?_, ?_⟩, held.migrations, held.resolvedMigrations⟩
  · intro name other found
    rcases Table.lookup_insert_eq_some.mp found with ⟨rfl, rfl⟩ | ⟨_, old⟩
    · exact ⟨rfl, listed⟩
    · exact held.named name other old
  · intro name canonical found
    exact (AList.mem_insert _).mpr (.inr (held.aliases name canonical found))
  · intro name canonical found
    exact (AList.mem_insert _).mpr (.inr (held.oldNames name canonical found))

theorem unmigrated_of_grows {formulae : List CatalogFormula}
    (listed : ∀ formula ∈ formulae, formula.name ∈ known)
    (grown : Relation.ReflTransGen (CoreCatalog.Grows formulae) .empty catalog) :
    catalog.Unmigrated known := by
  induction grown with
  | refl => refine ⟨⟨?_, ?_, ?_⟩, rfl, rfl⟩ <;> simp [CoreCatalog.empty]
  | tail _ grows held =>
    cases grows with
    | formula member => exact held.insert (listed _ member) _
    | sorted =>
      exact ⟨⟨held.named, held.aliases, held.oldNames⟩, held.migrations, held.resolvedMigrations⟩
    | aliased present =>
      exact ⟨⟨held.named, mem_of_lookup_insert present held.aliases, held.oldNames⟩,
        held.migrations, held.resolvedMigrations⟩
    | oldName present =>
      exact ⟨⟨held.named, held.aliases, mem_of_lookup_insert present held.oldNames⟩,
        held.migrations, held.resolvedMigrations⟩
    | @dependencies _ formula dependencies variations found =>
      obtain ⟨rfl, member⟩ := held.named _ _ found
      let changed : CatalogFormula := { formula with dependencies, variations }
      exact held.insert (show changed.name ∈ known from member) _

/-! ## The index of migrations -/

variable {resolved : MigrationResolution} {name : String}

/-- Recording the end of a migration keeps what is recorded. -/
theorem CoreCatalog.Settled.record (settled : catalog.Settled)
    (present : name ∈ catalog.migrations) (ends : catalog.Ends resolved) :
    (catalog.resolved name resolved).1.Settled := by
  intro wanted other found
  rcases Table.lookup_insert_eq_some.mp found with ⟨rfl, rfl⟩ | ⟨_, old⟩
  · exact ⟨present, ends⟩
  · exact settled wanted other old

/-- What one call of `resolveMigration` adds to a catalog. -/
structure CoreCatalog.Records (source target : CoreCatalog) (name : String)
    (resolved : MigrationResolution) : Prop where
  settled : target.Settled
  ends : source.Ends resolved
  recorded : name ∈ target.resolvedMigrations
  kept : ∀ other ∈ source.resolvedMigrations, other ∈ target.resolvedMigrations

theorem CoreCatalog.Settled.records (settled : catalog.Settled)
    (present : name ∈ catalog.migrations) (ends : catalog.Ends resolved) :
    catalog.Records (catalog.resolved name resolved).1 name resolved where
  settled := settled.record present ends
  ends := ends
  recorded := (AList.mem_insert _).mpr (.inl rfl)
  kept := fun _ member => (AList.mem_insert _).mpr (.inr member)

theorem records_of_resolveMigration (source : CoreCatalog)
    (stack : List String) (name : String) {target : CoreCatalog}
    (indexed : source.Indexed known) (directed : source.Directed) (settled : source.Settled)
    (resolves : resolveMigration source stack name = .ok (target, resolved)) :
    source.Records target name resolved := by
  fun_induction resolveMigration source stack name generalizing target resolved
  case case1 found =>
      cases resolves
      exact ⟨settled, (settled _ _ found).2, mem_of_lookup found, fun _ member => member⟩
  case case4 found outside =>
      cases resolves
      exact settled.records (mem_of_lookup found)
        (.inl (directed _ _ found (by simpa using outside)))
  case case5 found _ _ formula held =>
      cases resolves
      refine settled.records (mem_of_lookup found) (.inr ?_)
      rw [(indexed.named _ _ held).1]
      exact mem_of_lookup held
  case case7 found _ _ _ _ _ held =>
      cases resolves
      exact settled.records (mem_of_lookup found) (.inr (indexed.aliases _ _ held))
  case case8 found _ _ _ _ _ held _ =>
      cases resolves
      exact settled.records (mem_of_lookup found) (.inr (indexed.oldNames _ _ held))
  case case10 found _ _ _ _ _ _ _ _ reached resolution later ih =>
      -- The rest of the chain is recorded first, and this name gets the same end.
      cases resolves
      have rest := ih later
      have others := resolveMigration_others _ _ _ later
      refine ⟨?_, rest.ends, (AList.mem_insert _).mpr (.inl rfl),
        fun other member => (AList.mem_insert _).mpr (.inr (rest.kept other member))⟩
      refine rest.settled.record ?_ ?_
      · rw [others]
        exact mem_of_lookup found
      · rw [others]
        exact rest.ends
  all_goals cases resolves

variable {source target : Claims × CoreCatalog × List Migration} {migration : Migration}

/-- The migrations of the index are those that the loop accepts. -/
theorem directed_of_claimMigration
    (named : migration.inCore = false → migration.target ≠ "")
    (held : source.2.1.Directed ∧
      ∀ name ∈ source.2.1.migrations, name ∈ source.2.2.map Migration.name)
    (claimed : claimMigration source migration = .ok target) :
    target.2.1.Directed ∧
      ∀ name ∈ target.2.1.migrations, name ∈ target.2.2.map Migration.name := by
  rcases claimMigration_cases claimed with same | same
  · rw [same]
    exact held
  · rw [same]
    refine ⟨fun name other found => ?_, fun name member => ?_⟩
    · rcases Table.lookup_insert_eq_some.mp found with ⟨_, rfl⟩ | ⟨_, old⟩
      · exact named
      · exact held.1 name other old
    · rw [List.map_append, List.mem_append]
      rcases (AList.mem_insert _).mp member with rfl | earlier
      · exact .inr (by simp)
      · exact .inl (held.2 name earlier)

/-! ## Accepted catalogs -/

/-- The indexes of a catalog that construction accepted. -/
structure CoreCatalog.Accepted (known : List String) (catalog : CoreCatalog) : Prop
    extends CoreCatalog.Indexed known catalog where
  settled : catalog.Settled
  resolved : ∀ name ∈ catalog.migrations, name ∈ catalog.resolvedMigrations

theorem accepted_of_resolveAccepted {accepted : List Migration} {source target : CoreCatalog}
    (indexed : source.Indexed known) (directed : source.Directed) (settled : source.Settled)
    (loop : accepted.foldlM resolveAccepted source = .ok target) :
    target.Settled ∧ ∀ name ∈ accepted.map Migration.name, name ∈ target.resolvedMigrations := by
  let keeps (done : List Migration) (reached : CoreCatalog) := (reached.Settled ∧
      ∀ name ∈ done.map Migration.name, name ∈ reached.resolvedMigrations) ∧
    reached = { source with resolvedMigrations := reached.resolvedMigrations }
  have start : keeps [] source := ⟨⟨settled, by simp⟩, rfl⟩
  refine (foldlM_history (motive := keeps) ?_ loop start).1
  rintro done reached migration next ⟨⟨reachedSettled, recorded⟩, same⟩ step
  have others := resolveAccepted_others step
  unfold resolveAccepted at step
  split at step
  · rename_i final resolution resolves
    cases step
    have records := records_of_resolveMigration reached [] migration.name
      (by rw [same]; exact ⟨indexed.named, indexed.aliases, indexed.oldNames⟩)
      (by rw [same]; exact directed) reachedSettled resolves
    refine ⟨⟨records.settled, ?_⟩, by rw [others, same]⟩
    rw [List.map_append, List.forall_mem_append]
    refine ⟨fun name member => records.kept name (recorded name member), ?_⟩
    simpa using records.recorded
  · cases step

variable {formulae : List CatalogFormula} {migrations : List Migration}

theorem indexed_of_buildCatalog (listed : ∀ formula ∈ formulae, formula.name ∈ known)
    (built : buildCatalog formulae migrations = .ok catalog) : catalog.Indexed known := by
  obtain ⟨validated, _, reached, grown, _, migrating, resolving⟩ := grows_of_buildCatalog built
  have held := unmigrated_of_grows listed grown
  rw [resolveAccepteds_others resolving, claimMigrations_others migrating]
  exact ⟨held.named, held.aliases, held.oldNames⟩

theorem accepted_of_buildCatalog (listed : ∀ formula ∈ formulae, formula.name ∈ known)
    (named : ∀ migration ∈ migrations, migration.inCore = false → migration.target ≠ "")
    (built : buildCatalog formulae migrations = .ok catalog) : catalog.Accepted known := by
  have indexed := indexed_of_buildCatalog listed built
  obtain ⟨validated, _, ⟨_, migrated, accepted⟩, grown, _, migrating, resolving⟩ :=
    grows_of_buildCatalog built
  have held := unmigrated_of_grows listed grown
  obtain ⟨directed, all⟩ : migrated.Directed ∧
      ∀ name ∈ migrated.migrations, name ∈ accepted.map Migration.name :=
    foldlM_preserves (motive := fun reached => reached.2.1.Directed ∧
        ∀ name ∈ reached.2.1.migrations, name ∈ reached.2.2.map Migration.name)
      (fun _ _ _ member => directed_of_claimMigration (named _ member)) migrating
      ⟨by simp [CoreCatalog.Directed, held.migrations], by simp [held.migrations]⟩
  have start : migrated.Settled := by
    rw [show migrated = _ from claimMigrations_others migrating]
    simp [CoreCatalog.Settled, held.resolvedMigrations]
  have same := resolveAccepteds_others resolving
  obtain ⟨settled, recorded⟩ := accepted_of_resolveAccepted (by
    rw [same] at indexed
    exact ⟨indexed.named, indexed.aliases, indexed.oldNames⟩) directed start resolving
  refine ⟨indexed, settled, fun name member => recorded name (all name ?_)⟩
  rwa [same] at member

/-! ## Lookups -/

section Lookups

variable {known : List String} {catalog : CoreCatalog} {name : String} {cause : Failure}

theorem is_lookupError {target : String} {sentinel : Sentinel} :
    (lookupError name target cause).is sentinel = cause.is sentinel := by
  unfold lookupError
  split
  · rfl
  · rfl

/-- A lookup that ends at a canonical name never reports a missing Formula. -/
theorem matched_of_mem (requested : String) (kind : MatchKind) {canonical : String}
    (present : canonical ∈ catalog.canonical) :
    (∃ cause, catalog.index.matched requested canonical kind = .error cause ∧
      cause.is .formulaNotFound = false) ∨
    ∃ found, catalog.index.matched requested canonical kind = .ok found ∧
      found.canonical = canonical := by
  obtain ⟨formula, found⟩ := Option.isSome_iff_exists.mp (AList.lookup_isSome.mpr present)
  simp only [Catalog.matched, CoreCatalog.index, Table.lookup_mapValues, found, Option.map_some]
  split
  · exact .inl ⟨_, rfl, is_lookupError⟩
  · split
    · exact .inl ⟨_, rfl, is_lookupError⟩
    · exact .inr ⟨_, rfl, rfl⟩

theorem not_formulaNotFound_of_validateSimpleName
    (invalid : validateSimpleName name = .error cause) : cause.is .formulaNotFound = false := by
  unfold validateSimpleName at invalid
  split at invalid
  · split at invalid
    · cases invalid
    · cases invalid
      rfl
  · cases invalid
    rfl

theorem bare_of_validateSimpleName (simple : validateSimpleName name = .ok ()) :
    containsChar name '/' = false := by
  unfold validateSimpleName at simple
  split at simple
  · rename_i first rest characters
    split at simple
    · rename_i allowed
      have letters : '/' ∉ first :: rest := by
        rw [List.mem_cons, not_or]
        refine ⟨?_, slash_not_mem_of_all (by decide) allowed.2⟩
        rintro rfl
        revert allowed
        simp
      simpa [containsChar, characters] using letters
    · cases simple
  · cases simple

section

variable (indexed : catalog.Indexed known) {name canonical : String}
  (resolves : catalog.canonicalName? name = some canonical)

include indexed resolves

/-- A canonical name, an alias or an old name is found as its canonical name, or not missing. -/
theorem lookup_known :
    (∃ cause, catalog.index.lookup name = .error cause ∧ cause.is .formulaNotFound = false) ∨
    ∃ found, catalog.index.lookup name = .ok found ∧ found.canonical = canonical := by
  unfold Catalog.lookup
  cases simple : validateSimpleName name with
  | error cause =>
    refine .inl ⟨_, rfl, ?_⟩
    rw [is_lookupError]
    exact not_formulaNotFound_of_validateSimpleName simple
  | ok _ =>
    unfold CoreCatalog.canonicalName? at resolves
    cases exact : catalog.canonical.lookup name with
    | some formula =>
      obtain rfl : name = canonical := by simpa [exact] using resolves
      have own : formula.name = name := (indexed.named name formula exact).1
      simpa [CoreCatalog.index, exact, own] using
        matched_of_mem name .canonical (mem_of_lookup exact)
    | none =>
      rw [exact] at resolves
      simp only [CoreCatalog.index, Table.lookup_mapValues, exact, Option.map_none]
      by_cases versioned : containsChar name '@' = true
      · rw [if_pos versioned]
        exact .inl ⟨_, rfl, by rw [is_lookupError]; rfl⟩
      rw [if_neg versioned]
      cases aliased : catalog.aliases.lookup name with
      | some target =>
        obtain rfl : target = canonical := by simpa [aliased] using resolves
        exact matched_of_mem _ _ (indexed.aliases name target aliased)
      | none =>
        have renamed : catalog.oldNames.lookup name = some canonical := by
          simpa [aliased] using resolves
        rw [renamed]
        exact matched_of_mem _ _ (indexed.oldNames name canonical renamed)

theorem mem_of_canonicalName? : canonical ∈ catalog.canonical := by
  unfold CoreCatalog.canonicalName? at resolves
  split at resolves
  · rename_i present
    rw [← AList.lookup_isSome, ← Option.some.inj resolves]
    exact present
  · rcases Option.or_eq_some_iff.mp resolves with aliased | ⟨_, renamed⟩
    · exact indexed.aliases name canonical aliased
    · exact indexed.oldNames name canonical renamed

end

variable {name : String}

/-- What lookups answer is a canonical name. -/
theorem mem_of_lookup_ok {found : Match}
    (result : catalog.index.lookup name = .ok found) : found.canonical ∈ catalog.canonical := by
  have inner : ∀ {requested canonical kind},
      catalog.index.matched requested canonical kind = .ok found →
      found.canonical ∈ catalog.canonical := by
    intro requested canonical kind matched
    simp only [Catalog.matched, CoreCatalog.index, Table.lookup_mapValues] at matched
    cases held : catalog.canonical.lookup canonical with
    | none =>
      rw [held] at matched
      cases matched
    | some formula =>
      simp only [held, Option.map_some, ite_error_eq_ok, Except.ok.injEq] at matched
      obtain ⟨_, _, rfl⟩ := matched
      exact mem_of_lookup held
  unfold Catalog.lookup at result
  repeat' split at result
  all_goals first | exact inner result | cases result

/--
A name that is no canonical name, alias or old name is reported missing exactly
if it is not versioned and no migration of core moved it.
-/
theorem lookup_absent_iff (accepted : catalog.Accepted known)
    (simple : validateSimpleName name = .ok ()) (absent : catalog.canonicalName? name = none) :
    (∃ cause, catalog.index.lookup name = .error cause ∧ cause.is .formulaNotFound = true) ↔
      containsChar name '@' = false ∧ catalog.migrations.lookup name = none := by
  obtain ⟨exact, aliased, renamed⟩ : catalog.canonical.lookup name = none ∧
      catalog.aliases.lookup name = none ∧ catalog.oldNames.lookup name = none := by
    unfold CoreCatalog.canonicalName? at absent
    cases exact : catalog.canonical.lookup name with
    | some formula => simp [exact] at absent
    | none => simpa [exact] using absent
  unfold Catalog.lookup
  simp only [simple, CoreCatalog.index, Table.lookup_mapValues, exact, Option.map_none]
  by_cases versioned : containsChar name '@' = true
  · simp [versioned, is_lookupError, Failure.is]
  simp only [versioned, aliased, renamed]
  cases moved : catalog.resolvedMigrations.lookup name with
  | none =>
    have unmoved : catalog.migrations.lookup name = none := by
      rw [AList.lookup_eq_none]
      intro member
      exact AList.lookup_eq_none.mp moved (accepted.resolved name member)
    simp [unmoved, is_lookupError, Failure.is]
  | some resolved =>
    obtain ⟨member, ends⟩ := accepted.settled name resolved moved
    have still : catalog.migrations.lookup name ≠ none := by
      rw [ne_eq, AList.lookup_eq_none, not_not]
      exact member
    by_cases outside : resolved.externalTarget = ""
    · -- the migration ends in core, where the Formula is found or refused
      have present := ends.resolve_left (not_not.mpr outside)
      rcases matched_of_mem name .migration present with
        ⟨cause, refused, other⟩ | ⟨found, answered, _⟩
      · simp only [CoreCatalog.index] at refused
        simp [outside, refused, other, still]
      · simp only [CoreCatalog.index] at answered
        simp [outside, answered, still]
    · simp [outside, is_lookupError, Failure.is, still]

end Lookups

end DalecHomebrew.Homebrew.Metadata
