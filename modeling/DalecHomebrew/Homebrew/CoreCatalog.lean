import DalecHomebrew.Foundation.DepthFirst
import DalecHomebrew.Homebrew.Metadata

/-!
# The authenticated core catalog

`buildCatalog` of `internal/homebrew/metadata`: from the parsed Formula and
migration payloads to the indexes that lookups read.  Construction claims every
name once, replaces dependency names by canonical ones, and searches for
dependency cycles once without a tag and once for each Linux tag that some
Formula mentions.

The main result is about every Linux bottle tag, mentioned or not: its
dependency graph stays inside the catalog and has no cycle.
-/

namespace DalecHomebrew.Homebrew.Metadata

open Foundation Foundation.GoString

/-! ## Construction -/

/-- A parsed Formula with the names that construction indexes. -/
structure CatalogFormula extends Formula where
  oldNames : List String := []
  aliases : List String := []
  versionedFormulae : List String := []

structure Migration where
  name : String
  target : String
  targetName : String := ""
  inCore : Bool

/-- The `Catalog` of the source with the fields that only construction reads. -/
structure CoreCatalog where
  canonical : Table String CatalogFormula
  aliases : Table String String
  oldNames : Table String String
  migrations : Table String Migration
  resolvedMigrations : Table String MigrationResolution
  canonicalNames : List String

def CoreCatalog.empty : CoreCatalog where
  canonical := ∅
  aliases := ∅
  oldNames := ∅
  migrations := ∅
  resolvedMigrations := ∅
  canonicalNames := []

/-- The names that are taken, each with what it is. -/
abbrev Claims := Table String String

def invalidCatalog (message : String) : String :=
  "invalid Homebrew metadata catalog: " ++ message

def uniqueSorted (values : List String) : List String :=
  values.eraseDups.insertionSort (· ≤ ·)

/-- One iteration of the first loop of `buildCatalog`. -/
def claimFormula : Claims × CoreCatalog → CatalogFormula → Except String (Claims × CoreCatalog)
  | (claimed, catalog), formula =>
    match claimed.lookup formula.name with
    | some previous =>
      .error (invalidCatalog ("duplicate canonical name " ++ quote formula.name ++
        " (already " ++ previous ++ ")"))
    | none =>
      .ok (claimed.insert formula.name "canonical name", { catalog with
          canonical := catalog.canonical.insert formula.name formula
          canonicalNames := catalog.canonicalNames ++ [formula.name] })

def claimIndex (claimed : Claims) (name kind : String) : Except String Claims :=
  match claimed.lookup name with
  | some previous =>
    .error (invalidCatalog ("duplicate identity " ++ quote name ++ " claimed by " ++ previous ++
      " and " ++ kind))
  | none => .ok (claimed.insert name kind)

def checkVersioned (catalog : CoreCatalog) (name versioned : String) : Except String Unit :=
  if versioned = name then
    .error (invalidCatalog ("Formula " ++ quote name ++ " references itself in versioned_formulae"))
  else if !containsChar versioned '@' then
    .error (invalidCatalog ("Formula " ++ quote name ++
      " has non-versioned versioned_formulae entry " ++ quote versioned))
  else if (catalog.canonical.lookup versioned).isNone then
    .error (invalidCatalog ("Formula " ++ quote name ++ " references missing versioned Formula " ++
      quote versioned))
  else .ok ()

def claimAlias (name : String) :
    Claims × CoreCatalog → String → Except String (Claims × CoreCatalog)
  | (claimed, catalog), other => do
      let claimed ← claimIndex claimed other ("alias for " ++ name)
      return (claimed, { catalog with aliases := catalog.aliases.insert other name })

def claimOldName (name : String) :
    Claims × CoreCatalog → String → Except String (Claims × CoreCatalog)
  | (claimed, catalog), other => do
      let claimed ← claimIndex claimed other ("oldname for " ++ name)
      return (claimed, { catalog with oldNames := catalog.oldNames.insert other name })

/-- One iteration of the second loop of `buildCatalog`. -/
def indexFormula (source : Claims × CoreCatalog) (name : String) :
    Except String (Claims × CoreCatalog) :=
  match source.2.canonical.lookup name with
  | none => .ok source
  | some formula => do
      formula.versionedFormulae.forM (checkVersioned source.2 name)
      let aliased ← formula.aliases.foldlM (claimAlias name) source
      formula.oldNames.foldlM (claimOldName name) aliased

/-- The `resolve` closure of `canonicalizeCatalogDependencies`. -/
def CoreCatalog.canonicalName? (catalog : CoreCatalog) (name : String) : Option String :=
  if (catalog.canonical.lookup name).isSome then some name
  else (catalog.aliases.lookup name).or (catalog.oldNames.lookup name)

/-- The canonical names of a dependency list, sorted; `missing` is the error for a stray name. -/
def canonicalDependencies (catalog : CoreCatalog) (missing : String → String)
    (dependencies : List String) : Except String (List String) := do
  let canonical ← dependencies.mapM fun dependency =>
    match catalog.canonicalName? dependency with
    | none => .error (invalidCatalog (missing dependency))
    | some name => .ok name
  return uniqueSorted canonical

def missingDependency (name dependency : String) : String :=
  "Formula " ++ quote name ++ " references missing dependency " ++ quote dependency

def missingVariationDependency (name tag dependency : String) : String :=
  "Formula " ++ quote name ++ " variation " ++ quote tag ++ " references missing dependency " ++
    quote dependency

/-- One iteration of `canonicalizeCatalogDependencies`. -/
def canonicalizeFormula (catalog : CoreCatalog) (name : String) : Except String CoreCatalog :=
  match catalog.canonical.lookup name with
  | none => .ok catalog
  | some formula => do
      let dependencies ←
        canonicalDependencies catalog (missingDependency name) formula.dependencies
      let variations ← formula.variations.mapM fun variation => do
        let dependencies ←
          canonicalDependencies catalog (missingVariationDependency name variation.tag)
            variation.dependencies
        return { variation with dependencies }
      return { catalog with
        canonical := catalog.canonical.insert name { formula with dependencies, variations } }

def canonicalizeCatalogDependencies (catalog : CoreCatalog) : Except String CoreCatalog :=
  catalog.canonicalNames.foldlM canonicalizeFormula catalog

/-! ## Dependency checks -/

/-- `BottleTagX8664Linux` and `BottleTagARM64Linux`. -/
def isLinuxTag (tag : String) : Bool := tag = "x86_64_linux" ∨ tag = "arm64_linux"

variable (catalog : CoreCatalog)

/-- The dependencies that `validateDependencyCycles` follows; the empty tag is the base graph. -/
def CoreCatalog.dependencies (tag name : String) : List String :=
  match catalog.canonical.lookup name with
  | none => []
  | some formula => if tag = "" then formula.dependencies else formula.dependenciesFor tag

def checkDependency (missing : String → String) (dependency : String) : Except String Unit :=
  if (catalog.canonical.lookup dependency).isNone then
    .error (invalidCatalog (missing dependency))
  else .ok ()

/-- One iteration of the first loop of `validateCatalogDependencies`. -/
def checkFormulaDependencies (name : String) : Except String Unit :=
  match catalog.canonical.lookup name with
  | none => .ok ()
  | some formula => do
      formula.dependencies.forM (checkDependency catalog (missingDependency name))
      formula.variations.forM fun variation =>
        if isLinuxTag variation.tag && variation.overridesDependencies then
          variation.dependencies.forM
            (checkDependency catalog (missingVariationDependency name variation.tag))
        else .ok ()

/-- The tags whose graphs are searched: the empty one and the Linux tags of all variations. -/
def CoreCatalog.tagNames : List String :=
  uniqueSorted ("" :: catalog.canonicalNames.flatMap fun name =>
    match catalog.canonical.lookup name with
    | none => []
    | some formula => (formula.variations.map Variation.tag).filter isLinuxTag)

def validateDependencyCycles (tag : String) : Except String Unit :=
  match DepthFirst.visitAll (catalog.dependencies tag) (catalog.canonicalNames.length + 1) .initial
      catalog.canonicalNames with
  | .ok _ => .ok ()
  | .error (.cycle path) =>
    let label := if tag = "" then "base metadata" else "variation " ++ tag
    .error (invalidCatalog ("dependency cycle in " ++ label ++ ": " ++ join path " -> "))
  | .error .exhausted => .error (invalidCatalog "stack overflow")

def validateCatalogDependencies : Except String Unit := do
  catalog.canonicalNames.forM (checkFormulaDependencies catalog)
  catalog.tagNames.forM (validateDependencyCycles catalog)

/-! ## Migrations -/

/-- One iteration of the migration loop of `buildCatalog`; the list collects what it accepts. -/
def claimMigration :
    Claims × CoreCatalog × List Migration → Migration →
      Except String (Claims × CoreCatalog × List Migration)
  | (claimed, catalog, accepted), migration =>
    if migration.inCore ∧ migration.targetName = migration.name then
      if (catalog.canonicalName? migration.name).isSome then .ok (claimed, catalog, accepted)
      else
        .error (invalidCatalog ("same-name migration " ++ quote migration.name ++
          " has no canonical homebrew/core destination"))
    else do
      let claimed ← claimIndex claimed migration.name "migration"
      return (claimed,
        { catalog with migrations := catalog.migrations.insert migration.name migration },
        accepted ++ [migration])

/-- The migrations that are not on the stack. -/
def CoreCatalog.unvisited (stack : List String) : List String :=
  catalog.migrations.keys.filter fun name => name ∉ stack

variable {migration : Migration} {name other : String}

theorem CoreCatalog.unvisited_lt {catalog : CoreCatalog} {stack : List String}
    (found : catalog.migrations.lookup name = some migration) (fresh : name ∉ stack) :
    (catalog.unvisited (stack ++ [name])).length < (catalog.unvisited stack).length := by
  have fewer : catalog.unvisited (stack ++ [name]) =
      (catalog.unvisited stack).filter fun other => other ≠ name := by
    simp only [unvisited, List.filter_filter]
    refine List.filter_congr fun other _ => ?_
    simp [and_comm]
  rw [fewer]
  refine List.length_filter_lt_length_iff_exists.mpr ⟨name, ?_, by simp⟩
  have key : name ∈ catalog.migrations.keys := by
    rw [← AList.mem_keys, ← AList.lookup_isSome, found]
    rfl
  simp [unvisited, key, fresh]

/-- `resolveMigration` records what it returns. -/
def CoreCatalog.resolved (catalog : CoreCatalog) (name : String) (resolved : MigrationResolution) :
    CoreCatalog × MigrationResolution :=
  ({ catalog with
    resolvedMigrations := catalog.resolvedMigrations.insert name resolved }, resolved)

/--
`resolveMigration`.  The map `active` of the source holds the position of every
name on `stack`.
-/
def resolveMigration (catalog : CoreCatalog) (stack : List String) (name : String) :
    Except String (CoreCatalog × MigrationResolution) :=
  match catalog.resolvedMigrations.lookup name with
  | some resolved => .ok (catalog, resolved)
  | none =>
    if _ : name ∈ stack then
      .error ("migration cycle: " ++ join (stack.drop (stack.idxOf name) ++ [name]) " -> ")
    else
      match _ : catalog.migrations.lookup name with
      | none => .error ("missing migration " ++ quote name)
      | some migration =>
        if !migration.inCore then
          .ok (catalog.resolved name { externalTarget := migration.target })
        else
          let target := migration.targetName
          match catalog.canonical.lookup target with
          | some formula => .ok (catalog.resolved name { canonical := formula.name })
          | none =>
            if containsChar target '@' then
              .error ("migration " ++ quote name ++
                " targets non-canonical versioned Formula " ++ quote target)
            else
              match catalog.aliases.lookup target, catalog.oldNames.lookup target,
                  catalog.migrations.lookup target with
              | some canonical, _, _ => .ok (catalog.resolved name { canonical })
              | none, some canonical, _ => .ok (catalog.resolved name { canonical })
              | none, none, some _ =>
                match resolveMigration catalog (stack ++ [name]) target with
                | .error message => .error message
                | .ok (catalog, resolved) => .ok (catalog.resolved name resolved)
              | none, none, none =>
                .error ("migration " ++ quote name ++
                  " targets unknown homebrew/core Formula " ++ quote target)
termination_by (catalog.unvisited stack).length
decreasing_by exact CoreCatalog.unvisited_lt (by assumption) (by assumption)

/-- One iteration of the last loop of `buildCatalog`. -/
def resolveAccepted (migration : Migration) : Except String CoreCatalog :=
  match resolveMigration catalog [] migration.name with
  | .ok (catalog, _) => .ok catalog
  | .error message => .error (invalidCatalog message)

def buildCatalog (formulae : List CatalogFormula) (migrations : List Migration) :
    Except String CoreCatalog := do
  let (claimed, catalog) ← formulae.foldlM claimFormula (∅, CoreCatalog.empty)
  let sorted := catalog.canonicalNames.insertionSort (· ≤ ·)
  let (claimed, catalog) ←
    sorted.foldlM indexFormula (claimed, { catalog with canonicalNames := sorted })
  let catalog ← canonicalizeCatalogDependencies catalog
  validateCatalogDependencies catalog
  let (_, catalog, accepted) ← migrations.foldlM claimMigration (claimed, catalog, [])
  accepted.foldlM resolveAccepted catalog

/-! ## What construction keeps -/

/-- The names of the catalog are the keys of its canonical index. -/
def CoreCatalog.Listed : Prop :=
  ∀ name, name ∈ catalog.canonicalNames ↔ (catalog.canonical.lookup name).isSome = true

/-- The two catalogs differ at most in their indexes of other names. -/
def SameFormulae (left right : CoreCatalog) : Prop :=
  right.canonical = left.canonical ∧ right.canonicalNames = left.canonicalNames

/-- One change that construction makes before it looks at migrations. -/
inductive CoreCatalog.Grows (formulae : List CatalogFormula) (source : CoreCatalog) :
    CoreCatalog → Prop where
  | formula {formula : CatalogFormula} (member : formula ∈ formulae) :
      Grows formulae source { source with
        canonical := source.canonical.insert formula.name formula
        canonicalNames := source.canonicalNames ++ [formula.name] }
  | sorted : Grows formulae source { source with
        canonicalNames := source.canonicalNames.insertionSort (· ≤ ·) }
  | aliased {name other : String} (present : name ∈ source.canonical) :
      Grows formulae source { source with aliases := source.aliases.insert other name }
  | oldName {name other : String} (present : name ∈ source.canonical) :
      Grows formulae source { source with oldNames := source.oldNames.insert other name }
  | dependencies {name : String} {formula : CatalogFormula} {dependencies : List String}
      {variations : List Variation} (found : source.canonical.lookup name = some formula) :
      Grows formulae source { source with
        canonical := source.canonical.insert name { formula with dependencies, variations } }

open CoreCatalog (Grows)

open Relation (ReflTransGen)

variable {formulae : List CatalogFormula} {migrations : List Migration} {catalog : CoreCatalog}

theorem mem_of_lookup {Value : Type} {table : Table String Value} {value : Value}
    (found : table.lookup name = some value) : name ∈ table := by
  rw [← AList.lookup_isSome, found]
  rfl

theorem grows_of_indexFormula {source target : Claims × CoreCatalog}
    (indexed : indexFormula source name = .ok target) :
    ReflTransGen (Grows formulae) source.2 target.2 := by
  unfold indexFormula at indexed
  split at indexed
  · cases indexed
    exact .refl
  rename_i formula found
  obtain ⟨_, _, rest⟩ := bind_eq_ok.mp indexed
  obtain ⟨aliased, aliases, oldNames⟩ := bind_eq_ok.mp rest
  let reaches (reached : Claims × CoreCatalog) :=
    ReflTransGen (Grows formulae) source.2 reached.2 ∧ name ∈ reached.2.canonical
  have afterAliases : reaches aliased := by
    refine foldlM_preserves ?_ aliases ⟨.refl, mem_of_lookup found⟩
    rintro reached other next _ ⟨path, present⟩ claimed
    obtain ⟨_, _, done⟩ := bind_eq_ok.mp claimed
    cases done
    exact ⟨path.tail (.aliased present), present⟩
  refine (foldlM_preserves (motive := reaches) ?_ oldNames afterAliases).1
  rintro reached other next _ ⟨path, present⟩ claimed
  obtain ⟨_, _, done⟩ := bind_eq_ok.mp claimed
  cases done
  exact ⟨path.tail (.oldName present), present⟩

theorem grows_of_canonicalizeFormula {source target : CoreCatalog}
    (canonicalized : canonicalizeFormula source name = .ok target) :
    ReflTransGen (Grows formulae) source target := by
  unfold canonicalizeFormula at canonicalized
  split at canonicalized
  · cases canonicalized
    exact .refl
  rename_i formula found
  obtain ⟨dependencies, _, rest⟩ := bind_eq_ok.mp canonicalized
  obtain ⟨variations, _, done⟩ := bind_eq_ok.mp rest
  cases done
  exact .single (.dependencies found)

/-- Construction grows a catalog, checks its dependencies and goes on to the migrations. -/
theorem grows_of_buildCatalog (built : buildCatalog formulae migrations = .ok catalog) :
    ∃ (validated : CoreCatalog) (claimed : Claims) (reached : Claims × CoreCatalog × List Migration),
      ReflTransGen (Grows formulae) .empty validated ∧
      validateCatalogDependencies validated = .ok () ∧
      migrations.foldlM claimMigration (claimed, validated, []) = .ok reached ∧
      reached.2.2.foldlM resolveAccepted reached.2.1 = .ok catalog := by
  obtain ⟨⟨_, named⟩, naming, rest⟩ := bind_eq_ok.mp built
  obtain ⟨⟨claimed, indexed⟩, indexing, rest⟩ := bind_eq_ok.mp rest
  obtain ⟨validated, canonicalizing, rest⟩ := bind_eq_ok.mp rest
  obtain ⟨_, validating, rest⟩ := bind_eq_ok.mp rest
  obtain ⟨reached, migrating, resolving⟩ := bind_eq_ok.mp rest
  let grown := ReflTransGen (Grows formulae) .empty
  have afterNaming : grown named := by
    refine foldlM_preserves (motive := fun reached => grown reached.2) ?_ naming .refl
    rintro ⟨claims, source⟩ formula target member path claimed
    unfold claimFormula at claimed
    dsimp only at claimed
    split at claimed
    · cases claimed
    cases claimed
    exact path.tail (.formula member)
  have afterIndexing : grown indexed :=
    foldlM_preserves (motive := fun reached => grown reached.2)
      (fun _ _ _ _ path taken => path.trans (grows_of_indexFormula taken)) indexing
      (afterNaming.tail .sorted)
  have afterCanonicalizing : grown validated :=
    foldlM_preserves (fun _ _ _ _ path taken => path.trans (grows_of_canonicalizeFormula taken))
      canonicalizing afterIndexing
  exact ⟨validated, claimed, reached, afterCanonicalizing, validating, migrating, resolving⟩

theorem listed_of_grows (grown : ReflTransGen (Grows formulae) .empty catalog) :
    catalog.Listed := by
  induction grown with
  | refl => simp [CoreCatalog.Listed, CoreCatalog.empty]
  | tail _ grows listed =>
    intro name
    cases grows with
    | @formula formula member =>
      by_cases same : name = formula.name
      · subst same
        simp
      · simpa [AList.lookup_insert_ne same, same] using listed name
    | sorted => simpa using listed name
    | aliased | oldName => exact listed name
    | @dependencies changed formula _ _ found =>
      by_cases same : name = changed
      · subst same
        simpa using (listed name).mpr (by simp [found])
      · simpa [AList.lookup_insert_ne same] using listed name

section

variable {source target : Claims × CoreCatalog × List Migration}
  (claimed : claimMigration source migration = .ok target)

include claimed

/-- An iteration of the loop over the migrations skips one or records it. -/
theorem claimMigration_cases :
    target.2 = source.2 ∨ target.2 = ({ source.2.1 with
        migrations := source.2.1.migrations.insert migration.name migration },
        source.2.2 ++ [migration]) := by
  unfold claimMigration at claimed
  dsimp only at claimed
  split at claimed
  · split at claimed
    · cases claimed
      exact .inl rfl
    · cases claimed
  · obtain ⟨_, _, done⟩ := bind_eq_ok.mp claimed
    cases done
    exact .inr rfl

/-- The loop over the migrations changes their index only. -/
theorem claimMigration_others :
    target.2.1 = { source.2.1 with migrations := target.2.1.migrations } := by
  rcases claimMigration_cases claimed with same | same
  · rw [same]
  · rw [same]

end

/-- Resolution changes the index of resolved migrations only. -/
theorem resolveMigration_others (source : CoreCatalog) (stack : List String)
    (name : String) {target : CoreCatalog} {resolved : MigrationResolution}
    (resolves : resolveMigration source stack name = .ok (target, resolved)) :
    target = { source with resolvedMigrations := target.resolvedMigrations } := by
  fun_induction resolveMigration source stack name generalizing target resolved
  case case10 found ih =>
      -- The chain goes on; this name only adds its own entry.
      cases resolves
      exact congrArg (fun reached => (CoreCatalog.resolved reached _ _).1) (ih found)
  all_goals first
    | cases resolves
      rfl
    | cases resolves

theorem resolveAccepted_others {source target : CoreCatalog}
    (accepted : resolveAccepted source migration = .ok target) :
    target = { source with resolvedMigrations := target.resolvedMigrations } := by
  unfold resolveAccepted at accepted
  split at accepted
  · rename_i resolves
    cases accepted
    exact resolveMigration_others _ _ _ resolves
  · cases accepted

/-- The loops over the migrations change the two indexes of migrations only. -/
theorem claimMigrations_others {source target : Claims × CoreCatalog × List Migration}
    (loop : migrations.foldlM claimMigration source = .ok target) :
    target.2.1 = { source.2.1 with migrations := target.2.1.migrations } := by
  refine foldlM_preserves
    (motive := fun reached => reached.2.1 = { source.2.1 with migrations := reached.2.1.migrations })
    (fun _ _ _ _ held taken => ?_) loop rfl
  rw [claimMigration_others taken, held]

theorem resolveAccepteds_others {source target : CoreCatalog}
    (loop : migrations.foldlM resolveAccepted source = .ok target) :
    target = { source with resolvedMigrations := target.resolvedMigrations } := by
  refine foldlM_preserves
    (motive := fun reached => reached = { source with resolvedMigrations := reached.resolvedMigrations })
    (fun _ _ _ _ held taken => ?_) loop rfl
  rw [resolveAccepted_others taken, held]

/-- An accepted catalog lists its canonical names and passed the dependency checks. -/
theorem validated_of_buildCatalog (built : buildCatalog formulae migrations = .ok catalog) :
    ∃ validated : CoreCatalog, validated.Listed ∧
      validateCatalogDependencies validated = .ok () ∧ SameFormulae validated catalog := by
  obtain ⟨validated, _, reached, grown, validating, migrating, resolving⟩ :=
    grows_of_buildCatalog built
  refine ⟨validated, listed_of_grows grown, validating, ?_⟩
  rw [resolveAccepteds_others resolving, claimMigrations_others migrating]
  exact ⟨rfl, rfl⟩

/-! ## The checked graphs -/

section Validated

variable {catalog : CoreCatalog} {tag : String}

/-- The dependencies of the base graph and of the Linux graphs are canonical. -/
theorem canonical_of_checkFormulaDependencies {name : String}
    (checked : checkFormulaDependencies catalog name = .ok ())
    (known : tag = "" ∨ isLinuxTag tag = true) {dependency : String}
    (member : dependency ∈ catalog.dependencies tag name) :
    (catalog.canonical.lookup dependency).isSome = true := by
  have canonical : ∀ {missing : String → String} {dependencies : List String},
      dependencies.forM (checkDependency catalog missing) = .ok () → dependency ∈ dependencies →
      (catalog.canonical.lookup dependency).isSome = true := by
    intro missing dependencies passes among
    have passed := forM_eq_ok.mp passes dependency among
    rw [checkDependency, ite_error_eq_ok] at passed
    simpa [Option.isSome_iff_ne_none] using passed.1
  unfold CoreCatalog.dependencies at member
  split at member
  · cases member
  rename_i formula found
  simp only [checkFormulaDependencies, found] at checked
  obtain ⟨_, base, overrides⟩ := bind_eq_ok.mp checked
  split at member
  · exact canonical base member
  rename_i nonempty
  unfold Formula.dependenciesFor at member
  split at member
  · rename_i variation isOverride
    have matched := List.find?_some isOverride
    simp only [Bool.and_eq_true, beq_iff_eq] at matched
    have linux : isLinuxTag variation.tag = true := by
      rw [matched.1]
      exact known.resolve_left nonempty
    have passed := forM_eq_ok.mp overrides variation (List.mem_of_find?_eq_some isOverride)
    rw [if_pos (by rw [linux, matched.2]; rfl)] at passed
    exact canonical passed member
  · exact canonical base member

/-- The graphs of a checked catalog stay inside its canonical names. -/
theorem dependencies_canonical (listed : catalog.Listed)
    (checks : ∀ name ∈ catalog.canonicalNames, checkFormulaDependencies catalog name = .ok ())
    (searched : tag ∈ catalog.tagNames) {name : String} (member : name ∈ catalog.canonicalNames) :
    catalog.dependencies tag name ⊆ catalog.canonicalNames := by
  have known : tag = "" ∨ isLinuxTag tag = true := by
    simp only [CoreCatalog.tagNames, uniqueSorted, List.mem_insertionSort, List.mem_eraseDups,
      List.mem_cons, List.mem_flatMap] at searched
    refine searched.imp_right ?_
    rintro ⟨name, _, mentioned⟩
    split at mentioned
    · cases mentioned
    · exact (List.mem_filter.mp mentioned).2
  intro dependency edge
  rw [listed dependency]
  exact canonical_of_checkFormulaDependencies (checks name member) known edge

/-- A graph whose search succeeded has no cycle. -/
theorem acyclic_of_validateDependencyCycles (listed : catalog.Listed)
    (searched : validateDependencyCycles catalog tag = .ok ()) (name : String) :
    ¬ Relation.TransGen (DepthFirst.Edge (catalog.dependencies tag)) name name := by
  unfold validateDependencyCycles at searched
  split at searched
  · rename_i search found
    obtain ⟨distinct, ordered, reached⟩ := DepthFirst.visitAll_spec found
    intro cycle
    -- Only a canonical name has an edge, so the search has visited it.
    have source : name ∈ catalog.canonicalNames := by
      obtain ⟨target, edge, _⟩ := Relation.TransGen.head'_iff.mp cycle
      rw [listed name]
      unfold DepthFirst.Edge CoreCatalog.dependencies at edge
      split at edge
      · simp at edge
      · rename_i formula isFormula
        simp [isFormula]
    have visited : name ∈ search.order := (reached name).mpr ⟨name, source, .refl⟩
    obtain ⟨before, after, split⟩ := List.append_of_mem visited
    have earlier : name ∈ before := ordered.transitive split cycle
    rw [split] at distinct
    exact (List.nodup_append.mp distinct).2.2 name earlier name List.mem_cons_self rfl
  · cases searched
  · cases searched

/--
The searches of `validateCatalogDependencies` are exact: a catalog whose
dependencies are all canonical is rejected only if one of its graphs has a cycle.
-/
theorem validateCatalogDependencies_exact (listed : catalog.Listed) :
    validateCatalogDependencies catalog = .ok () ↔
      (∀ name ∈ catalog.canonicalNames, checkFormulaDependencies catalog name = .ok ()) ∧
      ∀ tag ∈ catalog.tagNames, ∀ name,
        ¬ Relation.TransGen (DepthFirst.Edge (catalog.dependencies tag)) name name := by
  constructor
  · intro validated
    obtain ⟨_, checks, searches⟩ := bind_eq_ok.mp validated
    exact ⟨forM_eq_ok.mp checks, fun tag searched =>
      acyclic_of_validateDependencyCycles listed (forM_eq_ok.mp searches tag searched)⟩
  · rintro ⟨checks, acyclic⟩
    refine bind_eq_ok.mpr ⟨(), forM_eq_ok.mpr checks, forM_eq_ok.mpr fun tag searched => ?_⟩
    obtain ⟨search, found⟩ := DepthFirst.visitAll_succeeds
      (fun _ => dependencies_canonical listed checks searched) (List.Subset.refl _)
      (acyclic tag searched)
    rw [validateDependencyCycles, found]

/-- A Formula that depends on itself. -/
def loopCatalog : CoreCatalog :=
  { CoreCatalog.empty with
    canonical := (∅ : Table String CatalogFormula).insert "a" {
      name := "a", fullName := "homebrew/core/a", stableVersion := "1", revision := 0
      versionScheme := 0, dependencies := ["a"] }
    canonicalNames := ["a"] }

theorem validateCatalogDependencies_exact_loop :
    validateCatalogDependencies loopCatalog ≠ .ok () := by
  have listed : loopCatalog.Listed := by
    intro name
    by_cases same : name = "a"
    · subst same
      decide
    · simp [loopCatalog, same, -AList.insert_empty]
  intro accepted
  exact ((validateCatalogDependencies_exact listed).mp accepted).2 "" (by decide) "a"
    (.single (List.mem_singleton_self "a"))

/-- A tag that no Formula mentions has the base graph. -/
theorem dependencies_of_unmentioned (listed : catalog.Listed)
    (linux : isLinuxTag tag = true) (unmentioned : tag ∉ catalog.tagNames) (name : String) :
    catalog.dependencies tag name = catalog.dependencies "" name := by
  unfold CoreCatalog.dependencies
  split
  · rfl
  rename_i formula found
  have noOverride : formula.variations.find? (fun variation =>
      variation.tag == tag && variation.overridesDependencies) = none := by
    rw [List.find?_eq_none]
    intro variation member matched
    simp only [Bool.and_eq_true, beq_iff_eq] at matched
    apply unmentioned
    simp only [CoreCatalog.tagNames, uniqueSorted, List.mem_insertionSort, List.mem_eraseDups]
    refine List.mem_cons_of_mem _ (List.mem_flatMap.mpr ⟨name, ?_, ?_⟩)
    · rw [listed name, found]
      rfl
    · simp only [found, List.mem_filter, List.mem_map]
      exact ⟨⟨variation, member, matched.1⟩, linux⟩
  have nonempty : tag ≠ "" := by
    rintro rfl
    exact absurd linux (by decide)
  simp [Formula.dependenciesFor, noOverride, nonempty]

/-- The graph of every Linux tag has been searched, as itself or as the base graph. -/
theorem acyclic_of_validated (listed : catalog.Listed)
    (validated : validateCatalogDependencies catalog = .ok ()) (linux : isLinuxTag tag = true)
    (name : String) :
    ¬ Relation.TransGen (DepthFirst.Edge (catalog.dependencies tag)) name name := by
  obtain ⟨_, _, searches⟩ := bind_eq_ok.mp validated
  have searched := forM_eq_ok.mp searches
  by_cases mentioned : tag ∈ catalog.tagNames
  · exact acyclic_of_validateDependencyCycles listed (searched tag mentioned) name
  have base : "" ∈ catalog.tagNames := by
    simp [CoreCatalog.tagNames, uniqueSorted]
  have same : catalog.dependencies tag = catalog.dependencies "" :=
    funext (dependencies_of_unmentioned listed linux mentioned)
  rw [same]
  exact acyclic_of_validateDependencyCycles listed (searched "" base) name

end Validated

/-! ## Every Linux tag -/

/-- One dependency of the graph that `DependenciesFor` gives for a tag. -/
def CoreCatalog.DependsOn (catalog : CoreCatalog) (tag source target : String) : Prop :=
  ∃ formula, catalog.canonical.lookup source = some formula ∧ target ∈ formula.dependenciesFor tag

/--
Every catalog that `buildCatalog` accepts has, for every Linux bottle tag, a
dependency graph on its canonical Formulae without a cycle, whether or not a
Formula mentions the tag.
-/
theorem dependencies_acyclic {formulae : List CatalogFormula} {migrations : List Migration}
    {catalog : CoreCatalog} (built : buildCatalog formulae migrations = .ok catalog)
    (tag : String) (linux : isLinuxTag tag = true) :
    (∀ source target, catalog.DependsOn tag source target →
      ∃ formula, catalog.canonical.lookup target = some formula) ∧
    ∀ name, ¬ Relation.TransGen (catalog.DependsOn tag) name name := by
  obtain ⟨validated, listed, passes, sameCanonical, sameNames⟩ := validated_of_buildCatalog built
  have nonempty : tag ≠ "" := by
    rintro rfl
    exact absurd linux (by decide)
  have sameEdge : ∀ source target, catalog.DependsOn tag source target →
      DepthFirst.Edge (validated.dependencies tag) source target := by
    rintro source target ⟨formula, found, member⟩
    rw [sameCanonical] at found
    simpa [DepthFirst.Edge, CoreCatalog.dependencies, found, nonempty] using member
  constructor
  · intro source target depends
    have edge := sameEdge source target depends
    obtain ⟨formula, found, _⟩ := depends
    rw [sameCanonical] at found ⊢
    obtain ⟨_, checks, _⟩ := bind_eq_ok.mp passes
    have checked := forM_eq_ok.mp checks source ((listed source).mpr (by rw [found]; rfl))
    exact Option.isSome_iff_exists.mp
      (canonical_of_checkFormulaDependencies checked (.inr linux) edge)
  · intro name cycle
    exact acyclic_of_validated listed passes linux name (Relation.TransGen.mono sameEdge _ _ cycle)

/-- Two Formulae whose dependency is reversed on one of the tags. -/
def reversedPair : List CatalogFormula :=
  [{ name := "alpha"
     fullName := "homebrew/core/alpha"
     stableVersion := "1.0"
     revision := 0
     versionScheme := 0
     dependencies := ["b"]
     variations :=
       [{ tag := "arm64_linux", dependencies := [], overridesDependencies := true }] },
   { name := "beta"
     fullName := "homebrew/core/beta"
     stableVersion := "2.0"
     revision := 0
     versionScheme := 0
     variations :=
       [{ tag := "arm64_linux", dependencies := ["alpha"], overridesDependencies := true }]
     aliases := ["b"] }]

theorem dependencies_acyclic_reversed :
    ∃ catalog, buildCatalog reversedPair
        [{ name := "gamma", target := "beta", targetName := "beta", inCore := true }] =
        .ok catalog ∧
      (∀ name, ¬ Relation.TransGen (catalog.DependsOn "arm64_linux") name name) ∧
      ∀ name, ¬ Relation.TransGen (catalog.DependsOn "x86_64_linux") name name := by
  have accepted : (buildCatalog reversedPair
      [{ name := "gamma", target := "beta", targetName := "beta", inCore := true }]).toBool =
      true := by decide +kernel
  cases built : buildCatalog reversedPair
      [{ name := "gamma", target := "beta", targetName := "beta", inCore := true }] with
  | error message =>
    rw [built] at accepted
    cases accepted
  | ok catalog =>
    exact ⟨catalog, rfl, (dependencies_acyclic built "arm64_linux" (by decide)).2,
      (dependencies_acyclic built "x86_64_linux" (by decide)).2⟩

end DalecHomebrew.Homebrew.Metadata
