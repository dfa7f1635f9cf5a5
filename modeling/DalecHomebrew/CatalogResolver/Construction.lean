import DalecHomebrew.Catalog.TapCatalog
import DalecHomebrew.CatalogResolver.Resolver

/-!
# Resolvers built from catalogs

`New` indexes the Formulae and the mappings of its catalogs.  The indexes hold
exactly what the catalogs declare (`built_of_new`).
-/

namespace DalecHomebrew.CatalogResolver

open Catalog Foundation Policy

/-- The mappings of a catalog in the order in which `New` adds them. -/
def catalogMappings (document : TapCatalog) : List ScopedMapping :=
  document.aliases ++ document.renames ++ migrationsAsMappings document.migrations

/-- A resolver that indexes exactly the given catalogs. -/
structure Resolver.Built (validateTapCatalog : TapCatalog → Except String Unit) (policy : TapPolicy)
    (core : CoreCatalog) (entries : List (TapID × Option TapCatalog))
    (resolver : Resolver) : Prop where
  core : resolver.core = core
  policy : resolver.policy = policy
  present : ∀ entry ∈ entries, ∃ document, entry = (document.tap.id, some document) ∧
    validateTapCatalog document = .ok () ∧ TapID.isCore document.tap.id = false
  catalogs : ∀ tap, tap ∈ resolver.catalogs ↔ tap ∈ entries.map Prod.fst
  formulae : ∀ id formula, resolver.formulae.lookup id = some formula ↔
    ∃ tap document, (tap, some document) ∈ entries ∧ formula ∈ document.formulae ∧ formula.id = id
  mappings : ∀ id next, resolver.mappings.lookup id = some next ↔
    ∃ tap document, (tap, some document) ∈ entries ∧
      ∃ mapping ∈ catalogMappings document, mapping.fromID = id ∧ mapping.toID = next

section Model

variable {validateTapCatalog : TapCatalog → Except String Unit} {policy : TapPolicy}
  {core : CoreCatalog} {resolver extended : Resolver} {entries : List (TapID × Option TapCatalog)}

theorem Resolver.Built.document {tap : TapID}
    {document : TapCatalog} (built : resolver.Built validateTapCatalog policy core entries)
    (member : (tap, some document) ∈ entries) :
    tap = document.tap.id ∧ validateTapCatalog document = .ok () ∧
      TapID.isCore document.tap.id = false := by
  obtain ⟨other, same, checked⟩ := built.present _ member
  obtain ⟨rfl, rfl⟩ : tap = other.tap.id ∧ document = other := by simpa using same
  exact ⟨rfl, checked⟩

variable {extended : Resolver}

theorem addFormula_eq_ok {formula : Catalog.Formula} :
    resolver.addFormula formula = .ok extended ↔ resolver.formulae.lookup formula.id = none ∧
        extended = { resolver with formulae := resolver.formulae.insert formula.id formula } := by
  unfold Resolver.addFormula
  cases found : resolver.formulae.lookup formula.id with
  | none => simpa using eq_comm
  | some other => simp

theorem addMapping_eq_ok {mapping : ScopedMapping} :
    resolver.addMapping mapping = .ok extended ↔ resolver.mappings.lookup mapping.fromID = none ∧
        extended = { resolver with
          mappings := resolver.mappings.insert mapping.fromID mapping.toID } := by
  unfold Resolver.addMapping
  cases found : resolver.mappings.lookup mapping.fromID with
  | none => simpa using eq_comm
  | some other => simp

variable {entry : TapID × Option TapCatalog}

theorem addCatalog_eq_ok {validateTapCatalog : TapCatalog → Except String Unit} :
    resolver.addCatalog validateTapCatalog entry = .ok extended ↔
      TapID.isCore entry.1 = false ∧ ∃ document withFormulae,
        entry.2 = some document ∧ validateTapCatalog document = .ok () ∧
        document.tap.id = entry.1 ∧
        document.formulae.foldlM Resolver.addFormula
          { resolver with catalogs := resolver.catalogs.insert entry.1 document } =
            .ok withFormulae ∧
        (catalogMappings document).foldlM Resolver.addMapping withFormulae = .ok extended := by
  obtain ⟨tap, document⟩ := entry
  by_cases core : TapID.isCore tap = true
  · simp [Resolver.addCatalog, core]
  cases document with
  | none => simp [Resolver.addCatalog, core]
  | some document =>
    simp only [Resolver.addCatalog, core, if_false, bind_eq_ok, within_eq_ok, check_eq_ok,
      throw_bind, ite_error_eq_ok, not_not, true_and, Option.some.injEq, Bool.false_eq_true]
    constructor
    · rintro ⟨_, valid, same, withFormulae, first, second⟩
      exact ⟨document, withFormulae, rfl, valid, same, first, second⟩
    · rintro ⟨_, withFormulae, rfl, valid, same, first, second⟩
      exact ⟨(), valid, same, withFormulae, first, second⟩

variable {formulae : List Catalog.Formula}

/-- The loop over the Formulae changes their index only. -/
theorem addFormulae_others (loop : formulae.foldlM Resolver.addFormula resolver = .ok extended) :
    extended = { resolver with formulae := extended.formulae } := by
  refine foldlM_preserves
    (motive := fun reached => reached = { resolver with formulae := reached.formulae })
    (fun source formula target _ held step => ?_) loop rfl
  obtain ⟨-, rfl⟩ := addFormula_eq_ok.mp step
  rw [held]

variable {mappings : List ScopedMapping}

/-- The loop over the mappings changes their index only. -/
theorem addMappings_others (loop : mappings.foldlM Resolver.addMapping resolver = .ok extended) :
    extended = { resolver with mappings := extended.mappings } := by
  refine foldlM_preserves
    (motive := fun reached => reached = { resolver with mappings := reached.mappings })
    (fun source mapping target _ held step => ?_) loop rfl
  obtain ⟨-, rfl⟩ := addMapping_eq_ok.mp step
  rw [held]

theorem lookup_of_addFormulae (loop : formulae.foldlM Resolver.addFormula resolver = .ok extended)
    (id : FormulaID) (formula : Catalog.Formula) :
    extended.formulae.lookup id = some formula ↔
      resolver.formulae.lookup id = some formula ∨ formula ∈ formulae ∧ formula.id = id := by
  have indexed := @Table.lookup_of_insertNew _ _ _ _ _ _ Resolver.addFormula Resolver.formulae
    Catalog.Formula.id (fun formula => formula)
    (fun source formula target step => by
      obtain ⟨absent, rfl⟩ := addFormula_eq_ok.mp step
      exact ⟨absent, rfl⟩) _ _ _ loop id formula
  rw [indexed]
  refine or_congr_right ⟨?_, fun ⟨member, same⟩ => ⟨formula, member, same, rfl⟩⟩
  rintro ⟨_, member, same, rfl⟩
  exact ⟨member, same⟩

theorem Resolver.Built.addCatalog (built : resolver.Built validateTapCatalog policy core entries)
    (result : resolver.addCatalog validateTapCatalog entry = .ok extended) :
    extended.Built validateTapCatalog policy core (entries ++ [entry]) := by
  obtain ⟨tap, value⟩ := entry
  obtain ⟨outside, document, middle, rfl, valid, rfl, formulae, mappings⟩ :=
    addCatalog_eq_ok.mp result
  have indexed := lookup_of_addFormulae formulae
  have mapped := @Table.lookup_of_insertNew _ _ _ _ _ _ Resolver.addMapping Resolver.mappings
    ScopedMapping.fromID ScopedMapping.toID
    (fun source mapping target step => by
      obtain ⟨absent, rfl⟩ := addMapping_eq_ok.mp step
      exact ⟨absent, rfl⟩) _ _ _ mappings
  have formulaeOnly := addFormulae_others formulae
  have mappingsOnly := addMappings_others mappings
  have unmapped : middle.mappings = resolver.mappings := by rw [formulaeOnly]
  have unindexed : extended.formulae = middle.formulae := by rw [mappingsOnly]
  have listed : extended.catalogs = resolver.catalogs.insert document.tap.id document := by
    rw [mappingsOnly, formulaeOnly]
  have appended : ∀ facts : TapCatalog → Prop,
      (∃ tap other, (tap, some other) ∈ entries ++ [(document.tap.id, some document)] ∧
          facts other) ↔
        (∃ tap other, (tap, some other) ∈ entries ∧ facts other) ∨ facts document := by
    intro facts
    simp only [List.mem_append, List.mem_singleton, Prod.mk.injEq, Option.some.injEq]
    constructor
    · rintro ⟨tap, other, among | ⟨rfl, rfl⟩, holds⟩
      · exact .inl ⟨tap, other, among, holds⟩
      · exact .inr holds
    · rintro (⟨tap, other, among, holds⟩ | holds)
      · exact ⟨tap, other, .inl among, holds⟩
      · exact ⟨document.tap.id, document, .inr ⟨rfl, rfl⟩, holds⟩
  constructor
  · rw [mappingsOnly, formulaeOnly]
    exact built.core
  · rw [mappingsOnly, formulaeOnly]
    exact built.policy
  · rw [List.forall_mem_append]
    refine ⟨built.present, ?_⟩
    simpa using ⟨valid, outside⟩
  · intro tap
    rw [listed, AList.mem_insert, built.catalogs tap]
    simp [or_comm]
  · intro id formula
    rw [unindexed, indexed, built.formulae id formula]
    exact (appended _).symm
  · intro id next
    rw [mapped, unmapped, built.mappings id next]
    exact (appended _).symm

theorem built_of_new {core : Option CoreCatalog}
    (made : new validateTapCatalog policy core entries = .ok resolver) :
    ∃ known, core = some known ∧ resolver.Built validateTapCatalog policy known entries := by
  unfold new at made
  split at made
  · cases made
  rename_i known
  simp only [ite_error_eq_ok] at made
  refine ⟨known, rfl, ?_⟩
  have start : Resolver.Built validateTapCatalog policy known []
      { core := known, catalogs := ∅, formulae := ∅, mappings := ∅, policy } :=
    ⟨rfl, rfl, by simp, by simp, by simp, by simp⟩
  exact foldlM_history (fun _ _ _ _ => Resolver.Built.addCatalog) made.2 start

end Model

end DalecHomebrew.CatalogResolver
