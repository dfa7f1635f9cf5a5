import DalecHomebrew.CatalogResolver.MappingChains
import DalecHomebrew.Homebrew.CoreLookup

/-!
# Dependencies written without a tap

A bare dependency name is looked up in core first, and the tap of its owner is
only asked if core answers that the Formula is not found
(`normalizeDependency_bare`).  An accepted core catalog never answers that for a
name it resolves, so no tap can put a Formula of its own in the place of a core
Formula (`core_names_not_shadowed`).
-/

namespace DalecHomebrew.CatalogResolver

open Catalog Foundation Foundation.GoString Homebrew Policy
open Homebrew.Metadata (CatalogFormula buildCatalog validateSimpleName)

section Model

variable {resolver : Resolver} {owner : TapID} {raw : String} {answer : FormulaID × FormulaSource}

/-- A bare name is answered by core, or by the tap of the owner if core misses it. -/
theorem normalizeDependency_bare (bare : containsChar raw '/' = false) :
    (resolver.normalizeDependency owner raw).result = .ok answer ↔
      (∃ coreID, parseFormulaID raw = .ok coreID) ∧
      ((∃ found canonical, resolver.core.lookup raw = .ok found ∧
          parseFormulaID found.canonical = .ok canonical ∧
          answer = (canonical, .core found.formula canonical)) ∨
        ∃ cause, resolver.core.lookup raw = .error cause ∧ cause.is .formulaNotFound = true ∧
          (resolver.lookupParsed (owner ++ "/" ++ raw)).result = .ok answer) := by
  unfold Resolver.normalizeDependency
  simp only [bare, Bool.false_eq_true, if_false]
  cases parsed : parseFormulaID raw with
  | error message => simp
  | ok coreID =>
    obtain ⟨inCore, name⟩ := FormulaID.name_of_bare bare parsed
    have branch : (resolver.lookupExact coreID).result = resolver.lookupCore coreID := by
      simp [Resolver.lookupExact, inCore]
    simp only [branch]
    unfold Resolver.lookupCore at branch ⊢
    rw [name] at branch ⊢
    cases looked : resolver.core.lookup raw with
    | error cause =>
      by_cases missing : cause.is .formulaNotFound = true
      · simp [Failure.is, missing]
      · simp [looked, branch, Failure.is, missing]
    | ok found =>
      cases canonicalParsed : parseFormulaID found.canonical with
      | error message =>
        simp [looked, canonicalParsed, branch, Failure.is]
      | ok canonical =>
        simp only [looked, canonicalParsed, branch, Except.ok.injEq, exists_eq', true_and,
          exists_and_left, exists_eq_left', reduceCtorEq, false_and, exists_false, or_false]
        exact eq_comm

/-- A name that a core catalog resolves keeps its core identity. -/
theorem core_of_normalizeDependency {known : List String} {catalog : Metadata.CoreCatalog}
    {canonical : String} (indexed : catalog.Indexed known)
    (simple : ∀ name ∈ known, containsChar name '/' = false)
    (core : resolver.core.lookup = catalog.index.lookup) (bare : containsChar raw '/' = false)
    (resolves : catalog.canonicalName? raw = some canonical)
    (result : (resolver.normalizeDependency owner raw).result = .ok answer) :
    answer.1 = "homebrew/core/" ++ canonical ∧ FormulaID.isCore answer.1 = true := by
  have lookups := Metadata.lookup_known indexed resolves
  rw [normalizeDependency_bare bare, core] at result
  obtain ⟨-, ⟨found, id, looked, parsed, rfl⟩ | ⟨cause, looked, missing, -⟩⟩ := result
  · rcases lookups with ⟨other, failed, -⟩ | ⟨other, answered, same⟩
    · rw [failed] at looked
      cases looked
    · rw [answered] at looked
      obtain rfl := Except.ok.inj looked
      rw [same] at parsed
      obtain ⟨formula, found⟩ := Option.isSome_iff_exists.mp
        (AList.lookup_isSome.mpr (Metadata.mem_of_canonicalName? indexed resolves))
      have slashFree := simple canonical (indexed.named canonical formula found).2
      exact ⟨FormulaID.eq_of_bare slashFree parsed, (FormulaID.name_of_bare slashFree parsed).1⟩
  · rcases lookups with ⟨other, failed, present⟩ | ⟨other, answered, -⟩
    · rw [failed] at looked
      rw [Except.error.inj looked, missing] at present
      cases present
    · rw [answered] at looked
      cases looked

/-! ## Qualified names -/

/-- An identity of a tap is its own normal form exactly if no mapping starts at it. -/
theorem lookupExact_fixed_iff {id : FormulaID} (outside : FormulaID.isCore id = false)
    (result : (resolver.lookupExact id).result = .ok answer) :
    answer.1 = id ↔ resolver.mappings.lookup id = none := by
  have mapped : (resolver.resolveMapping id).result = .ok answer.1 := by
    rcases lookupExact_cases result with ⟨_, _, _, core | ⟨mapped, _⟩⟩ | ⟨_, mapped, _⟩
    · exact absurd (core.symm.trans outside) (by decide)
    · exact mapped
    · exact mapped
  constructor
  · intro same
    exact same ▸ ((follows_resolveMapping resolver id).ends _ mapped).2
  · intro missing
    rw [Resolver.resolveMapping, followMapping_none List.not_mem_nil missing] at mapped
    exact (Except.ok.inj mapped).symm

theorem lookupExact_unmapped {id : FormulaID} {formula : Catalog.Formula}
    (outside : FormulaID.isCore id = false) (unmapped : resolver.mappings.lookup id = none)
    (found : resolver.formulae.lookup id = some formula) :
    (resolver.lookupExact id).result = .ok (id, .external formula id) := by
  simp [Resolver.lookupExact, outside, Resolver.resolveMapping,
    followMapping_none List.not_mem_nil unmapped, bind, Except.bind, Resolver.lookupExternal, found]

end Model

/-! ## Formulae of a catalog -/

/-- A Formula of a catalog is indexed under its name, and no mapping starts there. -/
structure Resolver.Holds (resolver : Resolver) (owner : TapID) (formula : Catalog.Formula) :
    Prop where
  identity : parseFormulaID (owner ++ "/" ++ formula.name) = .ok formula.id
  bare : containsChar formula.name '/' = false
  outside : FormulaID.isCore formula.id = false
  unmapped : resolver.mappings.lookup formula.id = none
  found : resolver.formulae.lookup formula.id = some formula

theorem Resolver.Built.holds {net : NetLibrary} {policy : TapPolicy} {core : CoreCatalog}
    {entries : List (TapID × Option TapCatalog)} {resolver : Resolver} {tap : TapID}
    {document : TapCatalog} {formula : Catalog.Formula}
    (built : resolver.Built (validateTapCatalog net) policy core entries)
    (distinct : (entries.map Prod.fst).Nodup) (member : (tap, some document) ∈ entries)
    (declared : formula ∈ document.formulae) : resolver.Holds tap formula := by
  obtain ⟨rfl, valid, outside⟩ := built.document member
  have checked := checked_of_validateTapCatalog valid
  obtain ⟨validID, tap, name⟩ := identity_of_validateFormula (checked.formulae formula declared)
  obtain ⟨whole, nameValid⟩ := FormulaID.eq_append_of_validate validID
  rw [tap, name] at whole
  constructor
  · rw [← whole]
    exact FormulaID.parseFormulaID_of_validate validID
  · rw [name] at nameValid
    simpa [containsChar] using (component_formula nameValid).slashFree
  · rw [isCore_eq, tap]
    exact outside
  · -- a mapping from here would be one of the same catalog, which validation refuses
    refine Option.eq_none_iff_forall_ne_some.mpr fun next mapped => ?_
    obtain ⟨otherTap, otherDocument, otherMember, mapping, among, start, -⟩ :=
      (built.mappings formula.id next).mp mapped
    obtain ⟨rfl, otherValid, -⟩ := built.document otherMember
    have scope := (scope_of_catalogMappings (scoped_of_validateTapCatalog otherValid) among).1
    rw [start, tap] at scope
    obtain rfl : document = otherDocument := by
      have entry := List.inj_on_of_nodup_map distinct member otherMember scope
      simpa using congrArg Prod.snd entry
    exact checked.fromID_not_mem among (start ▸ List.mem_map_of_mem declared)
  · exact (built.formulae formula.id formula).mpr ⟨_, _, member, declared, rfl⟩

/--
A dependency that is written without a tap and that core resolves as a canonical
name, an alias or an old name is recorded with the identity of the core Formula,
whatever Formulae and mappings the resolver has indexed from taps.
-/
theorem core_names_not_shadowed (formulae : List CatalogFormula)
    (migrations : List Metadata.Migration) (catalog : Metadata.CoreCatalog)
    (simple : ∀ formula ∈ formulae, validateSimpleName formula.name = .ok ())
    (built : buildCatalog formulae migrations = .ok catalog) (resolver : Resolver)
    (core : resolver.core.lookup = catalog.index.lookup) (platform : Platform)
    (roots : List FormulaID) (closure : ClosureResult)
    (result : resolver.resolve roots platform = .ok closure) (node : Node)
    (nodeMember : node ∈ closure.nodes) (edge : Requirement) (edgeMember : edge ∈ node.dependencies)
    (bare : containsChar edge.raw '/' = false) (canonical : String)
    (resolves : catalog.canonicalName? edge.raw = some canonical) :
    edge.id = "homebrew/core/" ++ canonical ∧ FormulaID.isCore edge.id = true := by
  obtain ⟨worklist, _, finished, _, listed⟩ := resolve_spec result
  rw [listed, mem_sortByKey] at nodeMember
  obtain ⟨key, found⟩ := Table.mem_values.mp nodeMember
  obtain ⟨_, _, _, edges⟩ := (finished.sound.node key node found).2.1.edges
  obtain ⟨source, normalized⟩ := edges edge edgeMember
  have indexed := Metadata.indexed_of_buildCatalog
    (fun formula member => List.mem_map.mpr ⟨formula, member, rfl⟩) built
  refine core_of_normalizeDependency indexed ?_ core bare resolves normalized
  rw [List.forall_mem_map]
  intro formula member
  exact Metadata.bare_of_validateSimpleName (simple formula member)

namespace Sample

/-- A core with one Formula that has an alias. -/
def aliasedFormulae : List CatalogFormula := [{ toFormula := zlib, aliases := ["z"] }]

def aliasedCore : Metadata.CoreCatalog where
  canonical := (∅ : Table String CatalogFormula).insert "zlib" { toFormula := zlib, aliases := ["z"] }
  aliases := (∅ : Table String String).insert "z" "zlib"
  oldNames := ∅
  migrations := ∅
  resolvedMigrations := ∅
  canonicalNames := ["zlib"]

theorem aliasedCore_built : buildCatalog aliasedFormulae [] = .ok aliasedCore := rfl

def shadowing : Catalog.Formula :=
  { tool with
    id := "acme/tools/zlib"
    name := "zlib"
    homebrewFullName := "acme/tools/zlib"
    sourcePath := "Formula/zlib.rb"
    dependencies := [] }

/-- The tap has a Formula with the name of a core Formula. -/
def shadowingResolver : Resolver :=
  { resolver with
    core := ⟨aliasedCore.index.lookup⟩
    formulae := resolver.formulae.insert "acme/tools/zlib" shadowing }

theorem resolve_shadowing :
    shadowingResolver.resolve ["acme/tools/t"] amd64 = .ok closure := by
  decide +kernel

def shadowedEdge : Requirement :=
  { raw := "zlib", id := "homebrew/core/zlib", declaredDirectly := true }

theorem shadowedEdge_recorded : ∃ node ∈ closure.nodes, shadowedEdge ∈ node.dependencies :=
  ⟨_, List.mem_cons_self, List.mem_cons_self⟩

end Sample

theorem core_names_not_shadowed_tool :
    Sample.shadowingResolver.resolve ["acme/tools/t"] Sample.amd64 = .ok Sample.closure ∧
      Sample.shadowedEdge.id = "homebrew/core/" ++ "zlib" ∧
      FormulaID.isCore Sample.shadowedEdge.id = true := by
  obtain ⟨node, nodeMember, edgeMember⟩ := Sample.shadowedEdge_recorded
  exact ⟨Sample.resolve_shadowing,
    core_names_not_shadowed Sample.aliasedFormulae [] Sample.aliasedCore (by decide)
      Sample.aliasedCore_built Sample.shadowingResolver rfl Sample.amd64 ["acme/tools/t"]
      Sample.closure Sample.resolve_shadowing node nodeMember Sample.shadowedEdge edgeMember
      (by decide) "zlib" rfl⟩

end DalecHomebrew.CatalogResolver
