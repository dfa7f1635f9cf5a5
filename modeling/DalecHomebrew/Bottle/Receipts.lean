import DalecHomebrew.CatalogResolver.Resolver

/-!
# Runtime dependencies of a receipt

`normalizeDiscoveredReceiptDependencies` of `internal/bottle/receipt.go`: the list that
the receipt of a bottle gives, with canonical names that name each Formula once.
-/

namespace DalecHomebrew.Bottle

open Catalog Foundation Foundation.GoString

/-- `ReceiptDependency`, after an omitted `pkg_version` has been filled in. -/
structure ReceiptDependency where
  fullName : String
  version : String
  revision : Int
  bottleRebuild : Int
  pkgVersion : String
  declaredDirectly : Bool := false
deriving DecidableEq

def containsControl (value : String) : Bool := value.toList.any isControl

def maxDiscoveredRuntimeDependencies : Nat := 256

/-- The state of the loop: the spelling of each Formula so far, and the normalized list. -/
structure Discovered where
  seen : Table FormulaID String := ∅
  result : List ReceiptDependency := []

/-- One round of the loop of `normalizeDiscoveredReceiptDependencies`. -/
def discoverDependency (state : Discovered) (entry : ReceiptDependency × Nat) :
    Except String Discovered := do
  let dependency := entry.1
  let label := "runtime dependency " ++ quote dependency.fullName
  let id ← withContext ("runtime dependency " ++ decimal entry.2 ++ " has invalid full_name " ++
    quote dependency.fullName) (parseFormulaID dependency.fullName)
  if dependency.version = "" ∨ trimSpace dependency.version ≠ dependency.version ∨
      containsAny dependency.version "/\\ \t\r\n" ∨
      containsControl dependency.version then
    throw (label ++ " has invalid version " ++ quote dependency.version)
  if dependency.revision < 0 then
    throw (label ++ " has negative revision " ++ decimalInt dependency.revision)
  if dependency.bottleRebuild < 0 then
    throw (label ++ " has negative bottle_rebuild " ++ decimalInt dependency.bottleRebuild)
  let want := CatalogResolver.pkgVersion dependency.version dependency.revision
  if dependency.pkgVersion ≠ want then
    throw (label ++ " pkg_version " ++ quote dependency.pkgVersion ++ " does not match " ++
      quote want)
  match state.seen.lookup id with
  | some previous =>
    throw ("duplicate runtime dependency " ++ quote id ++ " (also spelled " ++ quote previous ++
      ")")
  | none =>
    return {
      seen := state.seen.insert id dependency.fullName
      result := state.result ++ [{ dependency with fullName := id }] }

def normalizeDiscoveredReceiptDependencies (deps : List ReceiptDependency) :
    Except String (List ReceiptDependency) := do
  if maxDiscoveredRuntimeDependencies < deps.length then
    throw ("runtime dependency count " ++ decimal deps.length ++ " exceeds " ++
      decimal maxDiscoveredRuntimeDependencies)
  let final ← deps.zipIdx.foldlM discoverDependency {}
  return sortByKey (·.fullName) final.result

/-! ## What is discovered -/

/-- What the loop of the normalization knows: the names are canonical and different. -/
structure Discovered.Normal (state : Discovered) : Prop where
  canonical : ∀ value ∈ state.result, parseFormulaID value.fullName = .ok value.fullName
  distinct : (state.result.map (·.fullName)).Nodup
  seen : ∀ value ∈ state.result, (state.seen.lookup value.fullName).isSome

/-- A parsed identity is its own canonical form. -/
theorem parseFormulaID_canonical {value : String} {id : FormulaID}
    (parsed : parseFormulaID value = .ok id) : parseFormulaID id = .ok id := by
  obtain ⟨identity, read, rfl⟩ := FormulaID.string_of_parseFormulaID parsed
  rw [parseFormulaID, Homebrew.parse_string read]
  rfl

theorem Discovered.Normal.step {source target : Discovered} {entry : ReceiptDependency × Nat}
    (normal : source.Normal) (step : discoverDependency source entry = .ok target) :
    target.Normal := by
  simp only [discoverDependency, throw_bind, ite_error_eq_ok, bind_eq_ok, withContext_eq_ok]
    at step
  obtain ⟨id, parsed, -, -, -, -, step⟩ := step
  cases held : source.seen.lookup id with
  | some previous =>
    rw [held] at step
    cases step
  | none =>
    rw [held, pure_eq_ok] at step
    subst step
    have fresh : id ∉ source.result.map (·.fullName) := by
      intro member
      obtain ⟨value, among, rfl⟩ := List.mem_map.mp member
      have known := normal.seen value among
      rw [held] at known
      cases known
    refine ⟨?_, ?_, ?_⟩
    · refine List.forall_mem_append.mpr ⟨normal.canonical, List.forall_mem_singleton.mpr ?_⟩
      exact parseFormulaID_canonical parsed
    · rw [List.map_append, List.map_singleton, ← List.concat_eq_append]
      exact normal.distinct.concat fresh
    · refine List.forall_mem_append.mpr ⟨fun value member => ?_, List.forall_mem_singleton.mpr ?_⟩
      · have other : value.fullName ≠ id := fun same => fresh (same ▸ List.mem_map_of_mem member)
        rw [AList.lookup_insert_ne other]
        exact normal.seen value member
      · rw [AList.lookup_insert]
        rfl

theorem normal_of_normalize {deps dependencies : List ReceiptDependency}
    (normalized : normalizeDiscoveredReceiptDependencies deps = .ok dependencies) :
    (∀ value ∈ dependencies, parseFormulaID value.fullName = .ok value.fullName) ∧
      (dependencies.map (·.fullName)).Nodup := by
  simp only [normalizeDiscoveredReceiptDependencies, throw_bind, ite_error_eq_ok, bind_eq_ok,
    pure_eq_ok] at normalized
  obtain ⟨-, final, loop, rfl⟩ := normalized
  have start : ({} : Discovered).Normal := ⟨by simp, by simp, by simp⟩
  have normal : final.Normal := foldlM_preserves (fun _ _ _ _ known => known.step) loop start
  refine ⟨fun value member => normal.canonical value (mem_sortByKey.mp member), ?_⟩
  rw [((sortByKey_perm _ final.result).map _).nodup_iff]
  exact normal.distinct

end DalecHomebrew.Bottle
