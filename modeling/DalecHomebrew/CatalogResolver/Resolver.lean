import DalecHomebrew.Catalog.Validate
import DalecHomebrew.Homebrew.Metadata
import DalecHomebrew.Policy.TapPolicy

/-!
# The tap-aware resolver

`internal/catalogresolver/resolver.go`.  The resolver recomputes the closure of
a root list from the core lookup and the signed tap catalogs: a worklist
normalizes every dependency through the mapping tables, and a depth-first
traversal of the recorded edges gives the install order.

The functions of the source that take the `used` map only ever add taps to it.
Here they return the taps they add, whether or not they succeed.
-/

namespace DalecHomebrew.CatalogResolver

open Catalog Foundation Foundation.GoString Homebrew Policy

/-! ## Errors -/

/-- An error chain of the resolver. -/
inductive Failure where
  /-- An error of the core metadata, passed on as it is. -/
  | core (cause : Metadata.Failure)
  /-- `MissingTapError`. -/
  | missingTap (tap : TapID)
  | text (message : String)
  | wrapped (before : String) (cause : Failure) (after : String)
deriving DecidableEq

def Failure.message : Failure → String
  | .core cause => cause.message
  | .missingTap tap => "dependency discovers unauthorized or missing tap " ++ tap
  | .text message => message
  | .wrapped before cause after => before ++ cause.message ++ after

/-- `errors.Is` against a sentinel of the metadata package. -/
def Failure.is (error : Metadata.Sentinel) : Failure → Bool
  | .core cause => cause.is error
  | .missingTap _ => false
  | .text _ => false
  | .wrapped _ cause _ => cause.is error

/-- `errors.As` for a `MissingTapError`: the tap that the chain names. -/
def Failure.missingTap? : Failure → Option TapID
  | .core _ => none
  | .missingTap tap => some tap
  | .text _ => none
  | .wrapped _ cause _ => cause.missingTap?

/-- A check whose finding becomes the error of the caller. -/
def check : Except String Unit → Except Failure Unit
  | .ok _ => .ok ()
  | .error message => .error (.text message)

/-- `fmt.Errorf` with a context before the wrapped error. -/
def within {Value : Type} (context : String) : Except Failure Value → Except Failure Value
  | .ok value => .ok value
  | .error cause => .error (.wrapped context cause "")

/-! ## Construction -/

/-- `CoreCatalog`: the authenticated lookup of core names. -/
structure CoreCatalog where
  lookup : String → Except Metadata.Failure Metadata.Match

structure Resolver where
  core : CoreCatalog
  catalogs : Table TapID TapCatalog
  formulae : Table FormulaID Catalog.Formula
  mappings : Table FormulaID FormulaID
  policy : TapPolicy

def migrationsAsMappings (migrations : List Migration) : List ScopedMapping :=
  migrations.map fun migration => { fromID := migration.fromID, toID := migration.toID }

def Resolver.addFormula (resolver : Resolver) (formula : Catalog.Formula) :
    Except Failure Resolver :=
  if (resolver.formulae.lookup formula.id).isSome then
    .error (.text ("duplicate Formula ID " ++ formula.id))
  else .ok { resolver with formulae := resolver.formulae.insert formula.id formula }

def Resolver.addMapping (resolver : Resolver) (mapping : ScopedMapping) :
    Except Failure Resolver :=
  if (resolver.mappings.lookup mapping.fromID).isSome then
    .error (.text ("duplicate alias/rename/migration source " ++ mapping.fromID))
  else .ok { resolver with mappings := resolver.mappings.insert mapping.fromID mapping.toID }

/-- The body of the loop of `New` over the catalogs. -/
def Resolver.addCatalog (validateTapCatalog : TapCatalog → Except String Unit) (resolver : Resolver)
    (entry : TapID × Option TapCatalog) :
    Except Failure Resolver :=
  match entry with
  | (tap, document) =>
    if TapID.isCore tap then
      .error (.text "external catalog set must not replace homebrew/core")
    else
      match document with
      | none => .error (.text ("nil catalog for " ++ tap))
      | some document => do
          within ("catalog " ++ tap ++ ": ") (check (validateTapCatalog document))
          if document.tap.id ≠ tap then
            throw (.text ("catalog map key " ++ tap ++ " does not match document tap " ++
              document.tap.id))
          let added := { resolver with catalogs := resolver.catalogs.insert tap document }
          let withFormulae ← document.formulae.foldlM addFormula added
          (document.aliases ++ document.renames ++
            migrationsAsMappings document.migrations).foldlM addMapping withFormulae

/--
`New`.  The catalogs are the entries of the source's map in any order, and
`validateTapCatalog` stands for `catalog.ValidateTapCatalog`.
-/
def new (validateTapCatalog : TapCatalog → Except String Unit) (policy : TapPolicy)
    (core : Option CoreCatalog) (catalogs : List (TapID × Option TapCatalog)) :
    Except Failure Resolver :=
  match core with
  | none => .error (.text "core catalog is required")
  | some core =>
    if maxTaps < catalogs.length then
      .error (.text ("catalog count " ++ decimal catalogs.length ++ " exceeds " ++ decimal maxTaps))
    else
      catalogs.foldlM (Resolver.addCatalog validateTapCatalog)
        { core, catalogs := ∅, formulae := ∅, mappings := ∅, policy }

/-! ## Name normalization -/

/-- The taps a call adds to `used`, and its result. -/
structure Marked (Value : Type) where
  taps : List TapID
  result : Except Failure Value

/-- `formulaSource`: the record a canonical identity was found in. -/
inductive FormulaSource where
  | core (formula : Metadata.Formula) (id : FormulaID)
  | external (formula : Catalog.Formula) (id : FormulaID)
deriving DecidableEq

def FormulaSource.id : FormulaSource → FormulaID
  | .core _ id => id
  | .external _ id => id

/-- The identities with a mapping that a chain has not passed yet. -/
def unfollowed (mappings : Table FormulaID FormulaID) (chain : List FormulaID) : List FormulaID :=
  mappings.keys.filter fun id => id ∉ chain

theorem unfollowed_append_lt {mappings : Table FormulaID FormulaID} {chain : List FormulaID}
    {id next : FormulaID} (found : mappings.lookup id = some next) (new : id ∉ chain) :
    (unfollowed mappings (chain ++ [id])).length < (unfollowed mappings chain).length := by
  have member : id ∈ mappings.keys := by
    rw [← AList.mem_keys, ← AList.lookup_isSome, found]
    rfl
  have fewer : unfollowed mappings (chain ++ [id]) =
      (unfollowed mappings chain).filter fun other => other != id := by
    rw [unfollowed, unfollowed, List.filter_filter]
    refine List.filter_congr fun other _ => ?_
    by_cases same : other = id
    · simp [same]
    · simp [same]
  rw [fewer]
  exact List.length_filter_lt_length_iff_exists.mpr ⟨id, by simp [unfollowed, member, new], by simp⟩

/-- The loop of `resolveMapping`; `chain` holds the identities passed so far. -/
def followMapping (mappings : Table FormulaID FormulaID) (chain : List FormulaID) (id : FormulaID) :
    Marked FormulaID :=
  let taps := if FormulaID.isCore id then [] else [FormulaID.tap id]
  if _repeated : id ∈ chain then
    { taps
      result := .error (.text ("alias/rename/migration cycle: " ++
        join (chain.drop (chain.idxOf id) ++ [id]) " -> ")) }
  else
    match _found : mappings.lookup id with
    | none => { taps, result := .ok id }
    | some next =>
      let rest := followMapping mappings (chain ++ [id]) next
      { taps := taps ++ rest.taps, result := rest.result }
termination_by (unfollowed mappings chain).length
decreasing_by exact unfollowed_append_lt _found _repeated

variable (resolver : Resolver)

def Resolver.resolveMapping (id : FormulaID) : Marked FormulaID :=
  followMapping resolver.mappings [] id

/-- The core branch of `lookupExact`. -/
def Resolver.lookupCore (id : FormulaID) : Except Failure (FormulaID × FormulaSource) :=
  match resolver.core.lookup (FormulaID.name id) with
  | .error cause => .error (.core cause)
  | .ok found =>
    match parseFormulaID found.canonical with
    | .error message =>
      .error (.text ("core lookup returned invalid identity: " ++ message))
    | .ok canonical => .ok (canonical, .core found.formula canonical)

/-- The branch of `lookupExact` for a mapping that ends in core. -/
def Resolver.lookupMigrated (resolved : FormulaID) : Except Failure (FormulaID × FormulaSource) :=
  match resolver.core.lookup (FormulaID.name resolved) with
  | .error cause => .error (.core cause)
  | .ok found =>
    match parseFormulaID found.canonical with
    | .error _ => .error (.text ("core migration target " ++ resolved ++ " is not canonical"))
    | .ok canonical =>
      if canonical ≠ resolved then
        .error (.text ("core migration target " ++ resolved ++ " is not canonical"))
      else .ok (canonical, .core found.formula canonical)

/-- The branch of `lookupExact` for a Formula of a tap. -/
def Resolver.lookupExternal (resolved : FormulaID) : Except Failure (FormulaID × FormulaSource) :=
  match resolver.formulae.lookup resolved with
  | some formula => .ok (resolved, .external formula resolved)
  | none =>
    if (resolver.catalogs.lookup (FormulaID.tap resolved)).isNone then
      .error (.missingTap (FormulaID.tap resolved))
    else .error (.text ("Formula " ++ resolved ++ " is absent from signed tap catalog"))

def Resolver.lookupExact (id : FormulaID) : Marked (FormulaID × FormulaSource) :=
  if FormulaID.isCore id then { taps := [], result := resolver.lookupCore id }
  else
    let mapped := resolver.resolveMapping id
    { taps := FormulaID.tap id :: mapped.taps
      result := do
        let resolved ← mapped.result
        if FormulaID.isCore resolved then resolver.lookupMigrated resolved
        else resolver.lookupExternal resolved }

/-- A parse followed by an exact lookup, as `normalizeDependency` does it three times. -/
def Resolver.lookupParsed (value : String) : Marked (FormulaID × FormulaSource) :=
  match parseFormulaID value with
  | .error message => { taps := [], result := .error (.text message) }
  | .ok id => resolver.lookupExact id

/--
`normalizeDependency`: a qualified name is looked up exactly; a bare one in
core first, and in the tap of its owner only if core does not know it.
-/
def Resolver.normalizeDependency (owner : TapID) (raw : String) :
    Marked (FormulaID × FormulaSource) :=
  if containsChar raw '/' then resolver.lookupParsed raw
  else
    match parseFormulaID raw with
    | .error message => { taps := [], result := .error (.text message) }
    | .ok coreID =>
      let found := resolver.lookupExact coreID
      match found.result with
      | .ok _ => found
      | .error cause =>
        if cause.is .formulaNotFound then
          let fallback := resolver.lookupParsed (owner ++ "/" ++ raw)
          { taps := found.taps ++ fallback.taps, result := fallback.result }
        else found

/-! ## Nodes -/

def bottleTag (platform : Platform) : String :=
  if platform.architecture = "arm64" then "arm64_linux" else "x86_64_linux"

def pkgVersion (version : String) (revision : Int) : String :=
  if 0 < revision then version ++ "_" ++ decimalInt revision else version

def hasBottleTag (files : List Catalog.BottleFile) (tag : String) : Bool :=
  files.any fun file => file.tag == tag

def hasNativeBottleForTag (bottle : Option BottleDeclaration) (tag : String) : Bool :=
  bottle.any fun bottle => hasBottleTag bottle.files tag || hasBottleTag bottle.files "all"

def externalBottleUnavailableError (bottle : Option BottleDeclaration) (tag : String) : Failure :=
  match bottle with
  | none => .text "stable bottle metadata is unavailable"
  | some _ => .text ("stable bottle tag " ++ tag ++ " is unavailable")

def formulaHasDependencies (formula : Catalog.Formula) : Bool :=
  formula.dependencies != [] ||
    formula.variations.any fun variation => variation.dependencies != []

def prebuiltPolicyPlatform (platforms : List PrebuiltArchivePlatformPolicy) (target : Platform) :
    Option PrebuiltArchivePlatformPolicy :=
  platforms.find? fun platform => platform.platform == target.os ++ "/" ++ target.architecture

def prebuiltArchiveFile (files : List PrebuiltArchiveFile) (tag : String) :
    Option PrebuiltArchiveFile :=
  files.find? fun file => file.tag == tag

/-- Every condition under which a prebuilt archive may stand in for a bottle. -/
def Resolver.authorizePrebuiltArchive (formula : Catalog.Formula)
    (platform : Platform) (tag : String) (requestedRoot : Bool) :
    Except String Unit :=
  match formula.prebuiltArchive with
  | none => .error "stable prebuilt archive metadata is unavailable"
  | some declaration =>
    match resolver.policy.prebuiltArchiveForFormula formula.id with
    | none => .error ("Formula ID " ++ formula.id ++ " has no exact release-policy authorization")
    | some policy => do
        if policy.formulaID ≠ formula.id then
          throw ("release policy Formula ID " ++ quote policy.formulaID ++ " does not match " ++
            formula.id)
        if !policy.rootOnly then
          throw "release policy does not require prebuilt archive use to be root-only"
        if !requestedRoot then
          throw ("release policy permits the prebuilt archive only as an explicitly requested " ++
            "resolved root")
        if formula.stableVersion ≠ policy.version then
          throw ("stable version " ++ quote formula.stableVersion ++
            " does not match release policy " ++ quote policy.version)
        if formula.sourceDigest ≠ policy.formulaSourceDigest then
          throw ("Formula source digest " ++ formula.sourceDigest ++
            " does not match release policy " ++ policy.formulaSourceDigest)
        if formula.license ≠ policy.license then
          throw ("license " ++ quote formula.license ++ " does not match release policy " ++
            quote policy.license)
        if !policy.requireNoBottle then
          throw "release policy does not require native bottles to be absent"
        if formula.bottle.isSome then
          throw ("Formula declares native bottle metadata but release policy requires no " ++
            "bottle")
        if policy.dependencies ≠ [] then
          throw "release policy does not require an empty dependency set"
        if formulaHasDependencies formula then
          throw "Formula declares dependencies but release policy requires none"
        match prebuiltPolicyPlatform policy.platforms platform with
        | none =>
          throw ("release policy has no entry for " ++ platform.os ++ "/" ++ platform.architecture)
        | some policyPlatform =>
          match prebuiltArchiveFile declaration.files tag with
          | none => throw ("prebuilt archive does not declare target tag " ++ tag)
          | some file =>
            if file.url ≠ policyPlatform.url then
              throw ("prebuilt archive URL " ++ quote file.url ++
                " does not match release policy " ++ quote policyPlatform.url)
            if file.sha256 ≠ policyPlatform.sha256 then
              throw ("prebuilt archive digest " ++ file.sha256 ++
                " does not match release policy " ++ policyPlatform.sha256)
            if file.format ≠ policy.archive.format then
              throw ("prebuilt archive format " ++ quote file.format ++
                " does not match release policy " ++ quote policy.archive.format)

/-- The state of the loop over the variations of an external Formula. -/
structure Overlay where
  dependencies : List Dependency
  kegOnly : Bool

def overlay (tag : String) (selected : Overlay) (variation : FormulaVariation) :
    Except Failure Overlay :=
  if variation.tag ≠ tag then .ok selected
  else if variation.unavailable then
    .error (.text ("stable Formula is unavailable for " ++ tag))
  else
    .ok {
      dependencies :=
        if variation.overridesDependencies then variation.dependencies else selected.dependencies
      kegOnly := if variation.overridesKegOnly then variation.kegOnly else selected.kegOnly }

def coreNode (formula : Metadata.Formula) (id : FormulaID) (tag : String) :
    Except Failure (Node × List Requirement) :=
  if formula.disabled then .error (.core (.sentinel .formulaDisabled))
  else
    match formula.bottleFor tag with
    | .error cause => .error (.core cause)
    | .ok _ =>
      .ok ({
        id, tap := FormulaID.tap id, name := formula.name, homebrewFullName := formula.fullName,
        formulaVersion := formula.stableVersion, formulaRevision := formula.revision,
        pkgVersion := pkgVersion formula.stableVersion formula.revision,
        versionScheme := formula.versionScheme,
        bottleRebuild := (formula.bottle.map Metadata.Bottle.rebuild).getD 0,
        license := formula.license, kegOnly := formula.kegOnlyFor tag },
        (formula.dependenciesFor tag).map fun dependency =>
          { raw := dependency, declaredDirectly := true })

/-- The bottle rebuild of an external Formula, or why it cannot be installed. -/
def Resolver.externalRebuild (formula : Catalog.Formula) (platform : Platform)
    (tag : String) (requestedRoot : Bool) :
    Except Failure Int :=
  if hasNativeBottleForTag formula.bottle tag then
    .ok ((formula.bottle.map BottleDeclaration.rebuild).getD 0)
  else
    match resolver.authorizePrebuiltArchive formula platform tag requestedRoot with
    | .ok _ => .ok 0
    | .error message =>
      let unavailable := externalBottleUnavailableError formula.bottle tag
      if formula.prebuiltArchive.isNone then .error unavailable
      else .error (.wrapped "" unavailable (": prebuilt archive is not eligible: " ++ message))

def Resolver.externalNode (formula : Catalog.Formula) (id : FormulaID)
    (platform : Platform) (tag : String) (requestedRoot : Bool) :
    Except Failure (Node × List Requirement) := do
  if formula.disabled then throw (.text "Formula is disabled")
  let bottleRebuild ← resolver.externalRebuild formula platform tag requestedRoot
  let selected ← formula.variations.foldlM (overlay tag)
    { dependencies := formula.dependencies, kegOnly := formula.kegOnly }
  return ({
    id, tap := FormulaID.tap id, name := formula.name, homebrewFullName := formula.homebrewFullName,
    formulaVersion := formula.stableVersion, formulaRevision := formula.revision,
    pkgVersion := pkgVersion formula.stableVersion formula.revision,
    versionScheme := formula.versionScheme, bottleRebuild, license := formula.license,
    kegOnly := selected.kegOnly },
    selected.dependencies.map fun dependency =>
      { raw := dependency.raw, id := dependency.id, declaredDirectly := true })

def Resolver.nodeAndDependencies (source : FormulaSource)
    (platform : Platform) (tag : String) (requestedRoot : Bool) :
    Except Failure (Node × List Requirement) :=
  match source with
  | .core formula id => coreNode formula id tag
  | .external formula id => resolver.externalNode formula id platform tag requestedRoot

/-! ## The worklist -/

/-- The taps of `used` after some more have been marked. -/
def markTaps (used taps : List TapID) : List TapID :=
  taps.foldl (fun marked tap => marked.insert tap) used

/-- What the loop over the roots collects; `requested` is also `seenRoots` and the first queue. -/
structure Roots where
  requested : List FormulaID := []
  mappings : List RequestedMapping := []
  used : List TapID := []

def Resolver.addRoot (roots : Roots) (raw : FormulaID) : Except Failure Roots := do
  within ("root " ++ quote raw ++ ": ") (check (FormulaID.validate raw))
  let marked := resolver.lookupExact raw
  let found ← within ("root " ++ raw ++ ": ") marked.result
  if found.1 ∈ roots.requested then throw (.text ("duplicate canonical root " ++ found.1))
  return {
    requested := roots.requested ++ [found.1]
    mappings := roots.mappings ++ [{ requested := raw, resolved := found.1 }]
    used := markTaps roots.used marked.taps }

structure Worklist where
  queue : List FormulaID
  nodes : Table FormulaID Node
  graph : Table FormulaID (List Requirement)
  used : List TapID

@[simp]
theorem within_eq_ok {Value : Type} {context : String} {result : Except Failure Value}
    {value : Value} : within context result = .ok value ↔ result = .ok value := by
  cases result with
  | error cause | ok found => simp [within]

@[simp]
theorem check_eq_ok {result : Except String Unit} {value : Unit} :
    check result = .ok value ↔ result = .ok () := by
  cases result with
  | error message | ok found => simp [check]

/-- The worklist after the edge of a dependency has been recorded. -/
def Worklist.record (worklist : Worklist) (id : FormulaID) (edge : Requirement)
    (taps : List TapID) :
    Worklist :=
  { worklist with
    queue := if (worklist.nodes.lookup edge.id).isSome then worklist.queue
      else worklist.queue ++ [edge.id]
    graph := worklist.graph.insert id (worklist.graph.slice id ++ [edge])
    used := markTaps worklist.used taps }

/-- One iteration of the loop over the dependencies of `id`. -/
def Resolver.addDependency (id : FormulaID) (worklist : Worklist) (dependency : Requirement) :
    Except Failure Worklist := do
  let marked := resolver.normalizeDependency (FormulaID.tap id) dependency.raw
  let found ←
    within ("Formula " ++ id ++ " dependency " ++ quote dependency.raw ++ ": ") marked.result
  if dependency.id ≠ "" ∧ dependency.id ≠ found.1 then
    throw (.text ("Formula " ++ id ++ " dependency " ++ quote dependency.raw ++
      " normalizes to " ++ found.1 ++ ", signed catalog claimed " ++ dependency.id))
  return worklist.record id { dependency with id := found.1 } marked.taps

/-- The edges of `id` in the order of their identities. -/
def sortEdges (graph : Table FormulaID (List Requirement)) (id : FormulaID) :
    Table FormulaID (List Requirement) :=
  match graph.lookup id with
  | none => graph
  | some edges => graph.insert id (sortByKey Requirement.id edges)

/-- The worklist after the node of an identity has been completed. -/
def Worklist.complete (worklist : Worklist) (id : FormulaID) (node : Node) : Worklist :=
  { worklist with
    graph := sortEdges worklist.graph id
    nodes := worklist.nodes.insert id
      { node with dependencies := (sortEdges worklist.graph id).slice id } }

/-- The body of the worklist loop for an identity that has no node yet. -/
def Resolver.expand (platform : Platform) (requested : List FormulaID)
    (worklist : Worklist) (id : FormulaID) :
    Except Failure Worklist := do
  let marked := resolver.lookupExact id
  let found ← marked.result
  if found.1 ≠ id then
    throw (.text ("canonical queue identity " ++ id ++ " maps to " ++ found.1))
  let declared ← within ("Formula " ++ id ++ ": ")
    (resolver.nodeAndDependencies found.2 platform (bottleTag platform) (requested.contains id))
  let expanded ← declared.2.foldlM (resolver.addDependency id)
    { worklist with used := markTaps worklist.used marked.taps }
  return expanded.complete id declared.1

variable {resolver : Resolver}

theorem Resolver.addDependency_eq_ok {id : FormulaID}
    {worklist extended : Worklist} {dependency : Requirement} :
    resolver.addDependency id worklist dependency = .ok extended ↔ ∃ found,
        (resolver.normalizeDependency (FormulaID.tap id) dependency.raw).result = .ok found ∧
        (dependency.id = "" ∨ dependency.id = found.1) ∧
        extended = worklist.record id { dependency with id := found.1 }
          (resolver.normalizeDependency (FormulaID.tap id) dependency.raw).taps := by
  simp only [addDependency, bind_eq_ok, within_eq_ok]
  refine exists_congr fun found => and_congr_right fun _ => ?_
  by_cases claimed : dependency.id ≠ "" ∧ dependency.id ≠ found.1
  · rw [if_pos claimed, throw_bind]
    have disagrees : ¬ (dependency.id = "" ∨ dependency.id = found.1) := by
      rintro (blank | same)
      · exact claimed.1 blank
      · exact claimed.2 same
    simp only [disagrees, false_and, reduceCtorEq]
  · rw [if_neg claimed]
    have agrees : dependency.id = "" ∨ dependency.id = found.1 := by
      by_cases blank : dependency.id = ""
      · exact .inl blank
      · exact .inr (by simpa [blank] using claimed)
    simp only [agrees, true_and, pure_eq_ok]
    exact eq_comm

theorem Resolver.expand_eq_ok {platform : Platform}
    {requested : List FormulaID} {worklist expanded : Worklist} {id : FormulaID} :
    resolver.expand platform requested worklist id = .ok expanded ↔
      ∃ source node dependencies extended, (resolver.lookupExact id).result = .ok (id, source) ∧
        resolver.nodeAndDependencies source platform (bottleTag platform)
          (requested.contains id) = .ok (node, dependencies) ∧
        dependencies.foldlM (resolver.addDependency id)
          { worklist with used := markTaps worklist.used (resolver.lookupExact id).taps } =
            .ok extended ∧
        expanded = extended.complete id node := by
  simp only [expand, bind_eq_ok]
  constructor
  · rintro ⟨⟨canonical, source⟩, looked, result⟩
    by_cases same : canonical = id
    · subst same
      simp only [ne_eq, not_true, if_false, bind_eq_ok, within_eq_ok] at result
      obtain ⟨⟨node, dependencies⟩, declared, extended, loop, completed⟩ := result
      exact ⟨source, node, dependencies, extended, looked, declared, loop,
        (Except.ok.inj completed).symm⟩
    · rw [if_pos same, throw_bind] at result
      cases result
  · rintro ⟨source, node, dependencies, extended, looked, declared, loop, rfl⟩
    refine ⟨(id, source), looked, ?_⟩
    simp only [ne_eq, not_true, if_false, bind_eq_ok, within_eq_ok]
    exact ⟨(node, dependencies), declared, extended, loop, rfl⟩

/-- Whether an identity has a node already. -/
def Worklist.done (worklist : Worklist) (id : FormulaID) : Bool :=
  (worklist.nodes.lookup id).isSome

/--
The worklist loop.  Identities that have a node are popped without effect.  The
budget is the number of nodes that may still be added: every round adds one, so
that it is used up exactly when there are `MaxClosureNodes` of them.
-/
def Resolver.drain (resolver : Resolver) (platform : Platform) (requested : List FormulaID)
    (budget : Nat) (worklist : Worklist) :
    Except Failure Worklist :=
  match worklist.queue.dropWhile worklist.done, budget with
  | [], _ => .ok { worklist with queue := [] }
  | _ :: _, 0 => .error (.text ("closure exceeds " ++ decimal maxClosureNodes ++ " nodes"))
  | id :: rest, budget + 1 =>
    match resolver.expand platform requested { worklist with queue := rest } id with
    | .error cause => .error cause
    | .ok expanded => resolver.drain platform requested budget expanded

/-! ## The install order -/

/-- One iteration of `validateRackCollisions`. -/
def claimRack (byRack : Table String FormulaID) (entry : FormulaID × Node) :
    Except Failure (Table String FormulaID) :=
  match byRack.lookup entry.2.name with
  | some previous =>
    if previous ≠ entry.1 then
      .error (.text ("Formula IDs " ++ previous ++ " and " ++ entry.1 ++ " share Cellar rack " ++
        quote entry.2.name))
    else .ok (byRack.insert entry.2.name entry.1)
  | none => .ok (byRack.insert entry.2.name entry.1)

def validateRackCollisions (nodes : Table FormulaID Node) : Except Failure Unit :=
  ((nodes.entries.map fun entry => (entry.1, entry.2)).foldlM claimRack ∅).map fun _ => ()

/-- The successors of an identity in the recorded graph. -/
def successors (graph : Table FormulaID (List Requirement)) (id : FormulaID) : List FormulaID :=
  (graph.slice id).map Requirement.id

/-- Every identity that occurs in a graph or among its roots. -/
def vertices (graph : Table FormulaID (List Requirement)) (roots : List FormulaID) :
    List FormulaID :=
  roots ++ graph.keys.flatMap fun id => id :: successors graph id

def topo (graph : Table FormulaID (List Requirement)) (roots : List FormulaID) :
    Except Failure (List FormulaID) :=
  match DepthFirst.visitAll (successors graph) ((vertices graph roots).length + 1) .initial roots with
  | .ok search => .ok search.order
  | .error (.cycle path) => .error (.text ("dependency cycle: " ++ join path " -> "))
  | .error .exhausted => .error (.text "stack overflow")

/-- `Resolver.Resolve`. -/
def Resolver.resolve (resolver : Resolver) (roots : List FormulaID) (platform : Platform) :
    Except Failure ClosureResult := do
  check platform.validate
  if roots = [] then throw (.text "no roots")
  let collected ← roots.foldlM resolver.addRoot {}
  let worklist ← resolver.drain platform collected.requested maxClosureNodes
    { queue := collected.requested, nodes := ∅, graph := ∅, used := collected.used }
  validateRackCollisions worklist.nodes
  let order ← topo worklist.graph collected.requested
  let closure : ClosureResult := {
    requested := collected.requested, requestedMappings := some collected.mappings,
    normalizationTaps := some (sortByKey id worklist.used),
    nodes := sortByKey Node.id worklist.nodes.values, installOrder := order }
  check (validateClosureResult closure)
  return closure

end DalecHomebrew.CatalogResolver
