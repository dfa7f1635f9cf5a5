import DalecHomebrew.Catalog.CatalogSet
import DalecHomebrew.CatalogResolver.Resolver
import DalecHomebrew.CatalogService.Service

/-!
# The catalog generator

`internal/cataloggenerator/generator.go`.  `Generate` extracts the taps of the
requested roots, resolves every target against the catalogs it has, and starts
over with one more tap whenever a resolution misses one.  When no tap is missing
it builds the artifacts of all nodes.

What the generator calls is a parameter: the core provider, the extractor with
its conversion to a catalog, the artifact builder and the state of the context
at the start of a round.  A tap is extracted at most once in a generation, so
that an extractor is a function of the tap.
-/

namespace DalecHomebrew.CatalogGenerator

open Catalog CatalogResolver CatalogService Foundation Foundation.GoString Policy

/-! ## Components -/

/-- An error of a component: its text, and whether it wraps the end of the context. -/
structure Cause where
  message : String
  interrupted : Bool := false
deriving DecidableEq

/-- `CoreSnapshot`; the zero time is `0`. -/
structure CoreSnapshot where
  catalog : CoreCatalog
  digest : String
  generatedAt : Time

/-- What a generator is configured with, and what the packages it calls rest on. -/
structure Components (Extracted : Type) where
  snapshot : Request → Except Cause CoreSnapshot
  extract : TapID → Except Cause Extracted
  toCatalog : Extracted → CoreSnapshot → Except Cause TapCatalog
  build : Request → CoreSnapshot → Table TapID TapCatalog → Node → Platform →
    Except Cause BottleArtifact
  interrupted : Nat → Bool
  net : NetLibrary
  policy : TapPolicy
  validatePlatformResult : PlatformResult → Except String Unit

def timedOut : Catalog.Failure where
  code := .timeout
  message := "catalog generation timed out"

def policyFailure (message : String) : Catalog.Failure where
  code := .policy
  message := message

def classifyGenerationError (cause : Cause) : Catalog.Failure :=
  if cause.interrupted then timedOut
  else { code := .unavailable, message := "catalog generation dependency is unavailable" }

def classifyArtifactError (id : FormulaID) (cause : Cause) : Catalog.Failure :=
  let message := "bottle verification failed for " ++ id
  if containsText (toLower cause.message) "unavailable" ∨
      containsText (toLower cause.message) "no bottle" then
    { code := .missingBottle, message }
  else if cause.interrupted then timedOut
  else policyFailure message

/-! ## One round -/

/-- The variables of the loop, with the number of assignments to the catalog map. -/
structure Progress where
  catalogs : Table TapID TapCatalog := ∅
  pending : List TapID
  extensions : Nat := 0
  rounds : Nat := 0

/-- A generation that stopped with a failure. -/
structure Stopped where
  extensions : Nat
  failure : Catalog.Failure

def Progress.stop (progress : Progress) (failure : Catalog.Failure) : Stopped where
  extensions := progress.extensions
  failure := failure

section Model

variable {Extracted : Type} (components : Components Extracted)

/-- The body of the loop over the pending taps. -/
def extractTap (core : CoreSnapshot) (progress : Progress) (tap : TapID) :
    Except Stopped Progress :=
  if maxTaps ≤ progress.catalogs.keys.length then
    .error (progress.stop (policyFailure "resolved closure exceeds the tap limit"))
  else
    match components.extract tap with
    | .error _ =>
      .error (progress.stop { code := .invalidTap, message := "tap extraction failed" })
    | .ok extracted =>
      match components.toCatalog extracted core with
      | .error _ => .error (progress.stop (policyFailure "tap catalog is invalid"))
      | .ok document =>
        let published :=
          if core.generatedAt = 0 then document
          else { document with publishedAt := core.generatedAt }
        .ok { progress with
          catalogs := progress.catalogs.insert tap published
          pending := progress.pending.erase tap
          extensions := progress.extensions + 1 }

/-- The pending taps without a catalog, sorted. -/
def Progress.pendingTaps (progress : Progress) : List TapID :=
  sortByKey (fun tap => tap) (progress.pending.filter fun tap =>
    (progress.catalogs.lookup tap).isNone)

def extractTaps (core : CoreSnapshot) (progress : Progress) : Except Stopped Progress :=
  progress.pendingTaps.foldlM (extractTap components core) progress

/-- The catalogs as the argument of `catalogresolver.New`. -/
def catalogEntries (catalogs : Table TapID TapCatalog) : List (TapID × Option TapCatalog) :=
  catalogs.entries.map fun entry => (entry.1, some entry.2)

def newResolver (core : CoreSnapshot) (catalogs : Table TapID TapCatalog) :
    Except CatalogResolver.Failure Resolver :=
  CatalogResolver.new (validateTapCatalog components.net) components.policy (some core.catalog)
    (catalogEntries catalogs)

/-- The closure of a target without roots. -/
def emptyClosure : ClosureResult where
  requested := []
  requestedMappings := some []
  normalizationTaps := some []
  nodes := []
  installOrder := []

/-- An element of `closures` that the loop over the targets did not reach. -/
def zeroClosure : ClosureResult where
  requested := []
  requestedMappings := none
  normalizationTaps := none
  nodes := []
  installOrder := []

def targetRoots (target : PlatformRequest) : List FormulaID :=
  target.coreRoots ++ target.roots

/-- The loop over the targets: the closures, and the missing tap or the empty string. -/
def resolveTargets (resolver : Resolver) :
    List PlatformRequest → Except Catalog.Failure (List ClosureResult × TapID)
  | [] => .ok ([], "")
  | target :: rest => do
      if targetRoots target = [] then
        let (closures, missing) ← resolveTargets resolver rest
        return (emptyClosure :: closures, missing)
      match resolver.resolve (targetRoots target) target.platform with
      | .error cause =>
        match cause.missingTap? with
        | some tap => return (List.replicate (rest.length + 1) zeroClosure, tap)
        | none => throw (policyFailure "dependency closure is invalid")
      | .ok closure =>
        let (closures, missing) ← resolveTargets resolver rest
        return (closure :: closures, missing)

/-- What a round of the loop leads to. -/
inductive Round where
  | stopped (stopped : Stopped)
  | resolved (progress : Progress) (closures : List ClosureResult)
  | extended (progress : Progress)

/-- The body of the loop. -/
def round (core : CoreSnapshot) (targets : List PlatformRequest) (progress : Progress) : Round :=
  if components.interrupted progress.rounds then .stopped (progress.stop timedOut)
  else
    match extractTaps components core progress with
    | .error stopped => .stopped stopped
    | .ok extracted =>
      match newResolver components core extracted.catalogs with
      | .error _ =>
        .stopped (extracted.stop (policyFailure "catalog resolver rejected extracted taps"))
      | .ok resolver =>
        match resolveTargets resolver targets with
        | .error failure => .stopped (extracted.stop failure)
        | .ok (closures, missing) =>
          if missing = "" then .resolved extracted closures
          else if TapID.isCore missing ∨
              maxTaps ≤ extracted.catalogs.keys.length + extracted.pending.length then
            .stopped (extracted.stop (policyFailure "dependency closure exceeds the tap limit"))
          else
            .extended { extracted with
              pending := extracted.pending.insert missing
              rounds := extracted.rounds + 1 }

/-! ## The generation -/

/-- The loop, for as many rounds as there is fuel. -/
def discover (core : CoreSnapshot) (targets : List PlatformRequest) :
    Nat → Progress → Option (Except Stopped (Progress × List ClosureResult))
  | 0, _ => none
  | fuel + 1, progress =>
    match round components core targets progress with
    | .stopped stopped => some (.error stopped)
    | .resolved resolved closures => some (.ok (resolved, closures))
    | .extended extended => discover core targets fuel extended

/-- The result of one target. -/
def platformResult (request : Request) (core : CoreSnapshot) (catalogs : Table TapID TapCatalog)
    (target : PlatformRequest × ClosureResult) : Except Catalog.Failure PlatformResult := do
  let artifacts ← target.2.nodes.mapM fun node =>
    match components.build request core catalogs node target.1.platform with
    | .ok artifact => Except.ok artifact
    | .error cause => .error (classifyArtifactError node.id cause)
  let result : PlatformResult := {
    platform := target.1.platform, closure := target.2,
    artifacts := sortByKey BottleArtifact.id artifacts }
  match components.validatePlatformResult result with
  | .ok _ => return result
  | .error _ => throw (policyFailure "generated platform result is invalid")

/-- How a generation ends. -/
structure Outcome where
  extensions : Nat
  result : Except Catalog.Failure GeneratedSet

/-- The taps of the external roots, each of them once. -/
def rootTaps (targets : List PlatformRequest) : List TapID :=
  ((targets.flatMap PlatformRequest.roots).map FormulaID.tap).dedup

/-- `Generate` after the checks of the request. -/
def generateFor (fuel : Nat) (request : Request) (core : CoreSnapshot)
    (targets : List PlatformRequest) : Option Outcome :=
  if maxTaps < (rootTaps targets).length then
    some ⟨0, .error (policyFailure "catalog request exceeds the tap limit")⟩
  else
    match discover components core targets fuel { pending := rootTaps targets } with
    | none => none
    | some (.error stopped) => some ⟨stopped.extensions, .error stopped.failure⟩
    | some (.ok (progress, closures)) =>
      some ⟨progress.extensions, do
        let results ← (targets.zip closures).mapM
          (platformResult components request core progress.catalogs)
        return {
          catalogs := sortByKey (fun document => document.tap.id) progress.catalogs.values
          results }⟩

/-- `Generator.Generate`; the answer is missing if the loop runs out of fuel. -/
def generate (fuel : Nat) (request : Request) : Option Outcome :=
  match validateRequest request with
  | .error _ => some ⟨0, .error (policyFailure "catalog request is invalid")⟩
  | .ok _ =>
    match components.snapshot request with
    | .error cause => some ⟨0, .error (classifyGenerationError cause)⟩
    | .ok core =>
      if core.digest ≠ request.coreSnapshotDigest then
        some ⟨0, .error (policyFailure "verified core snapshot does not match the request")⟩
      else
        match normalizedTargets request with
        | .error _ => some ⟨0, .error (policyFailure "catalog request is invalid")⟩
        | .ok targets => generateFor components fuel request core targets

end Model

end DalecHomebrew.CatalogGenerator
