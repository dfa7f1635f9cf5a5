import DalecHomebrew.Catalog.TapCatalog
import Mathlib.Data.List.Dedup

/-!
# Catalog-set requests

`ValidateRequest` and `Request.NormalizedTargets` of
`internal/catalog/validate.go`: which bindings of platforms to roots a request
carries, and the order in which the generator works on them.
-/

namespace DalecHomebrew.Catalog

open Foundation Foundation.GoString Homebrew

/-- `Platform.key`. -/
def Platform.key (platform : Platform) : String := platform.os ++ "/" ++ platform.architecture

/-- The external roots of a target; a nil slice has none. -/
def PlatformRequest.roots (target : PlatformRequest) : List FormulaID :=
  target.externalRoots.getD []

/-- `normalizedRequestTargets`; a nil slice of targets is an empty one. -/
def normalizedRequestTargets (request : Request) : Except String (List PlatformRequest) :=
  if request.targets ≠ [] then
    if request.platforms ≠ [] ∨ request.externalRoots ≠ [] then
      .error "request cannot mix targets with legacy platforms/external_roots fields"
    else .ok request.targets
  else if request.platforms = [] ∧ request.externalRoots = [] then .ok []
  else if request.platforms = [] ∨ request.externalRoots = [] then
    .error "legacy request compatibility requires both platforms and external_roots"
  else
    .ok (request.platforms.map fun platform =>
      { platform, externalRoots := some request.externalRoots })

/-- The findings about one list of roots; `core` says to which side they have to belong. -/
def rootFindings (target : PlatformRequest) (field wrongTap duplicate : String) (core : Bool)
    (targetIndex : Nat) (roots : List FormulaID) :
    List String :=
  roots.zipIdx.flatMap fun (id, rootIndex) =>
    let label := indexed "targets" targetIndex ++ "." ++ indexed field rootIndex
    match FormulaID.validate id with
    | .error message => [label ++ ": " ++ message]
    | .ok _ =>
      finding (FormulaID.isCore id != core) (label ++ " " ++ quote id ++ " " ++ wrongTap) ++
      finding ((roots.take rootIndex).contains id)
        ("duplicate " ++ duplicate ++ " root " ++ quote id ++ " for platform " ++
          target.platform.key)

def targetFindings (earlier : List PlatformRequest) (index : Nat) (target : PlatformRequest) :
    List String :=
  (match target.platform.validate with
    | .error message => [indexed "targets" index ++ ".platform: " ++ message]
    | .ok _ =>
      finding (earlier.any fun other => other.platform.validate.toBool &&
          other.platform.key == target.platform.key)
        ("duplicate target platform " ++ target.platform.key)) ++
  finding target.externalRoots.isNone
    (indexed "targets" index ++ ".external_roots must be an array") ++
  rootFindings target "external_roots" "belongs to homebrew/core" "external" false index
    target.roots ++
  rootFindings target "core_roots" "is not homebrew/core" "core" true index target.coreRoots

/-- The roots that the validator has seen and accepted as identities. -/
def seenRoots (targets : List PlatformRequest) : List FormulaID :=
  ((targets.flatMap fun target => target.roots ++ target.coreRoots).filter fun id =>
    (FormulaID.validate id).toBool).dedup

/-- The taps of the external roots that the validator has seen. -/
def seenTaps (targets : List PlatformRequest) : List TapID :=
  (((targets.flatMap PlatformRequest.roots).filter fun id =>
    (FormulaID.validate id).toBool).map FormulaID.tap).dedup

/-- `ValidateRequest`. -/
def validateRequest (request : Request) : Except String Unit :=
  let targets := (normalizedRequestTargets request).toOption.getD []
  joinErrors (
    finding (request.schemaVersion != requestSchemaVersion)
      ("unsupported schema_version " ++ quote request.schemaVersion) ++
    reported ((normalizedRequestTargets request).map fun _ => ()) ++
    finding (targets == []) "targets must be a non-empty array" ++
    finding (2 < targets.length)
      ("targets has " ++ decimal targets.length ++ " entries, limit is 2") ++
    (targets.zipIdx.flatMap fun (target, index) =>
      targetFindings (targets.take index) index target) ++
    finding ((targets.flatMap PlatformRequest.roots) == [])
      "request has no external roots for any target" ++
    finding (maxClosureNodes < (seenRoots targets).length)
      ("request has " ++ decimal (seenRoots targets).length ++ " unique roots, limit is " ++
        decimal maxClosureNodes) ++
    finding (maxTaps < (seenTaps targets).length)
      ("request reaches " ++ decimal (seenTaps targets).length ++ " root taps, limit is " ++
        decimal maxTaps) ++
    nested "homebrew_commit" (validateCommit request.homebrewCommit) ++
    nested "core_snapshot_digest" (validateSHA256Digest request.coreSnapshotDigest))

/-- `comparePlatform` orders by the three fields. -/
def platformSortKey (platform : Platform) : List String :=
  [platform.os, platform.architecture, platform.variant]

/-- `Request.NormalizedTargets`. -/
def normalizedTargets (request : Request) : Except String (List PlatformRequest) := do
  validateRequest request
  let targets ← normalizedRequestTargets request
  return sortByKey (fun target => platformSortKey target.platform) (targets.map fun target =>
    { target with
      externalRoots := target.externalRoots.map (sortByKey fun id => id)
      coreRoots := sortByKey (fun id => id) target.coreRoots })

end DalecHomebrew.Catalog
