import DalecHomebrew.Catalog.Identity
import DalecHomebrew.Foundation.Container
import DalecHomebrew.Foundation.DepthFirst
import DalecHomebrew.Foundation.Findings

/-!
# Validation of closures

The part of `internal/catalog/validate.go` that every closure has to pass.  A
validator collects the texts of its findings and joins them, so that `.ok`
means that there was none.  The source also rejects nil slices, which a list
cannot be.
-/

namespace DalecHomebrew.Catalog

open Foundation Foundation.GoString Homebrew

/-- `MaxFormulaIDBytes` of the package, a little more than the one of the identity parser. -/
def maxFormulaIDBytes : Nat := 39 + 1 + 91 + 1 + 255

def hasControl (value : String) : Bool := value.toList.any isControl

/-- `Platform.Validate`: the two supported Linux targets. -/
def Platform.validate (platform : Platform) : Except String Unit :=
  if platform.os ≠ "linux" ∨ (platform.architecture ≠ "amd64" ∧ platform.architecture ≠ "arm64") ∨
      platform.variant ≠ "" then
    .error ("unsupported platform " ++ platform.os ++ "/" ++ platform.architecture ++ " variant " ++
      quote platform.variant)
  else .ok ()

/-- `validateFormulaName` of the package: a name of a core Formula. -/
def validateRackName (value : String) : Except String Unit :=
  (newFormulaID coreTap value).map fun _ => ()

/-! ## Dependencies and nodes -/

/-- The findings of `validateDependencies` about the spelling of one entry. -/
def rawFindings (dependency : Dependency) (owner : TapID) (index : Nat) : List String :=
  if dependency.raw = "" ∨ hasControl dependency.raw ∨
      Catalog.maxFormulaIDBytes < byteLength dependency.raw then
    [indexed "" index ++ ".raw is empty, overlong, or contains control characters"]
  else
    match countChar dependency.raw '/' with
    | 0 =>
      nested (indexed "" index ++ ".raw") (validateRackName dependency.raw) ++
      finding (dependency.raw != FormulaID.name dependency.id)
        (indexed "" index ++ " bare dependency " ++ quote dependency.raw ++
          " does not match normalized Formula name " ++ quote (FormulaID.name dependency.id)) ++
      finding (FormulaID.tap dependency.id != "homebrew/core" &&
          FormulaID.tap dependency.id != owner)
        (indexed "" index ++ " bare dependency " ++ quote dependency.raw ++
          " normalizes to unrelated tap " ++ quote (FormulaID.tap dependency.id))
    | 2 =>
      match parseFormulaID dependency.raw with
      | .error message => [indexed "" index ++ ".raw: " ++ message]
      | .ok parsed =>
        finding (parsed != dependency.id)
          (indexed "" index ++ ".raw " ++ quote dependency.raw ++
            " does not match normalized dependency " ++ quote dependency.id)
    | _ =>
      [indexed "" index ++ ".raw " ++ quote dependency.raw ++ " is neither bare nor fully qualified"]

def validateDependencies (dependencies : List Dependency) (owner : TapID) : Except String Unit :=
  joinErrors (dependencies.zipIdx.flatMap fun (dependency, index) =>
    nested (indexed "" index ++ ".id") (FormulaID.validate dependency.id) ++
    rawFindings dependency owner index ++
    finding ((dependencies.take index).any fun earlier => earlier.id == dependency.id)
      ("duplicate normalized dependency " ++ quote dependency.id))

def validateRequirement (requirement : Requirement) (owner : TapID) : Except String Unit :=
  joinErrors (
    (match validateDependencies [{ raw := requirement.raw, id := requirement.id }] owner with
      | .ok _ => []
      | .error message => [message]) ++
    finding (requirement.minimumRevision < 0 || requirement.minimumBottleRebuild < 0)
      "minimum_revision and minimum_bottle_rebuild must be non-negative" ++
    finding (hasControl requirement.minimumPkgVersion)
      "minimum_pkg_version cannot contain control characters")

def validateNode (node : Node) : Except String Unit :=
  joinErrors (
    nested "id" (FormulaID.validate node.id) ++
    nested "tap" (TapID.validate node.tap) ++
    finding (node.tap != FormulaID.tap node.id)
      ("tap " ++ quote node.tap ++ " does not match Formula ID " ++ quote node.id) ++
    nested "name" (validateRackName node.name) ++
    finding (node.name != FormulaID.name node.id)
      ("name " ++ quote node.name ++ " does not match Formula ID " ++ quote node.id) ++
    finding (node.homebrewFullName != node.id)
      ("homebrew_full_name " ++ quote node.homebrewFullName ++ " does not match Formula ID " ++
        quote node.id) ++
    finding (isBlank node.formulaVersion || isBlank node.pkgVersion ||
        hasControl node.formulaVersion || hasControl node.pkgVersion)
      "formula_version and pkg_version are required and cannot contain control characters" ++
    finding (node.formulaRevision < 0 || node.versionScheme < 0 || node.bottleRebuild < 0)
      "formula_revision, version_scheme, and bottle_rebuild must be non-negative" ++
    finding (hasControl node.license) "license cannot contain control characters" ++
    node.dependencies.zipIdx.flatMap fun (dependency, index) =>
      nested (indexed "dependencies" index) (validateRequirement dependency node.tap) ++
      finding (dependency.id == node.id) ("node " ++ quote node.id ++ " depends on itself") ++
      finding ((node.dependencies.take index).any fun earlier => earlier.id == dependency.id)
        ("duplicate dependency " ++ quote dependency.id))

/-! ## Closures -/

variable (closure : ClosureResult)

/-- The `nodes` map of the validator: the last node of an identity. -/
def ClosureResult.node? (id : FormulaID) : Option Node :=
  closure.nodes.reverse.find? fun node => node.id == id

def ClosureResult.mappings : List RequestedMapping :=
  closure.requestedMappings.getD
    (closure.requested.map fun id => { requested := id, resolved := id })

def normalizedClosureTaps : List TapID :=
  match closure.normalizationTaps with
  | some taps => taps
  | none =>
    sortByKey id ((closure.nodes.filter fun node => !FormulaID.isCore node.id).map Node.tap).dedup

/-- The findings about single nodes and about the rack names they share. -/
def nodeFindings : List String :=
  closure.nodes.zipIdx.flatMap fun (node, index) =>
    let earlier := closure.nodes.take index
    nested (indexed "nodes" index) (validateNode node) ++
    finding (earlier.any fun other => other.id == node.id)
      ("duplicate closure node " ++ quote node.id) ++
    match earlier.reverse.find? fun other => other.name == node.name with
    | some prior =>
      finding (prior.id != node.id)
        ("closure nodes " ++ quote prior.id ++ " and " ++ quote node.id ++ " share rack name " ++
          quote node.name)
    | none => []

def requestedFindings : List String :=
  closure.requested.zipIdx.flatMap fun (root, index) =>
    nested (indexed "requested" index) (FormulaID.validate root) ++
    finding ((closure.requested.take index).contains root)
      ("duplicate requested root " ++ quote root) ++
    finding (closure.node? root).isNone
      ("requested root " ++ quote root ++ " has no closure node")

def mappingFindings : List String :=
  finding (closure.mappings.length != closure.requested.length)
    "requested_mappings must have one entry per canonical requested root" ++
  (closure.mappings.zipIdx.flatMap fun (mapping, index) =>
    let earlier := closure.mappings.take index
    nested (indexed "requested_mappings" index ++ ".requested")
      (FormulaID.validate mapping.requested) ++
    nested (indexed "requested_mappings" index ++ ".resolved")
      (FormulaID.validate mapping.resolved) ++
    finding (earlier.any fun other => other.requested == mapping.requested)
      ("duplicate requested mapping source " ++ quote mapping.requested) ++
    finding (earlier.any fun other => other.resolved == mapping.resolved)
      ("duplicate canonical requested root " ++ quote mapping.resolved)) ++
  closure.requested.dedup.flatMap fun id =>
    finding (!closure.mappings.any fun mapping => mapping.resolved == id)
      ("canonical requested root " ++ quote id ++ " has no requested mapping")

def normalizationFindings : List String :=
  let taps := normalizedClosureTaps closure
  (taps.zipIdx.flatMap fun (tap, index) =>
    finding (TapID.isCore tap || (match TapID.validate tap with | .ok _ => false | .error _ => true))
      (indexed "normalization_taps" index ++ " is invalid") ++
    finding ((taps.take index).contains tap) ("duplicate normalization tap " ++ quote tap)) ++
  (closure.mappings.flatMap fun mapping =>
    finding (!FormulaID.isCore mapping.requested && !taps.contains (FormulaID.tap mapping.requested))
      ("requested mapping source tap " ++ quote (FormulaID.tap mapping.requested) ++
        " is absent from normalization_taps")) ++
  closure.nodes.flatMap fun node =>
    finding (!FormulaID.isCore node.id && !taps.contains node.tap)
      ("non-core node " ++ quote node.id ++ " tap " ++ quote node.tap ++
        " is absent from normalization_taps") ++
    node.dependencies.flatMap fun dependency =>
      (if containsChar dependency.raw '/' then
        match parseFormulaID dependency.raw with
        | .ok rawID =>
          finding (!FormulaID.isCore rawID && !taps.contains (FormulaID.tap rawID))
            ("dependency source tap " ++ quote (FormulaID.tap rawID) ++
              " is absent from normalization_taps")
        | .error _ => []
      else []) ++
      finding (closure.node? dependency.id).isNone
        ("node " ++ quote node.id ++ " dependency " ++ quote dependency.id ++ " is missing")

/-- The `position` map of the validator: the last index of an identity. -/
def ClosureResult.position (id : FormulaID) : Option Nat :=
  (closure.installOrder.zipIdx.reverse.find? fun (entry, _) => entry == id).map Prod.snd

def installOrderFindings : List String :=
  let identities := (closure.nodes.map Node.id).dedup
  finding (closure.installOrder.length != identities.length)
    ("install_order has " ++ decimal closure.installOrder.length ++ " entries for " ++
      decimal identities.length ++ " nodes") ++
  (closure.installOrder.zipIdx.flatMap fun (id, index) =>
    nested (indexed "install_order" index) (FormulaID.validate id) ++
    finding (closure.node? id).isNone ("install_order references unknown node " ++ quote id) ++
    finding ((closure.installOrder.take index).contains id)
      ("duplicate install_order entry " ++ quote id)) ++
  closure.nodes.flatMap fun node =>
    match closure.position node.id with
    | none => ["install_order omits node " ++ quote node.id]
    | some nodePosition =>
      node.dependencies.flatMap fun dependency =>
        finding ((closure.position dependency.id).all fun dependencyPosition =>
            nodePosition ≤ dependencyPosition)
          ("install_order places " ++ quote node.id ++ " before dependency " ++ quote dependency.id)

/-- The state of the validator's own traversal. -/
structure Reach where
  marks : FormulaID → DepthFirst.Mark
  reachable : List FormulaID
  findings : List String

/--
The validator's traversal.  Unlike the one that orders the closure it goes on
after an edge back into the stack.  Its depth is at most the number of
identities on the stack, so that the depth chosen below is never used up.
-/
def reach (closure : ClosureResult) : Nat → Reach → FormulaID → Reach
  | 0, state, _ => state
  | depth + 1, state, id =>
    match state.marks id with
    | .active =>
      { state with findings := state.findings ++ ["dependency cycle reaches " ++ quote id] }
    | .done => { state with reachable := id :: state.reachable }
    | .fresh =>
      let entered : Reach :=
        { state with
          marks := Function.update state.marks id .active
          reachable := id :: state.reachable }
      let dependencies := ((closure.node? id).map Node.dependencies).getD []
      let visited := (dependencies.map Requirement.id).foldl (reach closure depth) entered
      { visited with marks := Function.update visited.marks id .done }

def reachabilityFindings : List String :=
  let identities := closure.requested ++ closure.nodes.flatMap fun node =>
    node.id :: node.dependencies.map Requirement.id
  let visited := closure.requested.foldl (reach closure (identities.length + 1))
    { marks := fun _ => .fresh, reachable := [], findings := [] }
  visited.findings ++ closure.nodes.flatMap fun node =>
    finding (!visited.reachable.contains node.id)
      ("closure node " ++ quote node.id ++ " is unreachable from requested roots")

/-- `ValidateClosureResult`. -/
def validateClosureResult : Except String Unit :=
  let tooMany := finding (maxClosureNodes < closure.nodes.length)
    ("nodes has " ++ decimal closure.nodes.length ++ " entries, limit is " ++
      decimal maxClosureNodes)
  if closure.requested = [] ∨ closure.nodes = [] then
    joinErrors (tooMany ++
      finding (closure.requested != [] || closure.nodes != [] || closure.installOrder != [] ||
          (closure.requestedMappings.getD []) != [] || (closure.normalizationTaps.getD []) != [])
        ("empty requested roots require empty mappings, normalization taps, nodes, and install " ++
          "order"))
  else
    joinErrors (tooMany ++ nodeFindings closure ++ requestedFindings closure ++
      mappingFindings closure ++ normalizationFindings closure ++ installOrderFindings closure ++
      reachabilityFindings closure)

end DalecHomebrew.Catalog
