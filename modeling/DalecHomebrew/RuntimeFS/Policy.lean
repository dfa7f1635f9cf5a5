import DalecHomebrew.Foundation.Lexicographic
import DalecHomebrew.RuntimeFS.Paths

/-!
# Normalized runtime policies

The policy of one scan, which `normalizeOptionsUnchecked` of `internal/runtimefs` makes
from the resolution record and the allowlist of the caller.  What the normalization
establishes is carried by the types of its results, and the functions that establish it
are modelled.  The index of the resolved nodes has every node under its own name; a rule
set has no two nested rules with different owners or different write permissions.
-/

namespace DalecHomebrew.RuntimeFS

open Foundation Foundation.GoString Foundation.GoPath
open Resolution (Node Record)

/-! ## Names of the pruning policy -/

def runtimePrunePythonTestsV1 : String := "transitive-core-python-stdlib-tests-v1"
def runtimeRetainToolchainDevV1 : String := "transitive-core-toolchain-development-retention-v1"

/-- `MinimalV1RuntimePruneRules`. -/
def minimalV1RuntimePruneRules : List String :=
  ["transitive-core-build-metadata-v1", "transitive-core-headers-v1", "transitive-core-man-info-v1",
    runtimePrunePythonTestsV1,
    "transitive-core-shell-completions-v1",
    "transitive-core-static-archives-v1",
    runtimeRetainToolchainDevV1]

/-! ## Rules -/

structure NormalizedRule where
  path : String
  package : String
  writable : Bool := false
  required : Bool := false
deriving DecidableEq

/-- Rules of which a longer one never overrides the owner or the write permission
of a shorter one that contains it. -/
structure RuleSet where
  rules : List NormalizedRule
  nested : ∀ outer ∈ rules, ∀ inner ∈ rules, isWithin inner.path outer.path = true →
    outer.package = inner.package ∧ outer.writable = inner.writable

def RuleSet.empty : RuleSet where
  rules := []
  nested := by simp

/-- Rules for the paths at or below one directory. -/
structure StateRules (root : String) extends RuleSet where
  below : ∀ rule ∈ rules, isWithin rule.path root = true

/-- The longest rule that contains a path; the first of several. -/
def matchingRule (path : String) (rules : List NormalizedRule) : Option NormalizedRule :=
  rules.foldl
    (fun best rule =>
      if isWithin path rule.path = true ∧
          best.all (fun found => byteLength found.path < byteLength rule.path) = true
      then some rule else best)
    none

def isRuleAncestor (path : String) (rules : List NormalizedRule) : Bool :=
  rules.any fun rule => isWithin rule.path path

/-! ## Nodes -/

/-- The resolved nodes under their names.  Names and versions are safe path
components. -/
structure NodeIndex where
  table : Table String Node
  named : ∀ name node, table.lookup name = some node →
    node.name = name ∧ validatePathComponent name = .ok () ∧
      validatePathComponent node.pkgVersion = .ok ()

namespace NodeIndex

def empty : NodeIndex where
  table := ∅
  named := by simp

def lookup (nodes : NodeIndex) (name : String) : Option Node := nodes.table.lookup name

def insert (nodes : NodeIndex) (node : Node) (name : validatePathComponent node.name = .ok ())
    (version : validatePathComponent node.pkgVersion = .ok ()) :
    NodeIndex where
  table := nodes.table.insert node.name node
  named := by
    intro wanted found lookup
    rcases Table.lookup_insert_eq_some.mp lookup with ⟨rfl, rfl⟩ | ⟨_, old⟩
    · exact ⟨rfl, name, version⟩
    · exact nodes.named wanted found old

theorem name_ne_empty (nodes : NodeIndex) {name : String} {node : Node}
    (found : nodes.lookup name = some node) : name ≠ "" := by
  rintro rfl
  have valid := (nodes.named "" node found).2.1
  simp [validatePathComponent] at valid

end NodeIndex

/-- Enters one node of the record. -/
def addNode (nodes : NodeIndex) (node : Node) : Except RuntimeError NodeIndex :=
  match name : validatePathComponent node.name with
  | .error cause => runtimeError .invalidRecord node.name ("unsafe Formula name: " ++ cause)
  | .ok () =>
    match version : validatePathComponent node.pkgVersion with
    | .error cause =>
      runtimeError .invalidRecord node.pkgVersion
        ("unsafe PkgVersion for " ++ quote node.name ++ ": " ++ cause)
    | .ok () => .ok (nodes.insert node name version)

def packageFromCellarPath (rel : String) (nodes : Table String Node) : String :=
  match splitChar rel '/' with
  | "Cellar" :: rack :: _ => if (nodes.lookup rack).isSome then rack else ""
  | _ => ""

/-- The package and the path inside the keg, for a path of a resolved keg. -/
def kegLocation (rel : String) (nodes : NodeIndex) : Option (String × String) :=
  match splitChar rel '/' with
  | "Cellar" :: rack :: version :: first :: rest =>
    match nodes.lookup rack with
    | none => none
    | some node =>
      if version ≠ node.pkgVersion then none else some (node.name, join (first :: rest) "/")
  | _ => none

/-! ## Policies -/

structure NormalizedAllowlist where
  cellar : Bool
  opt : Bool
  bin : Bool
  sbin : Bool
  lib : Bool
  share : Bool
  pruningProfile : String
  pruningRules : List String
  etc : StateRules "etc"
  var : StateRules "var"
  owners : RuleSet

/-- The directories of the standard library tests, by package. -/
structure TestRoots where
  table : Table String String
  known : ∀ package root, table.lookup package = some root →
    ∃ formulaID, pythonStdlibTestRootForFormulaID formulaID = some root

namespace TestRoots

def empty : TestRoots where
  table := ∅
  known := by simp

def lookup (roots : TestRoots) (package : String) : Option String := roots.table.lookup package

def insert (roots : TestRoots) (package : String) {formulaID root : String}
    (known : pythonStdlibTestRootForFormulaID formulaID = some root) : TestRoots where
  table := roots.table.insert package root
  known := by
    intro wanted found lookup
    rcases Table.lookup_insert_eq_some.mp lookup with ⟨rfl, rfl⟩ | ⟨_, old⟩
    · exact ⟨formulaID, known⟩
    · exact roots.known wanted found old

end TestRoots

structure NormalizedPolicy where
  installPrefix : String
  architecture : String
  allowlist : NormalizedAllowlist
  digest : String
  nodes : NodeIndex
  requested : List String
  pythonTests : TestRoots
  toolchainDev : List String
  writable : List String

/-- The policy embedded in the release. -/
structure PolicyLibrary where
  hasEmbeddedRule : String → String → Bool

def globalRootEnabled (root : String) (allowlist : NormalizedAllowlist) : Bool :=
  if root = "bin" then allowlist.bin
  else if root = "sbin" then allowlist.sbin
  else if root = "lib" then allowlist.lib
  else if root = "share" then allowlist.share
  else false

/-! ## Normalization -/

def normalizeRulePath (value root installPrefix : String) : Except String String := do
  let value :=
    trimSpace (String.ofList (value.toList.map fun character =>
      if character = '\\' then '/' else character))
  if value = "" then throw "empty path rule"
  let value ←
    if hasPrefix value "/" then
      if value = installPrefix then throw "rule cannot approve the entire prefix"
      else if hasPrefix value (installPrefix ++ "/") = false then
        throw ("absolute path is outside install prefix " ++ quote installPrefix)
      else pure (trimPrefix value (installPrefix ++ "/"))
    else if root ≠ "" ∧ value ≠ root ∧ hasPrefix value (root ++ "/") = false then
      pure (root ++ "/" ++ value)
    else pure value
  if clean value = "." ∨ clean value = ".." ∨ hasPrefix (clean value) "../" = true ∨
      hasPrefix (clean value) "/" = true then
    throw ("unsafe path rule " ++ quote value)
  validateRelativePath (clean value)
  return clean value

/-- The rules entered so far, each one under its path. -/
structure RuleTable where
  seen : Table String NormalizedRule
  rules : List NormalizedRule
  entered : ∀ rule ∈ rules, seen.lookup rule.path = some rule

namespace RuleTable

def empty : RuleTable where
  seen := ∅
  rules := []
  entered := by simp

def insert (table : RuleTable) (rule : NormalizedRule) (fresh : table.seen.lookup rule.path = none) :
    RuleTable where
  seen := table.seen.insert rule.path rule
  rules := table.rules ++ [rule]
  entered := by
    intro other member
    rcases List.mem_append.mp member with earlier | last
    · have found := table.entered other earlier
      have apart : other.path ≠ rule.path := by
        intro same
        rw [same, fresh] at found
        cases found
      rw [AList.lookup_insert_ne apart, found]
    · rw [List.mem_singleton.mp last, AList.lookup_insert]

/-- Enters a rule whose path is new.  The same rule again is dropped. -/
def add (table : RuleTable) (rule : NormalizedRule) (raw conflict : String) :
    Except RuntimeError RuleTable :=
  match found : table.seen.lookup rule.path with
  | some previous =>
    if previous ≠ rule then runtimeError .invalidOptions raw conflict else .ok table
  | none => .ok (table.insert rule found)

theorem mem_of_add {table next : RuleTable} {rule other : NormalizedRule} {raw conflict : String}
    (added : table.add rule raw conflict = .ok next) (member : other ∈ next.rules) :
    other ∈ table.rules ∨ other = rule := by
  unfold add at added
  split at added
  · simp only [runtimeError, ite_error_eq_ok, Except.ok.injEq] at added
    rw [← added.2] at member
    exact .inl member
  · cases added
    simpa [insert] using member

theorem eq_of_path_eq (table : RuleTable) {left right : NormalizedRule}
    (leftMember : left ∈ table.rules) (rightMember : right ∈ table.rules)
    (same : left.path = right.path) : left = right := by
  have first := table.entered left leftMember
  rw [same, table.entered right rightMember] at first
  exact (Option.some.inj first).symm

end RuleTable

/-- The order of `sortRules`: path, package, and unwritable rules first. -/
def ruleKey (rule : NormalizedRule) : List String :=
  [rule.path, rule.package, if rule.writable then "1" else "0"]

def sortRules (rules : List NormalizedRule) : List NormalizedRule :=
  sortByKey ruleKey rules

/-- Whether `validateRuleOverlaps` accepts a rule that comes after another one. -/
def NormalizedRule.accepts (outer inner : NormalizedRule) : Bool :=
  !isWithin inner.path outer.path ||
    (outer.package = inner.package && outer.writable = inner.writable)

/-- The first pair that `validateRuleOverlaps` rejects. -/
def overlap : List NormalizedRule → Option (NormalizedRule × NormalizedRule)
  | [] => none
  | outer :: rest =>
    match rest.find? fun inner => !outer.accepts inner with
    | some inner => some (outer, inner)
    | none => overlap rest

theorem pairwise_of_overlap {rules : List NormalizedRule} (absent : overlap rules = none) :
    rules.Pairwise fun outer inner => outer.accepts inner = true := by
  induction rules with
  | nil => exact List.Pairwise.nil
  | cons outer rest ih =>
    unfold overlap at absent
    split at absent
    · cases absent
    · rename_i accepted
      refine List.pairwise_cons.mpr ⟨?_, ih absent⟩
      intro inner member
      simpa using List.find?_eq_none.mp accepted inner member

theorem path_le_of_ruleKey_le {left right : NormalizedRule} (below : ruleKey left ≤ ruleKey right) :
    left.path ≤ right.path := by
  simp only [ruleKey] at below
  rcases lt_or_ge right.path left.path with above | kept
  · exact absurd (List.Lex.rel above) (not_lt_of_ge below)
  · exact kept

theorem le_of_isWithin {path root : String} (within : isWithin path root = true) : root ≤ path := by
  simp only [isWithin, decide_eq_true_eq] at within
  rcases within with rfl | below
  · exact le_refl _
  · rw [eq_append_of_hasPrefix below, String.append_assoc]
    exact Lexicographic.le_append root _

/-- In the order of the paths only the later of two rules can be inside the other,
so that the pairs `validateRuleOverlaps` looks at are all nested pairs. -/
theorem nested_of_overlap {table : RuleTable} (absent : overlap (sortRules table.rules) = none) :
    ∀ outer ∈ sortRules table.rules, ∀ inner ∈ sortRules table.rules,
      isWithin inner.path outer.path = true →
        outer.package = inner.package ∧ outer.writable = inner.writable := by
  have ordered : (sortRules table.rules).Pairwise fun outer inner =>
      outer.accepts inner = true ∧ ruleKey outer ≤ ruleKey inner :=
    (pairwise_of_overlap absent).and (sortByKey_pairwise ruleKey table.rules)
  let related (left right : NormalizedRule) : Prop :=
    (left.accepts right = true ∧ ruleKey left ≤ ruleKey right) ∨
      (right.accepts left = true ∧ ruleKey right ≤ ruleKey left)
  have symmetric : Std.Symm related := ⟨fun _ _ => Or.symm⟩
  have either : (sortRules table.rules).Pairwise related := ordered.imp .inl
  intro outer outerMember inner innerMember within
  by_cases same : outer = inner
  · subst same
    exact ⟨rfl, rfl⟩
  rcases either.forall outerMember innerMember same with
    ⟨accepted, _⟩ | ⟨_, below⟩
  · simpa [NormalizedRule.accepts, within] using accepted
  · have path : inner.path = outer.path :=
      le_antisymm (path_le_of_ruleKey_le below) (le_of_isWithin within)
    exact absurd (table.eq_of_path_eq (mem_sortByKey.mp outerMember)
      (mem_sortByKey.mp innerMember) path.symm) same

/-- `sortRules` and `validateRuleOverlaps`. -/
def RuleTable.finish (table : RuleTable) : Except RuntimeError RuleSet :=
  match absent : overlap (sortRules table.rules) with
  | some (outer, inner) =>
    runtimeError .invalidOptions inner.path
      ("overlaps " ++ quote outer.path ++ " with different ownership policy")
  | none => .ok ⟨sortRules table.rules, nested_of_overlap absent⟩

theorem RuleTable.mem_of_finish {table : RuleTable} {rules : RuleSet} {rule : NormalizedRule}
    (finished : table.finish = .ok rules) (member : rule ∈ rules.rules) : rule ∈ table.rules := by
  unfold RuleTable.finish at finished
  split at finished
  · cases finished
  · cases finished
    exact mem_sortByKey.mp member

/-- One rule of an `etc` or `var` group. -/
def normalizeRule (root installPrefix : String) (nodes : NodeIndex) (allowWritable : Bool)
    (table : RuleTable) (rule : PathRule) :
    Except RuntimeError RuleTable := do
  match normalizeRulePath rule.path root installPrefix with
  | .error cause => runtimeError .invalidOptions rule.path cause
  | .ok path =>
    if isWithin path root = false then
      runtimeError .invalidOptions rule.path ("path must be below " ++ root)
    else if (nodes.lookup rule.package).isNone then
      runtimeError .invalidOptions rule.path ("unknown package " ++ quote rule.package)
    else if rule.writable = true ∧ allowWritable = false then
      runtimeError .invalidOptions rule.path "only var paths may be writable"
    else
      table.add ⟨path, rule.package, rule.writable, rule.required⟩ rule.path
        "conflicting duplicate path rule"

theorem normalizeRule_below {root installPrefix : String} {nodes : NodeIndex}
    {allowWritable : Bool} {table next : RuleTable} {rule : PathRule}
    (below : ∀ rule ∈ table.rules, isWithin rule.path root = true)
    (entered : normalizeRule root installPrefix nodes allowWritable table rule = .ok next) :
    ∀ rule ∈ next.rules, isWithin rule.path root = true := by
  unfold normalizeRule at entered
  split at entered
  · cases entered
  rename_i path _
  simp only [runtimeError, ite_error_eq_ok] at entered
  obtain ⟨inside, _, _, added⟩ := entered
  intro other member
  rcases RuleTable.mem_of_add added member with earlier | rfl
  · exact below other earlier
  · simpa using inside

/-- The rules of the group for one directory. -/
def normalizeRules (input : List PathRule) (root installPrefix : String) (nodes : NodeIndex)
    (allowWritable : Bool) :
    Except RuntimeError (StateRules root) :=
  match collected : input.foldlM (normalizeRule root installPrefix nodes allowWritable)
      RuleTable.empty with
  | .error failure => .error failure
  | .ok table =>
    match finished : table.finish with
    | .error failure => .error failure
    | .ok rules => .ok
        { rules with
          below := by
            intro rule member
            refine foldlM_preserves (motive := fun table : RuleTable =>
              ∀ rule ∈ table.rules, isWithin rule.path root = true)
              (fun _ _ _ _ => normalizeRule_below) collected ?_ rule
              (RuleTable.mem_of_finish finished member)
            intro rule absent
            cases absent }

/-- One rule that attributes paths below a global root. -/
def normalizeOwnerRule (installPrefix : String) (nodes : NodeIndex) (enabled : String → Bool)
    (table : RuleTable) (rule : PathRule) :
    Except RuntimeError RuleTable := do
  match normalizeRulePath rule.path "" installPrefix with
  | .error cause => runtimeError .invalidOptions rule.path cause
  | .ok path =>
    if enabled (firstSegment path) = false then
      runtimeError .invalidOptions rule.path
        "owner override is not below an enabled global root"
    else if (nodes.lookup rule.package).isNone then
      runtimeError .invalidOptions rule.path ("unknown package " ++ quote rule.package)
    else if rule.writable then
      runtimeError .invalidOptions rule.path "global owner rules cannot be writable"
    else
      table.add ⟨path, rule.package, false, rule.required⟩ rule.path
        "conflicting duplicate owner rule"

def normalizeOwnerRules (input : List PathRule) (installPrefix : String) (nodes : NodeIndex)
    (allowlist : NormalizedAllowlist) :
    Except RuntimeError RuleSet := do
  let enabled := fun root => globalRootEnabled root allowlist
  let table ← input.foldlM (normalizeOwnerRule installPrefix nodes enabled) RuleTable.empty
  table.finish

end DalecHomebrew.RuntimeFS
