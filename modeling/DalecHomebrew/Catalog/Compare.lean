import DalecHomebrew.Catalog.Accepted
import Mathlib.Data.Countable.Basic
import Mathlib.Data.Prod.Lex
import Mathlib.Logic.Equiv.List
import Mathlib.Tactic.DeriveCountable

/-!
# Canonical closures

`CanonicalClosureResult` and `CompareClosure` of `internal/catalog`.  Two
closures are compared by the bytes of their canonical forms, in which everything
but the install order is sorted.

`ClosureResult.unordered` is what a comparison should be about: the lists whose
order means nothing as multisets.  `compareClosure_exact` says that it is.
-/

namespace DalecHomebrew.Catalog

open Foundation

/-- The JSON encoder, which does not fail on closures, and the digest of its bytes. -/
structure ClosureCodec where
  encode : ClosureResult → String
  digest : String → String

/--
`cloneValue`.  The tag `omitempty` of the field turns an empty list of taps into
an absent one; everything else is read back as it was written.
-/
def cloneClosure (closure : ClosureResult) : ClosureResult :=
  { closure with normalizationTaps := closure.normalizationTaps.filter fun taps => taps != [] }

/-- The taps of a canonical closure; a list that was absent is collected from the nodes. -/
def canonicalTaps (closure : ClosureResult) : Option (List TapID) :=
  match closure.normalizationTaps with
  | some taps => some (sortByKey id taps)
  | none =>
    let seen := ((closure.nodes.filter fun node => !FormulaID.isCore node.id).map Node.tap).dedup
    if seen = [] then none else some (sortByKey id seen)

def canonicalNode (node : Node) : Node :=
  { node with
    dependencies := sortByKey (fun dependency => toLex (dependency.id, dependency.raw))
      node.dependencies }

def canonicalizeClosure (closure : ClosureResult) : ClosureResult where
  requested := sortByKey id closure.requested
  requestedMappings :=
    some (sortByKey (fun mapping => toLex (mapping.requested, mapping.resolved)) closure.mappings)
  normalizationTaps := canonicalTaps closure
  nodes := (sortByKey Node.id closure.nodes).map canonicalNode
  installOrder := closure.installOrder

def canonicalClosureResult (codec : ClosureCodec) (closure : ClosureResult) :
    Except String String := do
  validateClosureResult closure
  let clone := canonicalizeClosure (cloneClosure closure)
  validateClosureResult clone
  return codec.encode clone

def compareClosure (codec : ClosureCodec) (signed recomputed : ClosureResult) :
    Except String Unit := do
  let signedBytes ← withContext "signed closure" (canonicalClosureResult codec signed)
  let recomputedBytes ← withContext "recomputed closure" (canonicalClosureResult codec recomputed)
  if signedBytes ≠ recomputedBytes then
    throw ("closure mismatch: signed " ++ codec.digest signedBytes ++ ", recomputed " ++
      codec.digest recomputedBytes)

/-! ## Closures without the order of their lists -/

/-- A closure in which only the install order is a sequence. -/
structure UnorderedClosure where
  requested : Multiset FormulaID
  requestedMappings : Multiset RequestedMapping
  normalizationTaps : Multiset TapID
  /-- Every node without its dependencies, and these. -/
  nodes : Multiset (Node × Multiset Requirement)
  installOrder : List FormulaID

def Node.unordered (node : Node) : Node × Multiset Requirement :=
  ({ node with dependencies := [] }, node.dependencies)

/-- Absent mappings and taps stand for those that are computed from the closure. -/
def ClosureResult.unordered (closure : ClosureResult) : UnorderedClosure where
  requested := closure.requested
  requestedMappings := closure.mappings
  normalizationTaps := normalizedClosureTaps closure
  nodes := closure.nodes.map Node.unordered
  installOrder := closure.installOrder

section Unordered

variable {left right : ClosureResult}

theorem unordered_eq_iff :
    left.unordered = right.unordered ↔ left.requested.Perm right.requested ∧
      left.mappings.Perm right.mappings ∧
      (normalizedClosureTaps left).Perm (normalizedClosureTaps right) ∧
      (left.nodes.map Node.unordered).Perm (right.nodes.map Node.unordered) ∧
      left.installOrder = right.installOrder := by
  simp only [ClosureResult.unordered, UnorderedClosure.mk.injEq, Multiset.coe_eq_coe]

variable {node other : Node}

theorem Node.unordered_eq_iff :
    node.unordered = other.unordered ↔ { node with dependencies := other.dependencies } = other ∧
        node.dependencies.Perm other.dependencies := by
  obtain ⟨⟩ := node
  obtain ⟨⟩ := other
  simp [Node.unordered, and_assoc]

theorem mem_of_unordered
    (same : (left.nodes.map Node.unordered).Perm (right.nodes.map Node.unordered))
    (member : node ∈ left.nodes) :
    ∃ other ∈ right.nodes, other.unordered = node.unordered :=
  List.mem_map.mp (same.mem_iff.mp (List.mem_map_of_mem member))

/-- A field other than the dependencies has the same values. -/
theorem map_of_unordered {Value : Type} {field : Node → Value}
    (same : (left.nodes.map Node.unordered).Perm (right.nodes.map Node.unordered))
    (kept : ∀ node, field { node with dependencies := [] } = field node) :
    (left.nodes.map field).Perm (right.nodes.map field) := by
  have mapped := same.map fun entry => field entry.1
  simpa only [List.map_map, Function.comp_def, Node.unordered, kept] using mapped

/-! ## Validity does not depend on the order -/

theorem dependencies_nodup_of_validateNode (valid : validateNode node = .ok ()) :
    (node.dependencies.map Requirement.id).Nodup := by
  simp only [validateNode, joinErrors_eq_ok, List.append_eq_nil_iff, List.flatMap_eq_nil_iff,
    finding_eq_nil] at valid
  rw [← forall_zipIdx_fresh]
  exact fun entry member => (valid.2 entry member).2

theorem validateNode_of_unordered (same : node.unordered = other.unordered)
    (valid : validateNode node = .ok ()) : validateNode other = .ok () := by
  obtain ⟨fields, perm⟩ := Node.unordered_eq_iff.mp same
  rw [← fields]
  generalize other.dependencies = dependencies at perm
  simp only [validateNode, joinErrors_eq_ok, List.append_eq_nil_iff, List.flatMap_eq_nil_iff,
    nested_eq_nil, finding_eq_nil, forall_and] at valid ⊢
  have each : ∀ {holds : Requirement → Prop}, (∀ entry ∈ node.dependencies.zipIdx, holds entry.1) →
      ∀ entry ∈ dependencies.zipIdx, holds entry.1 := fun every =>
    forall_zipIdx.mpr fun dependency member =>
      forall_zipIdx.mp every dependency (perm.mem_iff.mpr member)
  refine ⟨valid.1, ⟨?_, ?_⟩, ?_⟩
  · exact @each (fun dependency => validateRequirement dependency node.tap = .ok ()) valid.2.1.1
  · exact @each (fun dependency => (dependency.id == node.id) = false) valid.2.1.2
  · exact forall_zipIdx_fresh.mpr
      ((perm.map Requirement.id).nodup_iff.mp (forall_zipIdx_fresh.mp valid.2.2))

theorem reaches_of_unordered (otherIDs : (right.nodes.map Node.id).Nodup)
    (same : (left.nodes.map Node.unordered).Perm (right.nodes.map Node.unordered))
    {start id : FormulaID} (path : left.Reaches start id) : right.Reaches start id := by
  refine Relation.ReflTransGen.mono (fun id successor edge => ?_) _ _ path
  obtain ⟨node, member, rfl, dependency, listed, rfl⟩ := node_of_successor edge
  obtain ⟨other, among, alike⟩ := mem_of_unordered same member
  obtain ⟨fields, perm⟩ := Node.unordered_eq_iff.mp alike
  have sameID : other.id = node.id := by rw [← fields]
  rw [DepthFirst.Edge, ← sameID, successors_of_mem otherIDs among]
  exact List.mem_map_of_mem (perm.mem_iff.mpr listed)

/-- The validator does not look at the order of the lists. -/
theorem AcceptedClosure.of_unordered (same : left.unordered = right.unordered)
    (accepted : AcceptedClosure left) : AcceptedClosure right := by
  obtain ⟨requested, mappings, taps, nodes, order⟩ := unordered_eq_iff.mp same
  have ids := @map_of_unordered _ _ _ Node.id nodes fun _ => rfl
  have names := @map_of_unordered _ _ _ Node.name nodes fun _ => rfl
  have sources := mappings.map RequestedMapping.requested
  have targets := mappings.map RequestedMapping.resolved
  have position : right.position = left.position := by
    funext id
    rw [ClosureResult.position, ← order, ← ClosureResult.position]
  have otherIDs := ids.nodup_iff.mp accepted.ids
  have count : right.nodes.length = left.nodes.length := by simpa using ids.length_eq.symm
  -- what holds of every node of the one closure holds of the nodes of the other
  have transfer : ∀ {before after : Node → Prop},
      (∀ node other, node.unordered = other.unordered → before node → after other) →
      (∀ node ∈ left.nodes, before node) → ∀ node ∈ right.nodes, after node := by
    intro before after kept every node member
    obtain ⟨other, among, alike⟩ := mem_of_unordered nodes.symm member
    exact kept other node alike (every other among)
  exact {
    bounded := count ▸ accepted.bounded
    valid := transfer (fun _ _ => validateNode_of_unordered) accepted.valid
    ids := otherIDs
    racks := names.nodup_iff.mp accepted.racks
    rootValid := fun root member => accepted.rootValid root (requested.mem_iff.mpr member)
    rootOnce := requested.nodup_iff.mp accepted.rootOnce
    rootKnown := fun root member =>
      ids.mem_iff.mp (accepted.rootKnown root (requested.mem_iff.mpr member))
    mappingCount := by
      rw [← mappings.length_eq, ← requested.length_eq]
      exact accepted.mappingCount
    mappingValid := fun mapping member =>
      accepted.mappingValid mapping (mappings.mem_iff.mpr member)
    mappingSources := sources.nodup_iff.mp accepted.mappingSources
    mappingTargets := targets.nodup_iff.mp accepted.mappingTargets
    mapped := fun root member =>
      targets.mem_iff.mp (accepted.mapped root (requested.mem_iff.mpr member))
    tapValid := fun tap member => accepted.tapValid tap (taps.mem_iff.mpr member)
    tapOnce := taps.nodup_iff.mp accepted.tapOnce
    mappingTap := fun mapping member =>
      (accepted.mappingTap mapping (mappings.mem_iff.mpr member)).imp_right taps.mem_iff.mp
    nodeTap := by
      refine transfer ?_ accepted.nodeTap
      intro node other alike listed
      obtain ⟨fields, _⟩ := Node.unordered_eq_iff.mp alike
      rw [← fields]
      exact listed.imp_right taps.mem_iff.mp
    rawTap := by
      refine transfer ?_ accepted.rawTap
      intro node other alike every dependency member qualified id parsed
      obtain ⟨_, perm⟩ := Node.unordered_eq_iff.mp alike
      exact (every dependency (perm.mem_iff.mpr member) qualified id parsed).imp_right
        taps.mem_iff.mp
    edges := by
      refine transfer ?_ accepted.edges
      intro node other alike every dependency member
      obtain ⟨_, perm⟩ := Node.unordered_eq_iff.mp alike
      exact ids.mem_iff.mp (every dependency (perm.mem_iff.mpr member))
    orderCount := by rw [← order, count]; exact accepted.orderCount
    orderValid := order ▸ accepted.orderValid
    orderKnown := fun id member => ids.mem_iff.mp (accepted.orderKnown id (order ▸ member))
    orderOnce := order ▸ accepted.orderOnce
    placed := by
      rw [position]
      refine transfer ?_ accepted.placed
      rintro node other alike ⟨index, found, earlier⟩
      obtain ⟨fields, perm⟩ := Node.unordered_eq_iff.mp alike
      refine ⟨index, ?_, fun dependency member => earlier dependency (perm.mem_iff.mpr member)⟩
      rw [← fields]
      exact found
    reached := by
      refine transfer ?_ accepted.reached
      rintro node other alike ⟨root, listed, path⟩
      obtain ⟨fields, _⟩ := Node.unordered_eq_iff.mp alike
      rw [← fields]
      exact ⟨root, requested.mem_iff.mp listed, reaches_of_unordered otherIDs nodes path⟩ }

theorem validateClosureResult_of_unordered (same : left.unordered = right.unordered)
    (valid : validateClosureResult left = .ok ()) : validateClosureResult right = .ok () := by
  obtain ⟨accepted, taps⟩ := validateClosureResult_iff.mp valid
  obtain ⟨requested, -, tapsSame, -⟩ := unordered_eq_iff.mp same
  refine validateClosureResult_iff.mpr ⟨accepted.of_unordered same, fun unrooted => ?_⟩
  rw [unrooted] at requested
  rw [taps (List.perm_nil.mp requested)] at tapsSame
  exact List.nil_perm.mp tapsSame

/-! ## Canonical forms -/

theorem sortByKey_of_pairwise {Item Key : Type} [LinearOrder Key] {key : Item → Key}
    {items : List Item} (sorted : items.Pairwise fun left right => key left ≤ key right) :
    sortByKey key items = items :=
  List.Pairwise.insertionSort_eq sorted

/-- The nodes and the dependencies of a closure are in the order of their identities. -/
structure SortedClosure (closure : ClosureResult) : Prop where
  nodes : closure.nodes.Pairwise fun left right => left.id ≤ right.id
  dependencies : ∀ node ∈ closure.nodes,
    node.dependencies.Pairwise fun left right => left.id ≤ right.id
  taps : ∃ taps, closure.normalizationTaps = some taps ∧
    taps.Pairwise fun left right => left ≤ right

theorem sortByKey_eq_nil {Item Key : Type} [LinearOrder Key] {key : Item → Key}
    {items : List Item} : sortByKey key items = [] ↔ items = [] := by
  rw [← List.length_eq_zero_iff, (sortByKey_perm key items).length_eq, List.length_eq_zero_iff]

/-- An accepted closure without taps has core nodes only. -/
theorem AcceptedClosure.core_of_no_taps (accepted : AcceptedClosure left)
    (noTaps : normalizedClosureTaps left = []) :
    left.nodes.filter (fun node => !FormulaID.isCore node.id) = [] := by
  rw [List.filter_eq_nil_iff]
  intro node member outside
  rcases accepted.nodeTap node member with core | listed
  · simp [core] at outside
  · rw [noTaps] at listed
    cases listed

theorem canonicalTaps_cloneClosure (accepted : AcceptedClosure left) :
    canonicalTaps (cloneClosure left) =
      if normalizedClosureTaps left = [] then none
      else some (sortByKey id (normalizedClosureTaps left)) := by
  have core := accepted.core_of_no_taps
  obtain ⟨requested, requestedMappings, normalizationTaps, nodes, installOrder⟩ := left
  cases normalizationTaps with
  | none => simp [canonicalTaps, cloneClosure, normalizedClosureTaps, sortByKey_eq_nil]
  | some taps =>
    by_cases empty : taps = []
    · subst empty
      simp [canonicalTaps, cloneClosure, normalizedClosureTaps, Option.filter, core rfl]
    · simp [canonicalTaps, cloneClosure, normalizedClosureTaps, Option.filter, empty]

theorem canonicalNode_unordered (node : Node) :
    (canonicalNode node).unordered = node.unordered :=
  Node.unordered_eq_iff.mpr ⟨rfl, sortByKey_perm _ _⟩

/-- The canonical form of an accepted closure differs in the order of its lists only. -/
theorem unordered_canonicalizeClosure (accepted : AcceptedClosure left) :
    (canonicalizeClosure (cloneClosure left)).unordered = left.unordered := by
  refine unordered_eq_iff.mpr ⟨sortByKey_perm _ _, sortByKey_perm _ _, ?_, ?_, rfl⟩
  · rw [normalizedClosureTaps]
    by_cases noTaps : normalizedClosureTaps left = []
    · have core := accepted.core_of_no_taps noTaps
      have still : ((sortByKey Node.id (cloneClosure left).nodes).map canonicalNode).filter
          (fun node => !FormulaID.isCore node.id) = [] := by
        rw [List.filter_eq_nil_iff] at core ⊢
        simpa [canonicalNode, cloneClosure] using core
      simp only [canonicalizeClosure, canonicalTaps_cloneClosure accepted, noTaps, if_true, still]
      rfl
    · simp only [canonicalizeClosure, canonicalTaps_cloneClosure accepted, noTaps, if_false]
      exact sortByKey_perm _ _
  · simp only [canonicalizeClosure, cloneClosure, List.map_map, Function.comp_def,
      canonicalNode_unordered]
    exact (sortByKey_perm _ _).map _

theorem canonicalNode_eq_of_unordered (same : node.unordered = other.unordered)
    (valid : validateNode node = .ok ()) : canonicalNode node = canonicalNode other := by
  obtain ⟨fields, perm⟩ := Node.unordered_eq_iff.mp same
  have ids := dependencies_nodup_of_validateNode valid
  rw [← fields]
  generalize other.dependencies = dependencies at perm
  have sorted := @sortByKey_eq_of_perm _ _ _ (fun dependency : Requirement =>
    toLex (dependency.id, dependency.raw)) _ _ perm fun _ among _ also equal =>
      List.inj_on_of_nodup_map ids among also (congrArg Prod.fst (toLex.injective equal))
  simp only [canonicalNode, sorted]

theorem canonicalNodes_of_unordered (accepted : AcceptedClosure left)
    (same : (left.nodes.map Node.unordered).Perm (right.nodes.map Node.unordered)) :
    (sortByKey Node.id left.nodes).map canonicalNode =
      (sortByKey Node.id right.nodes).map canonicalNode := by
  have sorted : ∀ nodes, ((sortByKey Node.id nodes).map canonicalNode).Pairwise
      fun first second => first.id ≤ second.id :=
    fun nodes => List.pairwise_map.mpr (sortByKey_pairwise Node.id nodes)
  have kept : ∀ nodes : List Node, (nodes.map canonicalNode).map Node.id = nodes.map Node.id :=
    fun nodes => by simp [canonicalNode]
  have perm : (left.nodes.map canonicalNode).Perm (right.nodes.map canonicalNode) := by
    have distinct := List.Nodup.of_map Node.id (by rw [kept]; exact accepted.ids)
    refine (List.subperm_of_subset distinct fun node member => ?_).perm_of_length_le ?_
    · obtain ⟨one, among, rfl⟩ := List.mem_map.mp member
      obtain ⟨other, also, alike⟩ := mem_of_unordered same among
      rw [canonicalNode_eq_of_unordered alike.symm (accepted.valid one among)]
      exact List.mem_map_of_mem also
    · simpa using same.length_eq.ge
  have reordered : ∀ nodes, ((sortByKey Node.id nodes).map canonicalNode).Perm
      (nodes.map canonicalNode) := fun nodes => (sortByKey_perm _ _).map _
  rw [← sortByKey_of_pairwise (sorted left.nodes), ← sortByKey_of_pairwise (sorted right.nodes)]
  refine sortByKey_eq_of_perm ((reordered _).trans (perm.trans (reordered _).symm)) ?_
  intro one among other also
  refine List.inj_on_of_nodup_map ?_ among also
  rw [kept]
  exact ((sortByKey_perm _ _).map _).nodup_iff.mpr accepted.ids

theorem canonicalizeClosure_eq_of_unordered (accepted : AcceptedClosure left)
    (same : left.unordered = right.unordered) :
    canonicalizeClosure (cloneClosure left) = canonicalizeClosure (cloneClosure right) := by
  obtain ⟨requested, mappings, taps, nodes, order⟩ := unordered_eq_iff.mp same
  have other := accepted.of_unordered same
  have sameNodes := canonicalNodes_of_unordered accepted nodes
  have sortedTaps := @sortByKey_eq_of_perm _ _ _ id _ _ taps fun _ _ _ _ equal => equal
  have noTaps : normalizedClosureTaps left = [] ↔ normalizedClosureTaps right = [] := by
    rw [← List.length_eq_zero_iff, taps.length_eq, List.length_eq_zero_iff]
  rw [canonicalizeClosure, canonicalizeClosure, ClosureResult.mk.injEq]
  refine ⟨sortByKey_eq_of_perm requested fun _ _ _ _ equal => equal, congrArg some ?_, ?_,
    sameNodes, order⟩
  · refine sortByKey_eq_of_perm mappings fun one _ two _ equal => ?_
    obtain ⟨source, target⟩ := one
    obtain ⟨otherSource, otherTarget⟩ := two
    simpa using equal
  · simp only [canonicalTaps_cloneClosure accepted, canonicalTaps_cloneClosure other, noTaps,
      sortedTaps]

end Unordered

/-! ## Comparison -/

section Comparison

variable {codec : ClosureCodec} {left right : ClosureResult}

section

variable (valid : validateClosureResult left = .ok ())

include valid

theorem canonicalClosureResult_of_valid :
    canonicalClosureResult codec left =
      .ok (codec.encode (canonicalizeClosure (cloneClosure left))) := by
  have again := validateClosureResult_of_unordered
    (unordered_canonicalizeClosure (validateClosureResult_iff.mp valid).1).symm valid
  simp only [canonicalClosureResult, valid, again]
  rfl

theorem compareClosure_eq_ok (otherValid : validateClosureResult right = .ok ()) :
    compareClosure codec left right = .ok () ↔
      codec.encode (canonicalizeClosure (cloneClosure left)) =
        codec.encode (canonicalizeClosure (cloneClosure right)) := by
  simp [compareClosure, canonicalClosureResult_of_valid valid,
    canonicalClosureResult_of_valid otherValid, withContext, bind, Except.bind, throw, throwThe,
    MonadExceptOf.throw, pure, Except.pure]

/-- Closures that differ in the order of their lists only compare as equal. -/
theorem compareClosure_of_unordered
    (same : left.unordered = right.unordered) : compareClosure codec left right = .ok () := by
  rw [compareClosure_eq_ok valid (validateClosureResult_of_unordered same valid),
    canonicalizeClosure_eq_of_unordered (validateClosureResult_iff.mp valid).1 same]

end

end Comparison

/-- What `encoding/json` writes can be read back, up to an empty list that `omitempty` hides. -/
def ClosureCodec.Faithful (codec : ClosureCodec) : Prop :=
  ∀ left right, codec.encode left = codec.encode right → cloneClosure left = cloneClosure right

namespace Sample

instance countableString : Countable String :=
  Function.Injective.countable (f := fun text : String => text.toList.map Char.toNat)
    ((List.map_injective_iff.mpr fun _ _ => Char.toNat_inj.mp).comp fun _ _ => String.toList_inj.mp)

deriving instance Countable for Requirement
deriving instance Countable for RequestedMapping
deriving instance Countable for Node
deriving instance Countable for ClosureResult

def node (name : String) : Node where
  id := "homebrew/core/" ++ name
  tap := "homebrew/core"
  name := name
  homebrewFullName := "homebrew/core/" ++ name
  formulaVersion := "1"
  formulaRevision := 0
  pkgVersion := "1"
  versionScheme := 0
  bottleRebuild := 0

def closure (names order : List String) : ClosureResult where
  requested := names.map ("homebrew/core/" ++ ·)
  requestedMappings := none
  normalizationTaps := none
  nodes := names.map node
  installOrder := order.map ("homebrew/core/" ++ ·)

def idText (name : String) : String := "\"homebrew/core/" ++ name ++ "\""

def nodeText (name : String) : String :=
  "\x7b\"id\":" ++ idText name ++ ",\"tap\":\"homebrew/core\",\"name\":\"" ++ name ++
    "\",\"homebrew_full_name\":" ++ idText name ++ ",\"formula_version\":\"1\"," ++
    "\"formula_revision\":0,\"pkg_version\":\"1\",\"version_scheme\":0,\"bottle_rebuild\":0\x7d"

def mappingText (name : String) : String :=
  "\x7b\"requested\":" ++ idText name ++ ",\"resolved\":" ++ idText name ++ "\x7d"

def frontText : String :=
  "\x7b\"requested\":[" ++ idText "a" ++ "," ++ idText "b" ++ "],\"requested_mappings\":[" ++
    mappingText "a" ++ "," ++ mappingText "b" ++ "],\"nodes\":[" ++ nodeText "a" ++ "," ++
    nodeText "b" ++ "],\"install_order\":["

/-- The JSON text of the canonical form of a closure of `a` and `b`. -/
def text (first second : String) : String :=
  frontText ++ (idText first ++ "," ++ idText second ++ "]\x7d")

/-- An encoder without loss that gives the JSON text of the two canonical forms. -/
theorem exists_faithful : ∃ codec : ClosureCodec, codec.Faithful ∧
    codec.encode (canonicalizeClosure (closure ["a", "b"] ["a", "b"])) = text "a" "b" ∧
    codec.encode (canonicalizeClosure (closure ["a", "b"] ["b", "a"])) = text "b" "a" := by
  obtain ⟨number, injective⟩ := exists_injective_nat ClosureResult
  let other := fun closure => String.ofList (List.replicate (number closure) 'x')
  have inj : ∀ {left right}, other left = other right → left = right := fun equal =>
    injective (by simpa [other] using congrArg String.length equal)
  have apart : ∀ first second closure, text first second ≠ other closure := by
    intro first second closure equal
    have opening : ',' ∈ (other closure).toList := by
      rw [← equal]
      simp [text]
    simp [other] at opening
  have distinct : text "a" "b" ≠ text "b" "a" := by
    rw [text, text, Ne, String.append_right_inj]
    decide
  refine ⟨{ encode := fun closure =>
              if closure = canonicalizeClosure (Sample.closure ["a", "b"] ["a", "b"]) then
                text "a" "b"
              else if closure = canonicalizeClosure (Sample.closure ["a", "b"] ["b", "a"]) then
                text "b" "a"
              else other closure,
            digest := id }, fun left right equal => congrArg cloneClosure ?_, ?_, ?_⟩
  · simp only at equal
    split_ifs at equal <;> first | exact inj equal | simp_all [eq_comm]
  · simp
  · simp [canonicalizeClosure, closure]

end Sample

/--
`CompareClosure` accepts two valid closures exactly if they are equal up to the
order of their lists other than the install order.  Acceptance is an equivalence
on valid closures.
-/
theorem compareClosure_exact (codec : ClosureCodec) (faithful : codec.Faithful) :
    (∀ left right, validateClosureResult left = .ok () → validateClosureResult right = .ok () →
      (compareClosure codec left right = .ok () ↔ left.unordered = right.unordered)) ∧
    Equivalence fun left right : { closure // validateClosureResult closure = .ok () } =>
      compareClosure codec left right = .ok () := by
  have exact : ∀ left right, validateClosureResult left = .ok () →
      validateClosureResult right = .ok () →
      (compareClosure codec left right = .ok () ↔ left.unordered = right.unordered) := by
    intro left right valid otherValid
    refine ⟨fun accepts => ?_, compareClosure_of_unordered valid⟩
    have same := faithful _ _ ((compareClosure_eq_ok valid otherValid).mp accepts)
    have accepted := (validateClosureResult_iff.mp valid).1
    have other := (validateClosureResult_iff.mp otherValid).1
    have kept : ∀ {closure : ClosureResult}, AcceptedClosure closure →
        cloneClosure (canonicalizeClosure (cloneClosure closure)) =
          canonicalizeClosure (cloneClosure closure) := by
      intro closure accepted
      simp only [canonicalizeClosure, canonicalTaps_cloneClosure accepted]
      split
      · rfl
      · rename_i taps
        simp [cloneClosure, Option.filter, sortByKey_eq_nil, taps]
    rw [kept accepted, kept other] at same
    rw [← unordered_canonicalizeClosure accepted, ← unordered_canonicalizeClosure other, same]
  refine ⟨exact, ⟨?_, ?_, ?_⟩⟩
  · intro closure
    exact (exact _ _ closure.2 closure.2).mpr rfl
  · intro left right accepts
    exact (exact _ _ right.2 left.2).mpr ((exact _ _ left.2 right.2).mp accepts).symm
  · intro left middle right first second
    exact (exact _ _ left.2 right.2).mpr
      (((exact _ _ left.2 middle.2).mp first).trans ((exact _ _ middle.2 right.2).mp second))

/-- Two core Formulae in either order, and then in another install order. -/
theorem compareClosure_exact_swapped :
    ∃ codec : ClosureCodec, codec.Faithful ∧
      codec.encode (canonicalizeClosure (Sample.closure ["a", "b"] ["a", "b"])) =
        Sample.text "a" "b" ∧
      codec.encode (canonicalizeClosure (Sample.closure ["a", "b"] ["b", "a"])) =
        Sample.text "b" "a" ∧
      compareClosure codec (Sample.closure ["a", "b"] ["a", "b"])
        (Sample.closure ["b", "a"] ["a", "b"]) = .ok () ∧
      compareClosure codec (Sample.closure ["a", "b"] ["a", "b"])
        (Sample.closure ["b", "a"] ["b", "a"]) ≠ .ok () := by
  obtain ⟨codec, faithful, encoded⟩ := Sample.exists_faithful
  have exact := (compareClosure_exact codec faithful).1
  refine ⟨codec, faithful, encoded.1, encoded.2, ?_, ?_⟩
  · rw [exact _ _ (by decide) (by decide), unordered_eq_iff]
    decide
  · rw [Ne, exact _ _ (by decide) (by decide), unordered_eq_iff]
    decide

end DalecHomebrew.Catalog
