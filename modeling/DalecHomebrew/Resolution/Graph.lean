import DalecHomebrew.Foundation.Container
import DalecHomebrew.Foundation.Findings
import DalecHomebrew.Foundation.InstallOrder
import DalecHomebrew.Foundation.Reachability
import Mathlib.Data.List.Find

/-!
# The graph checks of a resolution

`Validate` and `ValidateV2` of `internal/resolution` end with the same loops over
the node map: every dependency has a node, the install order enumerates the nodes
with the dependencies of each before it, and a traversal from the requested roots
comes to every node.  `Graph` is what these loops read, and `findings_eq_nil` says
what it means that they find nothing.
-/

namespace DalecHomebrew.Resolution

open Foundation Foundation.GoString

/-- What the graph checks of a validator read. -/
structure Graph (Node : Type) where
  /-- The node map of the validator. -/
  nodes : Table String Node
  /-- The nodes that the loops range over, each under its identity. -/
  visited : List (String × Node)
  /-- The identities of the dependencies of a node. -/
  dependencies : Node → List String
  /-- How an entry of the install order is read. -/
  identify : String → Except String String
  roots : List String
  order : List String

namespace Graph

variable {Node : Type} (graph : Graph Node)

/-- The dependencies of an identity; none for an identity without a node. -/
def successors (id : String) : List String :=
  ((graph.nodes.lookup id).map graph.dependencies).getD []

def missingFindings : List String :=
  graph.visited.flatMap fun (id, node) =>
    (graph.dependencies node).flatMap fun dependency =>
      finding (graph.nodes.lookup dependency).isNone
        ("node " ++ quote id ++ " references missing dependency " ++ quote dependency)

/-- Whether an entry of the order is read as an identity. -/
def identifies (entry id : String) : Bool :=
  match graph.identify entry with
  | .ok found => found == id
  | .error _ => false

/-- The position map: the last index of an identity. -/
def position (id : String) : Option Nat :=
  (graph.order.zipIdx.reverse.find? fun entry => graph.identifies entry.1 id).map Prod.snd

def entryFindings : List String :=
  graph.order.zipIdx.flatMap fun (entry, index) =>
    match graph.identify entry with
    | .error message => [indexed "install_order" index ++ ": " ++ message]
    | .ok id =>
      finding (graph.nodes.lookup id).isNone
        ("install_order references unknown node " ++ quote id) ++
      finding ((graph.order.take index).any fun earlier => graph.identifies earlier id)
        ("duplicate install_order entry " ++ quote id)

def placementFindings : List String :=
  graph.visited.flatMap fun (id, node) =>
    match graph.position id with
    | none => ["install_order omits node " ++ quote id]
    | some place =>
      (graph.dependencies node).flatMap fun dependency =>
        finding ((graph.position dependency).all fun earlier => place ≤ earlier)
          ("install_order places " ++ quote id ++ " before dependency " ++ quote dependency)

/-- The order is only looked at when it has as many entries as there are nodes. -/
def orderFindings : List String :=
  if graph.order.length ≠ graph.nodes.keys.length then
    ["install_order has " ++ decimal graph.order.length ++ " entries for " ++
      decimal graph.nodes.keys.length ++ " nodes"]
  else graph.entryFindings ++ graph.placementFindings

/-- What `walk` marks.  It enters every node at most once, so the depth is never used up. -/
def reachable : List String :=
  Reachability.markAll graph.successors (graph.nodes.keys.length + 1) graph.roots

def unreachableFindings : List String :=
  graph.nodes.keys.flatMap fun id =>
    finding (!graph.reachable.contains id)
      ("closure node " ++ quote id ++ " is unreachable from requested roots")

def findings : List String :=
  graph.missingFindings ++ graph.orderFindings ++ graph.unreachableFindings

/-! ## Acceptance -/

/-- The loops range over the node map, and an entry is at most read as itself. -/
structure WellFormed (graph : Graph Node) : Prop where
  mem_visited : ∀ id node, (id, node) ∈ graph.visited ↔ graph.nodes.lookup id = some node
  identified : ∀ entry id, graph.identify entry = .ok id → id = entry

/-- What the graph checks establish. -/
structure Accepted (graph : Graph Node) : Prop where
  count : graph.order.length = graph.nodes.keys.length
  canonical : ∀ entry ∈ graph.order, graph.identify entry = .ok entry
  placed : InstallOrder.Placed graph.nodes.keys graph.successors graph.order
  reached : ∀ id ∈ graph.nodes.keys, ∃ root ∈ graph.roots,
    Relation.ReflTransGen (DepthFirst.Edge graph.successors) root id

variable {graph : Graph Node} {id : String}

theorem successors_of_lookup {node : Node} (found : graph.nodes.lookup id = some node) :
    graph.successors id = graph.dependencies node := by
  rw [successors, found, Option.map_some, Option.getD_some]

theorem mem_reachable : id ∈ graph.reachable ↔ ∃ root ∈ graph.roots,
      Relation.ReflTransGen (DepthFirst.Edge graph.successors) root id := by
  refine @Reachability.mem_markAll _ _ _ graph.nodes.keys (fun vertex absent => ?_) _
    (Nat.lt_succ_self _) _ _
  rw [← AList.mem_keys] at absent
  rw [successors, AList.lookup_eq_none.mpr absent, Option.map_none, Option.getD_none]

theorem unreachableFindings_eq_nil :
    graph.unreachableFindings = [] ↔ ∀ id ∈ graph.nodes.keys, ∃ root ∈ graph.roots,
      Relation.ReflTransGen (DepthFirst.Edge graph.successors) root id := by
  simp only [unreachableFindings, List.flatMap_eq_nil_iff, finding_eq_nil, Bool.not_eq_false',
    List.contains_iff_mem, mem_reachable]

theorem identifies_eq_beq {entry : String} (canonical : graph.identify entry = .ok entry) :
    graph.identifies entry id = (entry == id) := by
  simp [identifies, canonical]

theorem position_eq (canonical : ∀ entry ∈ graph.order, graph.identify entry = .ok entry) :
    graph.position = InstallOrder.position graph.order := by
  funext id
  unfold position InstallOrder.position
  congr 1
  refine List.find?_congr fun entry member => ?_
  obtain ⟨inside, same⟩ := List.mem_zipIdx' (List.mem_reverse.mp member)
  exact identifies_eq_beq (canonical _ (same ▸ List.getElem_mem inside))

theorem any_identifies_eq_false {entries : List String}
    (canonical : ∀ entry ∈ entries, graph.identify entry = .ok entry) :
    (entries.any fun entry => graph.identifies entry id) = false ↔ entries.contains id = false := by
  rw [List.any_eq_false, List.contains_eq_mem, decide_eq_false_iff_not]
  constructor
  · intro none present
    exact none id present (by simp [identifies_eq_beq (canonical id present)])
  · intro absent entry member same
    rw [identifies_eq_beq (canonical entry member), beq_iff_eq] at same
    exact absent (same ▸ member)

section

variable (wellFormed : graph.WellFormed)

include wellFormed

theorem entryFindings_eq_nil :
    graph.entryFindings = [] ↔ (∀ entry ∈ graph.order, graph.identify entry = .ok entry) ∧
      (∀ entry ∈ graph.order, entry ∈ graph.nodes.keys) ∧ graph.order.Nodup := by
  have each : ∀ entry : String × Nat, (match graph.identify entry.1 with
        | .error message => [indexed "install_order" entry.2 ++ ": " ++ message]
        | .ok id =>
          finding (graph.nodes.lookup id).isNone
            ("install_order references unknown node " ++ quote id) ++
          finding ((graph.order.take entry.2).any fun earlier => graph.identifies earlier id)
            ("duplicate install_order entry " ++ quote id)) = [] ↔
        graph.identify entry.1 = .ok entry.1 ∧ entry.1 ∈ graph.nodes.keys ∧
          ((graph.order.take entry.2).any fun earlier =>
            graph.identifies earlier entry.1) = false := by
    rintro ⟨entry, index⟩
    cases read : graph.identify entry with
    | error message => simp
    | ok id =>
      obtain rfl := wellFormed.identified entry id read
      simp only [List.append_eq_nil_iff, finding_eq_nil, Table.lookup_isNone_eq_false, true_and]
  simp only [entryFindings, List.flatMap_eq_nil_iff, each, forall₂_and]
  rw [@forall_zipIdx _ graph.order fun entry => graph.identify entry = .ok entry,
    @forall_zipIdx _ graph.order fun entry => entry ∈ graph.nodes.keys, ← forall_zipIdx_new]
  refine and_congr_right fun canonical => and_congr_right fun _ => forall₂_congr fun entry _ => ?_
  exact any_identifies_eq_false fun earlier member => canonical earlier (List.mem_of_mem_take member)

theorem placementFindings_eq_nil
    (canonical : ∀ entry ∈ graph.order, graph.identify entry = .ok entry) :
    graph.placementFindings = [] ↔ ∀ id ∈ graph.nodes.keys, ∃ index,
      InstallOrder.position graph.order id = some index ∧
        ∀ successor ∈ graph.successors id, ∃ earlier,
          InstallOrder.position graph.order successor = some earlier ∧ earlier < index := by
  have each : ∀ entry : String × Node, (match InstallOrder.position graph.order entry.1 with
        | none => ["install_order omits node " ++ quote entry.1]
        | some place =>
          (graph.dependencies entry.2).flatMap fun dependency =>
            finding ((InstallOrder.position graph.order dependency).all fun earlier =>
                place ≤ earlier)
              ("install_order places " ++ quote entry.1 ++ " before dependency " ++
                quote dependency)) = [] ↔
        ∃ index, InstallOrder.position graph.order entry.1 = some index ∧
          ∀ successor ∈ graph.dependencies entry.2, ∃ earlier,
            InstallOrder.position graph.order successor = some earlier ∧ earlier < index := by
    rintro ⟨id, node⟩
    cases InstallOrder.position graph.order id with
    | none => simp
    | some place =>
      simp only [List.flatMap_eq_nil_iff, finding_eq_nil, Option.some.injEq, exists_eq_left']
      refine forall₂_congr fun successor _ => ?_
      cases InstallOrder.position graph.order successor <;> simp
  simp only [placementFindings, position_eq canonical, List.flatMap_eq_nil_iff, each]
  constructor
  · intro every id member
    obtain ⟨node, found⟩ := Table.mem_keys_iff.mp member
    rw [successors_of_lookup found]
    exact every (id, node) ((wellFormed.mem_visited _ _).mpr found)
  · rintro every ⟨id, node⟩ member
    have found := (wellFormed.mem_visited _ _).mp member
    have placed := every id (Table.mem_keys_iff.mpr ⟨node, found⟩)
    rwa [successors_of_lookup found] at placed

theorem missingFindings_eq_nil
    (placed : InstallOrder.Placed graph.nodes.keys graph.successors graph.order) :
    graph.missingFindings = [] := by
  simp only [missingFindings, List.flatMap_eq_nil_iff, finding_eq_nil, Table.lookup_isNone_eq_false]
  rintro ⟨id, node⟩ member dependency edge
  have found := (wellFormed.mem_visited _ _).mp member
  refine placed.closed (Table.mem_keys_iff.mpr ⟨node, found⟩) ?_
  rw [DepthFirst.Edge, successors_of_lookup found]
  exact edge

theorem findings_eq_nil :
    graph.findings = [] ↔ graph.Accepted := by
  simp only [findings, List.append_eq_nil_iff, unreachableFindings_eq_nil]
  constructor
  · rintro ⟨⟨-, order⟩, reached⟩
    unfold orderFindings at order
    split at order
    · cases order
    · rename_i count
      obtain ⟨entries, placement⟩ := List.append_eq_nil_iff.mp order
      obtain ⟨canonical, known, distinct⟩ := (entryFindings_eq_nil wellFormed).mp entries
      exact ⟨not_not.mp count, canonical,
        ⟨distinct, known, (placementFindings_eq_nil wellFormed canonical).mp placement⟩, reached⟩
  · intro accepted
    refine ⟨⟨missingFindings_eq_nil wellFormed accepted.placed, ?_⟩, accepted.reached⟩
    rw [orderFindings, if_neg (not_not.mpr accepted.count), List.append_eq_nil_iff]
    exact ⟨(entryFindings_eq_nil wellFormed).mpr
        ⟨accepted.canonical, accepted.placed.known, accepted.placed.distinct⟩,
      (placementFindings_eq_nil wellFormed accepted.canonical).mpr accepted.placed.placed⟩

end

end Graph

end DalecHomebrew.Resolution
