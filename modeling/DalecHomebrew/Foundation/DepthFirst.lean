import DalecHomebrew.Foundation.Failure
import Mathlib.Data.List.Nodup
import Mathlib.Logic.Relation

/-!
# Depth-first topological order

A recursive depth-first search with three marks, over any vertex type and any
successor function.  The search appends a vertex to its order once all
successors are in the order, and fails on the first edge back into the stack.

The recursion is on a depth that the caller chooses.  `visitAll_not_stopped`
says how deep is deep enough: one more than the number of vertices.
-/

namespace DalecHomebrew.Foundation

universe u

namespace DepthFirst

/-- The mark of a vertex: not seen, on the stack, or finished. -/
inductive Mark where
  | fresh
  | active
  | done
deriving DecidableEq

/-- Why a search stops before its end. -/
inductive Stopped (Vertex : Type u) where
  | cycle (path : List Vertex)
  | exhausted
deriving DecidableEq

/-- The state of a search. -/
structure Search (Vertex : Type u) where
  marks : Vertex → Mark
  stack : List Vertex
  order : List Vertex

variable {Vertex : Type u} [DecidableEq Vertex]

def Search.initial : Search Vertex where
  marks := fun _ => .fresh
  stack := []
  order := []

/-- The search after a fresh vertex has been put on the stack. -/
def Search.enter (search : Search Vertex) (vertex : Vertex) : Search Vertex where
  marks := Function.update search.marks vertex .active
  stack := search.stack ++ [vertex]
  order := search.order

/-- The search after the topmost vertex of the stack has been finished. -/
def Search.leave (search : Search Vertex) (vertex : Vertex) : Search Vertex where
  marks := Function.update search.marks vertex .done
  stack := search.stack.dropLast
  order := search.order ++ [vertex]

/-- Visits one vertex, and before it is finished all its successors in order. -/
def visit (successors : Vertex → List Vertex) :
    Nat → Search Vertex → Vertex → Except (Stopped Vertex) (Search Vertex)
  | 0, _, _ => .error .exhausted
  | depth + 1, search, vertex =>
    match search.marks vertex with
    | .active => .error (.cycle (search.stack.drop (search.stack.idxOf vertex) ++ [vertex]))
    | .done => .ok search
    | .fresh => do
        let visited ← (successors vertex).foldlM (visit successors depth) (search.enter vertex)
        return visited.leave vertex

/-- Visits a list of vertices one after the other. -/
def visitAll (successors : Vertex → List Vertex) (depth : Nat) (search : Search Vertex)
    (vertices : List Vertex) :
    Except (Stopped Vertex) (Search Vertex) :=
  vertices.foldlM (visit successors depth) search

/-! ## Well-formed searches -/

/-- Every vertex of a list has its successors before it. -/
def Ordered (successors : Vertex → List Vertex) (order : List Vertex) : Prop :=
  ∀ before vertex after, order = before ++ vertex :: after →
    ∀ successor ∈ successors vertex, successor ∈ before

/-- The edge relation of a successor function. -/
def Edge (successors : Vertex → List Vertex) (source target : Vertex) : Prop :=
  target ∈ successors source

/-- What every search that starts from `Search.initial` keeps. -/
structure Search.WellFormed (successors : Vertex → List Vertex) (search : Search Vertex) :
    Prop where
  active_iff : ∀ vertex, search.marks vertex = .active ↔ vertex ∈ search.stack
  done_iff : ∀ vertex, search.marks vertex = .done ↔ vertex ∈ search.order
  distinct : search.order.Nodup
  ordered : Ordered successors search.order

variable {vertex : Vertex} {order : List Vertex} {successors : Vertex → List Vertex}

omit [DecidableEq Vertex] in
theorem Ordered.append (ordered : Ordered successors order)
    (covered : ∀ successor ∈ successors vertex, successor ∈ order) :
    Ordered successors (order ++ [vertex]) := by
  intro before middle after split successor member
  rcases List.eq_nil_or_concat after with rfl | ⟨initial, last, rfl⟩
  · obtain ⟨rfl, same⟩ := List.append_inj' split rfl
    obtain rfl : vertex = middle := by simpa using same
    exact covered successor member
  · have shorter : order ++ [vertex] = (before ++ middle :: initial) ++ [last] := by
      simpa using split
    obtain ⟨rfl, _⟩ := List.append_inj' shorter rfl
    exact ordered before middle initial rfl successor member

omit [DecidableEq Vertex] in
/-- In an ordered list every vertex has all its transitive successors before it. -/
theorem Ordered.transitive (ordered : Ordered successors order)
    {before after : List Vertex} {vertex reached : Vertex}
    (split : order = before ++ vertex :: after)
    (path : Relation.TransGen (Edge successors) vertex reached) :
    reached ∈ before := by
  induction path with
  | single edge => exact ordered before vertex after split _ edge
  | @tail middle target path edge ih =>
    obtain ⟨first, second, rfl⟩ := List.append_of_mem ih
    have inner : order = first ++ middle :: (second ++ vertex :: after) := by
      simpa using split
    exact List.mem_append_left _ (ordered first middle _ inner target edge)

omit [DecidableEq Vertex] in
theorem Search.wellFormed_initial (successors : Vertex → List Vertex) :
    (Search.initial : Search Vertex).WellFormed successors where
  active_iff := by simp [Search.initial]
  done_iff := by simp [Search.initial]
  distinct := List.nodup_nil
  ordered := by
    intro before vertex after split
    simp [Search.initial] at split

/-- What a successful visit of some vertices does to a search. -/
structure Visited (successors : Vertex → List Vertex) (vertices : List Vertex)
    (source target : Search Vertex) : Prop where
  wellFormed : target.WellFormed successors
  stack : target.stack = source.stack
  grows : source.order ⊆ target.order
  covers : vertices ⊆ target.order
  reachable : ∀ vertex ∈ target.order, vertex ∈ source.order ∨
    ∃ start ∈ vertices, Relation.ReflTransGen (Edge successors) start vertex

section Visits

variable {successors : Vertex → List Vertex} {search : Search Vertex}

theorem Search.WellFormed.enter (wellFormed : search.WellFormed successors)
    (fresh : search.marks vertex = .fresh) :
    (search.enter vertex).WellFormed successors where
  active_iff := by
    intro other
    by_cases same : other = vertex
    · simp [Search.enter, same]
    · simp [Search.enter, same, wellFormed.active_iff]
  done_iff := by
    intro other
    by_cases same : other = vertex
    · have absent : vertex ∉ search.order := by
        rw [← wellFormed.done_iff, fresh]
        simp
      simp [Search.enter, same, absent]
    · simp [Search.enter, same, wellFormed.done_iff]
  distinct := wellFormed.distinct
  ordered := wellFormed.ordered

theorem Search.WellFormed.leave {below : List Vertex} (wellFormed : search.WellFormed successors)
    (top : search.stack = below ++ [vertex]) (once : vertex ∉ below)
    (covered : successors vertex ⊆ search.order) :
    (search.leave vertex).WellFormed successors := by
  have active : search.marks vertex = .active := by
    simp [wellFormed.active_iff, top]
  have absent : vertex ∉ search.order := by
    rw [← wellFormed.done_iff, active]
    simp
  constructor
  · intro other
    by_cases same : other = vertex
    · simp [Search.leave, same, top, once]
    · simp [Search.leave, same, wellFormed.active_iff, top]
  · intro other
    by_cases same : other = vertex
    · simp [Search.leave, same]
    · simp [Search.leave, same, wellFormed.done_iff]
  · exact List.nodup_append.mpr ⟨wellFormed.distinct, List.nodup_singleton _, by
      intro member memberOrder single singleMember
      rintro rfl
      exact absent (by simpa using List.mem_singleton.mp singleMember ▸ memberOrder)⟩
  · exact wellFormed.ordered.append covered

omit [DecidableEq Vertex] in
theorem Visited.refl (wellFormed : search.WellFormed successors) :
    Visited successors [] search search where
  wellFormed := wellFormed
  stack := rfl
  grows := List.Subset.refl _
  covers := List.nil_subset _
  reachable := fun _ member => .inl member

variable {vertex : Vertex}

omit [DecidableEq Vertex] in
theorem Visited.cons {rest : List Vertex} {source middle target : Search Vertex}
    (first : Visited successors [vertex] source middle)
    (second : Visited successors rest middle target) :
    Visited successors (vertex :: rest) source target where
  wellFormed := second.wellFormed
  stack := second.stack.trans first.stack
  grows := List.Subset.trans first.grows second.grows
  covers := List.cons_subset.mpr
    ⟨second.grows (first.covers (List.mem_singleton_self _)), second.covers⟩
  reachable := by
    intro reached member
    rcases second.reachable reached member with old | ⟨start, startMember, path⟩
    · rcases first.reachable reached old with older | ⟨start, startMember, path⟩
      · exact .inl older
      · exact .inr ⟨start, by simp [List.mem_singleton.mp startMember], path⟩
    · exact .inr ⟨start, List.mem_cons_of_mem _ startMember, path⟩

variable {depth : Nat}

/-- A visit of single vertices lifts to a visit of a list. -/
theorem visited_foldlM
    (single : ∀ source vertex target, Search.WellFormed successors source →
      visit successors depth source vertex = .ok target →
      Visited successors [vertex] source target)
    (vertices : List Vertex) :
    ∀ {source target : Search Vertex}, source.WellFormed successors →
      vertices.foldlM (visit successors depth) source = .ok target →
      Visited successors vertices source target := by
  induction vertices with
  | nil =>
    intro source target wellFormed result
    obtain rfl := foldlM_nil_eq_ok.mp result
    exact Visited.refl wellFormed
  | cons vertex rest ih =>
    intro source target wellFormed result
    obtain ⟨middle, first, later⟩ := foldlM_cons_eq_ok.mp result
    have visited := single source vertex middle wellFormed first
    exact visited.cons (ih visited.wellFormed later)

variable {source target : Search Vertex}

theorem visited_visit (depth : Nat) :
    ∀ source vertex target, Search.WellFormed successors source →
      visit successors depth source vertex = .ok target →
      Visited successors [vertex] source target := by
  induction depth with
  | zero =>
    intro source vertex target _ result
    simp [visit] at result
  | succ depth ih =>
    intro source vertex target wellFormed result
    cases mark : source.marks vertex with
    | active => simp [visit, mark] at result
    | done =>
      obtain rfl : source = target := by simpa [visit, mark] using result
      refine { Visited.refl wellFormed with
        covers := ?_
        reachable := fun _ member => .inl member }
      simpa using (wellFormed.done_iff vertex).mp mark
    | fresh =>
      simp only [visit, mark, bind_eq_ok, pure_eq_ok] at result
      obtain ⟨middle, inner, rfl⟩ := result
      have visited := visited_foldlM ih (successors vertex) (wellFormed.enter mark) inner
      have once : vertex ∉ source.stack := by
        rw [← wellFormed.active_iff, mark]
        simp
      exact {
        wellFormed := visited.wellFormed.leave visited.stack once visited.covers
        stack := by simp [Search.leave, visited.stack, Search.enter]
        grows := List.Subset.trans visited.grows (List.subset_append_left _ _)
        covers := by simp [Search.leave]
        reachable := by
          intro reached member
          rcases List.mem_append.mp member with inside | last
          · rcases visited.reachable reached inside with old | ⟨start, edge, path⟩
            · exact .inl old
            · exact .inr ⟨vertex, List.mem_singleton_self _, Relation.ReflTransGen.head edge path⟩
          · obtain rfl := List.mem_singleton.mp last
            exact .inr ⟨reached, List.mem_singleton_self _, .refl⟩ }

variable {roots : List Vertex}

/-- The specification of a search from scratch. -/
theorem visitAll_spec (result : visitAll successors depth .initial roots = .ok target) :
    target.order.Nodup ∧ Ordered successors target.order ∧ ∀ vertex, vertex ∈ target.order ↔
        ∃ root ∈ roots, Relation.ReflTransGen (Edge successors) root vertex := by
  have visited : Visited successors roots .initial target :=
    visited_foldlM (visited_visit depth) roots (Search.wellFormed_initial successors) result
  refine ⟨visited.wellFormed.distinct, visited.wellFormed.ordered, fun vertex => ⟨?_, ?_⟩⟩
  · intro member
    rcases visited.reachable vertex member with impossible | reached
    · simp [Search.initial] at impossible
    · exact reached
  · rintro ⟨root, rootMember, path⟩
    induction path with
    | refl => exact visited.covers rootMember
    | @tail middle reached path edge ih =>
      obtain ⟨before, after, split⟩ := List.append_of_mem ih
      rw [split]
      exact List.mem_append_left _
        (visited.wellFormed.ordered before middle after split reached edge)

/-! ## The depth that suffices -/

/-- The vertices of a list that the search has not seen. -/
def unseen (vertices : List Vertex) (search : Search Vertex) : List Vertex :=
  vertices.filter fun vertex => search.marks vertex == .fresh

/-- Marks only ever leave `fresh`. -/
def Seen (source target : Search Vertex) : Prop :=
  ∀ vertex, target.marks vertex = .fresh → source.marks vertex = .fresh

variable {vertices : List Vertex}

omit [DecidableEq Vertex] in
theorem Seen.unseen_length_le (seen : Seen source target) :
    (unseen vertices target).length ≤ (unseen vertices source).length := by
  refine (List.monotone_filter_right vertices fun vertex fresh => ?_).length_le
  simp only [beq_iff_eq] at fresh ⊢
  exact seen vertex fresh

omit [DecidableEq Vertex] in
/-- A filter that keeps less and drops an element of the list is shorter. -/
theorem length_filter_lt {fewer more : Vertex → Bool}
    (less : ∀ other, fewer other = true → more other = true) (member : vertex ∈ vertices)
    (kept : more vertex = true) (dropped : fewer vertex = false) :
    (vertices.filter fewer).length < (vertices.filter more).length := by
  have twice : vertices.filter fewer = (vertices.filter more).filter fewer := by
    rw [List.filter_filter]
    exact List.filter_congr fun other _ => Bool.eq_iff_iff.mpr (by simpa using less other)
  rw [twice]
  exact List.length_filter_lt_length_iff_exists.mpr
    ⟨vertex, List.mem_filter.mpr ⟨member, kept⟩, by simp [dropped]⟩

theorem unseen_enter_lt (member : vertex ∈ vertices) (fresh : search.marks vertex = .fresh) :
    (unseen vertices (search.enter vertex)).length < (unseen vertices search).length := by
  refine length_filter_lt (fun other => ?_) member (by simp [fresh]) (by simp [Search.enter])
  by_cases same : other = vertex
  · simp [Search.enter, same]
  · simp [Search.enter, same]

omit [DecidableEq Vertex] in
theorem Visited.seen (visited : Visited successors vertices source target)
    (wellFormed : source.WellFormed successors) : Seen source target := by
  intro vertex fresh
  cases mark : source.marks vertex with
  | fresh => rfl
  | active =>
    have later : target.marks vertex = .active := by
      rwa [visited.wellFormed.active_iff, visited.stack, ← wellFormed.active_iff]
    simp [later] at fresh
  | done =>
    have later := (visited.wellFormed.done_iff vertex).mpr
      (visited.grows ((wellFormed.done_iff vertex).mp mark))
    simp [later] at fresh

theorem visit_ne_error {depth : Nat} {source : Search Vertex}
    {stopped : Stopped Vertex} (mark : source.marks vertex = .fresh)
    (inner : (successors vertex).foldlM (visit successors depth) (source.enter vertex) ≠
      .error stopped) :
    visit successors (depth + 1) source vertex ≠ .error stopped := by
  rw [visit]
  cases outcome : (successors vertex).foldlM (visit successors depth) (source.enter vertex) with
  | error other =>
    rw [outcome] at inner
    simpa [mark, outcome, bind, Except.bind] using inner
  | ok middle => simp [mark, bind, Except.bind, pure, Except.pure]

/-- A visit that is deeper than the number of unseen vertices stops on a cycle of the graph only. -/
theorem visit_not_stopped {stopped : Stopped Vertex}
    (closed : ∀ vertex ∈ vertices, successors vertex ⊆ vertices)
    (acyclic : stopped ≠ .exhausted → ∀ vertex, ¬ Relation.TransGen (Edge successors) vertex vertex)
    (depth : Nat) :
    ∀ source vertex, Search.WellFormed successors source → vertex ∈ vertices →
      (unseen vertices source).length < depth →
      (∀ active ∈ source.stack, Relation.TransGen (Edge successors) active vertex) →
      visit successors depth source vertex ≠ .error stopped := by
  induction depth with
  | zero =>
    intro source vertex _ _ impossible
    exact absurd impossible (Nat.not_lt_zero _)
  | succ depth ih =>
    intro source vertex wellFormed member enough below
    cases mark : source.marks vertex with
    | active =>
      have edges := below vertex ((wellFormed.active_iff vertex).mp mark)
      intro result
      obtain rfl : _ = stopped := by simpa [visit, mark] using result
      exact acyclic (by simp) vertex edges
    | done => simp [visit, mark]
    | fresh =>
      have fewer := unseen_enter_lt member mark
      refine visit_ne_error mark (foldlM_ne_error
        (motive := fun search => search.WellFormed successors ∧
          search.stack = (source.enter vertex).stack ∧ (unseen vertices search).length < depth)
        ?_ ?_ ⟨wellFormed.enter mark, rfl, by omega⟩)
      · intro search next target _ kept taken
        have visited := visited_visit depth search next target kept.1 taken
        exact ⟨visited.wellFormed, visited.stack.trans kept.2.1,
          Nat.lt_of_le_of_lt (visited.seen kept.1).unseen_length_le kept.2.2⟩
      · intro search next edge kept
        refine ih search next kept.1 (closed vertex member edge) kept.2.2 fun active inside => ?_
        rw [kept.2.1] at inside
        rcases List.mem_append.mp inside with deeper | top
        · exact (below active deeper).tail edge
        · exact List.mem_singleton.mp top ▸ .single edge

theorem visitAll_not_stopped {stopped : Stopped Vertex}
    (closed : ∀ vertex ∈ vertices, successors vertex ⊆ vertices) (inside : roots ⊆ vertices)
    (acyclic : stopped ≠ .exhausted →
      ∀ vertex, ¬ Relation.TransGen (Edge successors) vertex vertex) :
    visitAll successors (vertices.length + 1) .initial roots ≠ .error stopped := by
  refine foldlM_ne_error (motive := fun search => search.WellFormed successors ∧
    search.stack = []) ?_ ?_ ⟨Search.wellFormed_initial successors, rfl⟩
  · intro search root target _ kept taken
    have visited := visited_visit _ search root target kept.1 taken
    exact ⟨visited.wellFormed, visited.stack.trans kept.2⟩
  · intro search root member kept
    refine visit_not_stopped closed acyclic _ search root kept.1 (inside member)
      (Nat.lt_succ_of_le (List.length_filter_le _ _)) fun active below => ?_
    rw [kept.2] at below
    cases below

/-- In a graph without cycles a search that is deep enough succeeds. -/
theorem visitAll_succeeds (closed : ∀ vertex ∈ vertices, successors vertex ⊆ vertices)
    (inside : roots ⊆ vertices)
    (acyclic : ∀ vertex, ¬ Relation.TransGen (Edge successors) vertex vertex) :
    ∃ target, visitAll successors (vertices.length + 1) .initial roots = .ok target := by
  cases outcome : visitAll successors (vertices.length + 1) .initial roots with
  | ok target => exact ⟨target, rfl⟩
  | error stopped => exact absurd outcome (visitAll_not_stopped closed inside fun _ => acyclic)

end Visits

end DepthFirst

end DalecHomebrew.Foundation
