import DalecHomebrew.Foundation.DepthFirst

/-!
# Marking what is reachable

A recursive traversal that only marks what it comes to, over any vertex type and
any successor function.  It has no stack and no order, and it goes on past a
vertex without successors, so that it marks such a vertex and nothing more.

The recursion is on a depth that the caller chooses.  `mem_markAll` says that the
marks are exactly what the starts reach as soon as the depth exceeds the number
of vertices that have successors.
-/

namespace DalecHomebrew.Foundation

universe u

namespace Reachability

open Foundation.DepthFirst

variable {Vertex : Type u} [DecidableEq Vertex]

/-- Marks a vertex and, if it was not marked before, everything below it. -/
def mark (successors : Vertex → List Vertex) : Nat → List Vertex → Vertex → List Vertex
  | 0, marked, _ => marked
  | depth + 1, marked, vertex =>
    if vertex ∈ marked then marked
    else (successors vertex).foldl (mark successors depth) (vertex :: marked)

/-- Marks a list of vertices one after the other. -/
def markAll (successors : Vertex → List Vertex) (depth : Nat) (vertices : List Vertex) :
    List Vertex :=
  vertices.foldl (mark successors depth) []

variable {successors : Vertex → List Vertex} {depth : Nat} {marked : List Vertex} {vertex : Vertex}

theorem mark_of_mem (member : vertex ∈ marked) : mark successors depth marked vertex = marked := by
  cases depth with
  | zero => rfl
  | succ depth => rw [mark, if_pos member]

theorem mark_of_not_mem (fresh : vertex ∉ marked) :
    mark successors (depth + 1) marked vertex =
      (successors vertex).foldl (mark successors depth) (vertex :: marked) := by
  rw [mark, if_neg fresh]

/-! ## Only reachable vertices are marked -/

variable {vertices : List Vertex}

theorem reached_of_mem_mark (depth : Nat) (marked : List Vertex) (vertex reached : Vertex)
    (member : reached ∈ mark successors depth marked vertex) :
    reached ∈ marked ∨ Relation.ReflTransGen (Edge successors) vertex reached := by
  induction depth generalizing marked vertex reached with
  | zero => exact .inl member
  | succ depth ih =>
    by_cases old : vertex ∈ marked
    · rw [mark_of_mem old] at member
      exact .inl member
    rw [mark_of_not_mem old] at member
    rcases foldl_origin (motive := (reached ∈ ·)) (fun marked vertex => ih marked vertex reached)
      member with entered | ⟨successor, edge, path⟩
    · rcases List.mem_cons.mp entered with rfl | earlier
      · exact .inr .refl
      · exact .inl earlier
    · exact .inr (.head edge path)

/-! ## Every reachable vertex is marked -/

/-- The vertices of a list that are not marked. -/
def unmarked (vertices marked : List Vertex) : List Vertex :=
  vertices.filter fun vertex => vertex ∉ marked

theorem unmarked_cons_lt (member : vertex ∈ vertices) (fresh : vertex ∉ marked) :
    (unmarked vertices (vertex :: marked)).length < (unmarked vertices marked).length := by
  refine length_filter_lt (fun other => ?_) member (by simp [fresh]) (by simp)
  simp only [decide_eq_true_eq, List.mem_cons, not_or]
  exact And.right

theorem unmarked_length_le {vertices marked others : List Vertex} (kept : marked ⊆ others) :
    (unmarked vertices others).length ≤ (unmarked vertices marked).length := by
  refine List.Sublist.length_le (List.monotone_filter_right vertices fun vertex => ?_)
  simp only [decide_eq_true_eq]
  intro absent present
  exact absent (kept present)

/-- What marking from some starts adds: the starts, and with every new mark its successors. -/
structure Marks (successors : Vertex → List Vertex)
    (starts source target : List Vertex) : Prop where
  kept : source ⊆ target
  starts_mem : ∀ vertex ∈ starts, vertex ∈ target
  closed : ∀ vertex ∈ target, vertex ∉ source → ∀ successor ∈ successors vertex, successor ∈ target

omit [DecidableEq Vertex] in
theorem Marks.refl (marked : List Vertex) : Marks successors [] marked marked :=
  ⟨fun _ member => member, by simp, fun _ member fresh => absurd member fresh⟩

theorem marks_foldl
    (each : ∀ (marked : List Vertex) (vertex : Vertex), (unmarked vertices marked).length < depth →
        Marks successors [vertex] marked (mark successors depth marked vertex))
    (starts marked : List Vertex)
    (enough : (unmarked vertices marked).length < depth) :
    Marks successors starts marked (starts.foldl (mark successors depth) marked) := by
  induction starts generalizing marked with
  | nil => exact .refl marked
  | cons start rest ih =>
    have first := each marked start enough
    have later := ih (mark successors depth marked start)
      (Nat.lt_of_le_of_lt (unmarked_length_le first.kept) enough)
    refine ⟨List.Subset.trans first.kept later.kept, ?_, ?_⟩
    · intro vertex member
      rcases List.mem_cons.mp member with rfl | among
      · exact later.kept (first.starts_mem vertex (by simp))
      · exact later.starts_mem vertex among
    · intro vertex member fresh successor edge
      by_cases early : vertex ∈ mark successors depth marked start
      · exact later.kept (first.closed vertex early fresh successor edge)
      · exact later.closed vertex member early successor edge

/-- The depth has to exceed the number of unmarked vertices that have successors. -/
theorem marks_mark (inner : ∀ vertex, vertex ∉ vertices → successors vertex = [])
    (depth : Nat) (marked : List Vertex) (vertex : Vertex)
    (enough : (unmarked vertices marked).length < depth) :
    Marks successors [vertex] marked (mark successors depth marked vertex) := by
  induction depth generalizing marked vertex with
  | zero => exact absurd enough (Nat.not_lt_zero _)
  | succ depth ih =>
    by_cases old : vertex ∈ marked
    · rw [mark_of_mem old]
      exact { Marks.refl marked with starts_mem := by simpa using old }
    rw [mark_of_not_mem old]
    have below : Marks successors (successors vertex) (vertex :: marked)
        ((successors vertex).foldl (mark successors depth) (vertex :: marked)) := by
      by_cases member : vertex ∈ vertices
      · have fewer := unmarked_cons_lt member old
        exact marks_foldl ih _ _ (by omega)
      · rw [inner vertex member]
        exact .refl _
    refine ⟨fun other among => below.kept (List.mem_cons_of_mem _ among), ?_, ?_⟩
    · simpa using below.kept List.mem_cons_self
    · intro other member fresh successor edge
      by_cases same : other = vertex
      · subst same
        exact below.starts_mem successor edge
      · exact below.closed other member (by simp [same, fresh]) successor edge

/-- With enough depth the marks are what the starts reach. -/
theorem mem_markAll {vertices : List Vertex}
    (inner : ∀ vertex, vertex ∉ vertices → successors vertex = [])
    {depth : Nat} (enough : vertices.length < depth) {starts : List Vertex} {reached : Vertex} :
    reached ∈ markAll successors depth starts ↔
      ∃ start ∈ starts, Relation.ReflTransGen (Edge successors) start reached := by
  constructor
  · intro member
    rcases foldl_origin (motive := (reached ∈ ·))
      (fun marked vertex => reached_of_mem_mark depth marked vertex reached) member with old | found
    · cases old
    · exact found
  · rintro ⟨start, among, path⟩
    have marks := marks_foldl (marks_mark inner depth) starts []
      (Nat.lt_of_le_of_lt (List.length_filter_le _ _) enough)
    induction path with
    | refl => exact marks.starts_mem start among
    | tail _ edge ih => exact marks.closed _ ih List.not_mem_nil _ edge

end Reachability

end DalecHomebrew.Foundation
