import DalecHomebrew.Foundation.DepthFirst

/-!
# Install orders and what their validators check

A validator of an install order looks at positions, single edges and the
vertices that a traversal from the roots marks.  `Checked` is this list of local
conditions over any vertex type, and `Checked.sound` derives the global ones:
no cycles, and every initial segment of the order is closed under transitive
successors.
-/

namespace DalecHomebrew.Foundation

universe u

namespace InstallOrder

open Foundation.DepthFirst

variable {Vertex : Type u}

/-- What an install order of a rooted graph is for. -/
structure Sound (nodes : List Vertex) (successors : Vertex → List Vertex)
    (roots order : List Vertex) : Prop where
  acyclic : ∀ vertex ∈ nodes, ¬ Relation.TransGen (Edge successors) vertex vertex
  distinct : order.Nodup
  enumerates : ∀ vertex, vertex ∈ order ↔ vertex ∈ nodes
  /-- Every initial segment is closed under transitive successors. -/
  segments : ∀ segment rest, order = segment ++ rest → ∀ vertex ∈ segment, ∀ reached,
    Relation.TransGen (Edge successors) vertex reached → reached ∈ segment
  reachable : ∀ vertex, vertex ∈ nodes ↔
    ∃ root ∈ roots, Relation.ReflTransGen (Edge successors) root vertex

section Positions

variable [DecidableEq Vertex]

/-- The map that a loop over an order fills with indices: the last one of a vertex. -/
def position (order : List Vertex) (vertex : Vertex) : Option Nat :=
  (order.zipIdx.reverse.find? fun entry => entry.1 == vertex).map Prod.snd

section

variable {order : List Vertex} {vertex : Vertex} {index : Nat}
  (found : position order vertex = some index)

include found

theorem getElem?_of_position :
    order[index]? = some vertex := by
  obtain ⟨⟨entry, other⟩, selected, rfl⟩ := Option.map_eq_some_iff.mp found
  have same : entry = vertex := by simpa using List.find?_some selected
  have member := List.mem_reverse.mp (List.mem_of_find?_eq_some selected)
  rw [List.mk_mem_zipIdx_iff_getElem?, same] at member
  exact member

theorem mem_of_position : vertex ∈ order :=
  List.mem_of_getElem? (getElem?_of_position found)

end

variable {order : List Vertex} {vertex : Vertex}

/-- In an order without repetitions the map holds the index of every vertex. -/
theorem position_eq_some (distinct : order.Nodup) {index : Nat} :
    position order vertex = some index ↔ order[index]? = some vertex := by
  refine ⟨getElem?_of_position, fun placed => ?_⟩
  have member : (vertex, index) ∈ order.zipIdx.reverse := by
    rw [List.mem_reverse, List.mk_mem_zipIdx_iff_getElem?]
    exact placed
  cases found : position order vertex with
  | none =>
    rw [position, Option.map_eq_none_iff, List.find?_eq_none] at found
    have absent := found (vertex, index) member
    simp at absent
  | some other =>
    have both := getElem?_of_position found
    have inside : index < order.length := (List.getElem?_eq_some_iff.mp placed).1
    rw [(List.getElem?_inj inside distinct).mp (placed.trans both.symm)]

/-- In an ordered list every vertex has a position after those of its successors. -/
theorem positions_of_ordered {successors : Vertex → List Vertex}
    (distinct : order.Nodup) (ordered : Ordered successors order)
    (member : vertex ∈ order) : ∃ index, position order vertex = some index ∧
      ∀ successor ∈ successors vertex, ∃ earlier, position order successor = some earlier ∧
        earlier < index := by
  obtain ⟨before, after, split⟩ := List.append_of_mem member
  refine ⟨before.length, (position_eq_some distinct).mpr (by simp [split]), ?_⟩
  intro successor edge
  obtain ⟨earlier, inside, found⟩ :=
    List.getElem_of_mem (ordered before vertex after split successor edge)
  refine ⟨earlier, (position_eq_some distinct).mpr ?_, inside⟩
  rw [split, List.getElem?_append_left inside, List.getElem?_eq_getElem inside, found]

end Positions

variable {nodes : List Vertex} {successors : Vertex → List Vertex} {roots order : List Vertex}

/-- The conditions of a validator on positions and single edges. -/
structure Placed [DecidableEq Vertex] (nodes : List Vertex) (successors : Vertex → List Vertex)
    (order : List Vertex) : Prop where
  distinct : order.Nodup
  known : ∀ vertex ∈ order, vertex ∈ nodes
  placed : ∀ vertex ∈ nodes, ∃ index, position order vertex = some index ∧
    ∀ successor ∈ successors vertex, ∃ earlier, position order successor = some earlier ∧
      earlier < index

namespace Placed

variable [DecidableEq Vertex] (placed : Placed nodes successors order)
include placed

theorem enumerates (vertex : Vertex) : vertex ∈ order ↔ vertex ∈ nodes := by
  refine ⟨placed.known vertex, fun member => ?_⟩
  obtain ⟨index, found, _⟩ := placed.placed vertex member
  exact mem_of_position found

theorem ordered : Ordered successors order := by
  intro before vertex after split successor edge
  have member : vertex ∈ order := by simp [split]
  obtain ⟨index, found, earlier⟩ := placed.placed vertex (placed.known vertex member)
  obtain ⟨place, successorFound, below⟩ := earlier successor edge
  have here : order[before.length]? = some vertex := by simp [split]
  have inside : before.length < order.length := by simp [split]
  obtain rfl : before.length = index :=
    (List.getElem?_inj inside placed.distinct).mp
      (here.trans (getElem?_of_position found).symm)
  have there := getElem?_of_position successorFound
  rw [split, List.getElem?_append_left below] at there
  exact List.mem_of_getElem? there

theorem closed {vertex successor : Vertex} (member : vertex ∈ nodes)
    (edge : Edge successors vertex successor) : successor ∈ nodes := by
  obtain ⟨_, _, earlier⟩ := placed.placed vertex member
  obtain ⟨_, found, _⟩ := earlier successor edge
  exact placed.known successor (mem_of_position found)

theorem acyclic {vertex : Vertex} (member : vertex ∈ nodes) :
    ¬ Relation.TransGen (Edge successors) vertex vertex := by
  intro path
  obtain ⟨before, after, split⟩ := List.append_of_mem ((placed.enumerates vertex).mpr member)
  have early := placed.ordered.transitive split path
  have distinct := placed.distinct
  rw [split] at distinct
  exact (List.nodup_middle.mp distinct).notMem (List.mem_append_left _ early)

end Placed

/-- The conditions of a validator, with those on roots and on what a traversal reaches. -/
structure Checked [DecidableEq Vertex] (nodes : List Vertex) (successors : Vertex → List Vertex)
    (roots order : List Vertex) : Prop extends Placed nodes successors order where
  rooted : ∀ root ∈ roots, root ∈ nodes
  reached : ∀ vertex ∈ nodes, ∃ root ∈ roots, Relation.ReflTransGen (Edge successors) root vertex

/-- The local conditions imply the global ones. -/
theorem Checked.sound [DecidableEq Vertex] (checked : Checked nodes successors roots order) :
    Sound nodes successors roots order where
  acyclic := fun _ => checked.acyclic
  distinct := checked.distinct
  enumerates := checked.enumerates
  segments := by
    intro segment rest split vertex member reached path
    obtain ⟨before, after, rfl⟩ := List.append_of_mem member
    have inner : order = before ++ vertex :: (after ++ rest) := by simpa using split
    exact List.mem_append_left _ (checked.ordered.transitive inner path)
  reachable := by
    intro vertex
    refine ⟨checked.reached vertex, ?_⟩
    rintro ⟨root, rootMember, path⟩
    induction path with
    | refl => exact checked.rooted root rootMember
    | tail _ edge ih => exact checked.closed ih edge

/-! ## Renamed vertices -/

namespace Sound

variable (sound : Sound nodes successors roots order)
include sound

theorem closed {vertex successor : Vertex} (member : vertex ∈ nodes)
    (edge : Edge successors vertex successor) : successor ∈ nodes := by
  rw [← sound.enumerates] at member ⊢
  exact sound.segments order [] (List.append_nil _).symm vertex member successor (.single edge)

theorem root_mem {root : Vertex} (member : root ∈ roots) : root ∈ nodes :=
  (sound.reachable root).mpr ⟨root, member, .refl⟩

variable {Image : Type u} {rename : Vertex → Image} {images : Image → List Image}

section

variable (edges : ∀ vertex ∈ nodes, images (rename vertex) = (successors vertex).map rename)

include edges

variable {vertex : Vertex} {target : Image}

/-- A path between new names comes from a path between the old ones. -/
theorem path_of_image (member : vertex ∈ nodes)
    (path : Relation.ReflTransGen (Edge images) (rename vertex) target) :
    ∃ reached ∈ nodes, target = rename reached ∧
      Relation.ReflTransGen (Edge successors) vertex reached := by
  induction path with
  | refl => exact ⟨vertex, member, rfl, .refl⟩
  | tail _ edge ih =>
    obtain ⟨middle, known, rfl, before⟩ := ih
    rw [Edge, edges middle known] at edge
    obtain ⟨next, step, rfl⟩ := List.mem_map.mp edge
    exact ⟨next, sound.closed known step, rfl, before.tail step⟩

theorem transGen_of_image (member : vertex ∈ nodes)
    (path : Relation.TransGen (Edge images) (rename vertex) target) :
    ∃ reached ∈ nodes, target = rename reached ∧
      Relation.TransGen (Edge successors) vertex reached := by
  obtain ⟨between, edge, rest⟩ := Relation.TransGen.head'_iff.mp path
  rw [Edge, edges vertex member] at edge
  obtain ⟨next, step, rfl⟩ := List.mem_map.mp edge
  obtain ⟨reached, known, same, onward⟩ := sound.path_of_image edges (sound.closed member step) rest
  exact ⟨reached, known, same, Relation.TransGen.head' step onward⟩

theorem path_image {reached : Vertex} (member : vertex ∈ nodes)
    (path : Relation.ReflTransGen (Edge successors) vertex reached) :
    reached ∈ nodes ∧ Relation.ReflTransGen (Edge images) (rename vertex) (rename reached) := by
  induction path with
  | refl => exact ⟨member, .refl⟩
  | tail _ step ih =>
    obtain ⟨known, before⟩ := ih
    refine ⟨sound.closed known step, before.tail ?_⟩
    rw [Edge, edges _ known]
    exact List.mem_map_of_mem step

end

/-- A sound order stays sound when its vertices get new names, one name each. -/
theorem image
    (injective : ∀ first ∈ nodes, ∀ second ∈ nodes, rename first = rename second → first = second)
    (edges : ∀ vertex ∈ nodes, images (rename vertex) = (successors vertex).map rename) :
    Sound (nodes.map rename) images (roots.map rename) (order.map rename) where
  acyclic := by
    intro name member cycle
    obtain ⟨vertex, known, rfl⟩ := List.mem_map.mp member
    obtain ⟨reached, reachedKnown, same, path⟩ := sound.transGen_of_image edges known cycle
    obtain rfl := injective vertex known reached reachedKnown same
    exact sound.acyclic vertex known path
  distinct := by
    refine sound.distinct.map_on fun first firstMember second secondMember same => ?_
    exact injective first ((sound.enumerates first).mp firstMember) second
      ((sound.enumerates second).mp secondMember) same
  enumerates := by
    intro name
    simp only [List.mem_map, sound.enumerates]
  segments := by
    intro segment rest split name member target path
    obtain ⟨early, late, rfl, rfl, rfl⟩ := List.map_eq_append_iff.mp split
    obtain ⟨vertex, among, rfl⟩ := List.mem_map.mp member
    have known : vertex ∈ nodes :=
      (sound.enumerates vertex).mp (List.mem_append_left _ among)
    obtain ⟨reached, -, rfl, onward⟩ := sound.transGen_of_image edges known path
    exact List.mem_map_of_mem (sound.segments early late rfl vertex among reached onward)
  reachable := by
    intro name
    constructor
    · intro member
      obtain ⟨vertex, known, rfl⟩ := List.mem_map.mp member
      obtain ⟨root, rooted, path⟩ := (sound.reachable vertex).mp known
      exact ⟨rename root, List.mem_map_of_mem rooted,
        (sound.path_image edges (sound.root_mem rooted) path).2⟩
    · rintro ⟨start, member, path⟩
      obtain ⟨root, rooted, rfl⟩ := List.mem_map.mp member
      obtain ⟨reached, known, rfl, -⟩ := sound.path_of_image edges (sound.root_mem rooted) path
      exact List.mem_map_of_mem known

end Sound

end InstallOrder

end DalecHomebrew.Foundation
