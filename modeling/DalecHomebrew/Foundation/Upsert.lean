import Mathlib.Data.List.Induction

/-!
# Lists with one element for each key

`upsert` puts an element in the place of the one that has its key, and `merge` does so for
all elements of a list.  An element without a key is always added.
-/

namespace DalecHomebrew.Foundation.Upsert

universe u v

variable {Item : Type u} {Key : Type v} [DecidableEq Key] (key : Item → Option Key)

def position (name : Key) (items : List Item) : Option Nat :=
  items.findIdx? fun item => key item = some name

def upsert (items : List Item) (item : Item) : List Item :=
  match (key item).bind (position key · items) with
  | some index => items.set index item
  | none => items ++ [item]

def merge (items : List Item) : List Item := items.foldl (upsert key) []

/-- The elements with one key, or all that have none. -/
def having (name : Option Key) (items : List Item) : List Item :=
  items.filter fun item => key item = name

/-- The keys of a merged list after one more element. -/
def addKey (names : List (Option Key)) (name : Option Key) : List (Option Key) :=
  if name ≠ none ∧ name ∈ names then names else names ++ [name]

variable {key} {item : Item} {items : List Item}

theorem upsert_nil : upsert key [] item = [item] := by
  cases known : key item <;> simp [upsert, known, position]

theorem upsert_cons (other : Item) (items : List Item) : upsert key (other :: items) item =
      if key item ≠ none ∧ key other = key item then item :: items
      else other :: upsert key items item := by
  cases known : key item with
  | none => simp [upsert, known]
  | some name =>
    by_cases same : key other = some name
    · simp [upsert, known, same, position, List.findIdx?_cons]
    · have later : position key name (other :: items) = (position key name items).map (· + 1) := by
        simp [position, List.findIdx?_cons, same]
      cases found : position key name items <;> simp [upsert, known, later, found, same]

theorem upsert_of_new (new : ∀ other ∈ items, key item = none ∨ key other ≠ key item) :
    upsert key items item = items ++ [item] := by
  induction items with
  | nil => exact upsert_nil
  | cons other rest ih => grind [upsert_cons]

theorem position_upsert (name : Key) : position key name (upsert key items item) =
      (position key name items).or (if key item = some name then some items.length else none) := by
  induction items with
  | nil => grind [upsert_nil, position]
  | cons other rest ih => grind [upsert_cons, position]

theorem map_upsert : (upsert key items item).map key = addKey (items.map key) (key item) := by
  induction items with
  | nil => simp [upsert_nil, addKey]
  | cons other rest ih => grind [upsert_cons, addKey]

theorem having_upsert (name : Option Key) : having key name (upsert key items item) =
      if key item ≠ name then having key name items
      else if name = none then having key name items ++ [item]
      else item :: (having key name items).tail := by
  induction items with
  | nil => grind [upsert_nil, having]
  | cons other rest ih => grind [upsert_cons, having]

/-! ## All elements of a list -/

theorem merge_concat : merge key (items ++ [item]) = upsert key (merge key items) item := by
  simp [merge]

/-- The keys stand in the order of their first occurrences. -/
theorem map_merge (items : List Item) :
    (merge key items).map key = (items.map key).foldl addKey [] := by
  rw [List.foldl_map]
  exact (List.foldl_hom (List.map key) fun _ _ => map_upsert.symm).symm

theorem pairwise_merge (items : List Item) :
    (merge key items).Pairwise fun earlier later => key later = none ∨ key earlier ≠ key later := by
  rw [← List.pairwise_map (R := fun earlier later => later = none ∨ earlier ≠ later), map_merge]
  refine List.foldlRecOn _ _ .nil fun names distinct name _ => ?_
  unfold addKey
  split
  · exact distinct
  · grind

/-- Of the elements with one key only the last is left. -/
theorem having_merge (name : Option Key) (items : List Item) :
    having key name (merge key items) =
      if name = none then having key name items else (having key name items).getLast?.toList := by
  induction items using List.reverseRecOn with
  | nil => simp [merge, having]
  | append_singleton items item ih =>
    rw [merge_concat, having_upsert, ih]
    by_cases same : key item = name
    · cases last : (having key name items).getLast? <;> grind [having]
    · simp [having, same]

/-- What has been merged may be merged again with what comes after it. -/
theorem merge_merge_append (items more : List Item) :
    merge key (merge key items ++ more) = merge key (items ++ more) := by
  have again : merge key (merge key items) = merge key items := by
    have distinct := @pairwise_merge _ _ _ key items
    generalize merge key items = merged at distinct
    induction merged using List.reverseRecOn with
    | nil => rfl
    | append_singleton before last ih =>
      obtain ⟨distinct, _, new⟩ := List.pairwise_append.mp distinct
      rw [merge_concat, ih distinct, upsert_of_new]
      exact fun other member => new other member last List.mem_cons_self
  rw [merge, List.foldl_append, ← merge, again, merge, merge, List.foldl_append]

end DalecHomebrew.Foundation.Upsert
