import DalecHomebrew.Foundation.GoString
import Mathlib.Data.List.Nodup

/-!
# Validators that collect findings

A validator of the source appends the texts of everything it objects to and
joins them at the end, so that it accepts exactly when nothing was appended.
The lemmas below turn "no finding" into a statement about the data: the
message, the field path and the position in a slice disappear from it, which
is what makes acceptance independent of the order of a slice.
-/

namespace DalecHomebrew.Foundation

open Foundation.GoString

/-- `errors.Join`. -/
def joinErrors (findings : List String) : Except String Unit :=
  if findings = [] then .ok () else .error (join findings "\n")

/-- One finding, if there is something to report. -/
def finding (found : Bool) (message : String) : List String :=
  if found then [message] else []

/-- The finding of a nested validator under its field path. -/
def nested (path : String) : Except String Unit → List String
  | .ok _ => []
  | .error message => [path ++ ": " ++ message]

/-- The finding of a nested validator that already names its subject. -/
def reported : Except String Unit → List String
  | .ok _ => []
  | .error message => [message]

/-- `fmt.Errorf` with a context and the wrapped error. -/
def withContext {Value : Type*} (context : String) : Except String Value → Except String Value
  | .ok value => .ok value
  | .error message => .error (context ++ ": " ++ message)

/-- A field path with an index. -/
def indexed (field : String) (index : Nat) : String :=
  field ++ "[" ++ decimal index ++ "]"

/-- The elements of a slice with their positions and the elements before them. -/
def positioned {Item : Type} (items : List Item) : List (List Item × Nat × Item) :=
  items.zipIdx.map fun entry => (items.take entry.2, entry.2, entry.1)

/-! ## Acceptance -/

@[simp]
theorem joinErrors_eq_ok {findings : List String} {result : Unit} :
    joinErrors findings = .ok result ↔ findings = [] := by
  unfold joinErrors
  split <;> simp_all

@[simp]
theorem finding_eq_nil {found : Bool} {message : String} :
    finding found message = [] ↔ found = false := by
  cases found <;> simp [finding]

variable {result : Except String Unit}

@[simp]
theorem nested_eq_nil {path : String} : nested path result = [] ↔ result = .ok () := by
  cases result <;> simp [nested]

@[simp]
theorem reported_eq_nil : reported result = [] ↔ result = .ok () := by
  cases result <;> simp [reported]

@[simp]
theorem withContext_eq_ok {Value : Type*} {context : String} {result : Except String Value}
    {value : Value} : withContext context result = .ok value ↔ result = .ok value := by
  cases result <;> simp [withContext]

variable {Item Key : Type} {items : List Item}

theorem mem_positioned {entry : List Item × Nat × Item} :
    entry ∈ positioned items ↔
      ∃ after, items = entry.1 ++ entry.2.2 :: after ∧ entry.2.1 = entry.1.length := by
  obtain ⟨before, index, item⟩ := entry
  simp only [positioned, List.mem_map, Prod.mk.injEq]
  constructor
  · rintro ⟨⟨element, position⟩, member, rfl, rfl, rfl⟩
    obtain ⟨inside, same⟩ := List.mem_zipIdx' member
    refine ⟨items.drop (position + 1), ?_, ?_⟩
    · simp only [same]
      rw [List.getElem_cons_drop inside, List.take_append_drop]
    · exact (List.length_take_of_le (Nat.le_of_lt inside)).symm
  · rintro ⟨after, rfl, rfl⟩
    refine ⟨(item, before.length), ?_, by simp, rfl, rfl⟩
    rw [List.mk_mem_zipIdx_iff_getElem?]
    simp

/-- A check of every element that does not look at its position. -/
theorem forall_positioned {holds : Item → Prop} :
    (∀ entry ∈ positioned items, holds entry.2.2) ↔ ∀ item ∈ items, holds item := by
  constructor
  · intro every item member
    obtain ⟨before, after, rfl⟩ := List.append_of_mem member
    exact every (before, before.length, item) (mem_positioned.mpr ⟨after, rfl, rfl⟩)
  · intro every entry member
    obtain ⟨after, split, _⟩ := mem_positioned.mp member
    exact every _ (by rw [split]; simp)

variable {items : List Item}

/-- A check that no earlier element has the key of this one. -/
theorem forall_positioned_fresh {key : Item → Key} :
    (∀ entry ∈ positioned items, ∀ earlier ∈ entry.1, key earlier ≠ key entry.2.2) ↔
      (items.map key).Nodup := by
  rw [List.Nodup, List.pairwise_map]
  constructor
  · intro every
    rw [List.pairwise_iff_getElem]
    intro left right leftInside rightInside before
    have member : (items.take right, right, items[right]) ∈ positioned items :=
      List.mem_map.mpr ⟨(items[right], right),
        List.mk_mem_zipIdx_iff_getElem?.mpr (List.getElem?_eq_getElem rightInside), rfl⟩
    exact every _ member _ (List.mem_take_iff_getElem.mpr ⟨left, by omega, rfl⟩)
  · intro distinct entry member earlier among
    obtain ⟨after, split, _⟩ := mem_positioned.mp member
    rw [split, List.pairwise_append] at distinct
    exact distinct.2.2 earlier among _ (List.mem_cons_self)

/-! ## Loops with an index -/

theorem forall_zipIdx_iff {holds : List Item → Item → Prop} :
    (∀ entry ∈ items.zipIdx, holds (items.take entry.2) entry.1) ↔
      ∀ entry ∈ positioned items, holds entry.1 entry.2.2 := by
  simp only [positioned, List.forall_mem_map]

theorem forall_zipIdx {holds : Item → Prop} :
    (∀ entry ∈ items.zipIdx, holds entry.1) ↔ ∀ item ∈ items, holds item :=
  (@forall_zipIdx_iff Item items fun _ item => holds item).trans forall_positioned

theorem forall_zipIdx_fresh [DecidableEq Key] {key : Item → Key} :
    (∀ entry ∈ items.zipIdx,
        ((items.take entry.2).any fun earlier => key earlier == key entry.1) = false) ↔
      (items.map key).Nodup := by
  rw [← forall_positioned_fresh, @forall_zipIdx_iff Item items
    fun before item => (before.any fun earlier => key earlier == key item) = false]
  simp

theorem forall_zipIdx_new [DecidableEq Item] :
    (∀ entry ∈ items.zipIdx, (items.take entry.2).contains entry.1 = false) ↔ items.Nodup := by
  have fresh := @forall_positioned_fresh Item Item items id
  rw [List.map_id] at fresh
  rw [← fresh, @forall_zipIdx_iff Item items fun before item => before.contains item = false]
  simp only [List.contains_eq_mem, decide_eq_false_iff_not, id_eq, List.forall_mem_ne']

theorem forall_zipIdx_and_new [DecidableEq Item] {holds : Item → Prop} :
    (∀ entry ∈ items.zipIdx, holds entry.1 ∧ (items.take entry.2).contains entry.1 = false) ↔
      (∀ item ∈ items, holds item) ∧ items.Nodup := by
  rw [← forall_zipIdx_new, ← @forall_zipIdx Item items holds, ← forall₂_and]

end DalecHomebrew.Foundation
