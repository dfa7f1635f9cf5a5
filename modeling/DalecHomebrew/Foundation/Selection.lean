import Mathlib.Data.List.Basic
import Mathlib.Data.List.TakeWhile

/-!
# Greedy selection of roots

One pass over a list chooses roots.  Once a root is chosen, the elements that follow
it and lie below it are passed over; the pass continues at the first element that does
not.  What such a pass chooses is described by `Selects`.

When every block of a chosen root takes in all that lies below the root, no chosen root
lies below another one.
-/

namespace DalecHomebrew.Foundation.Selection

section Blocks

variable {Item : Type*} {less : Item → Item → Prop} {holds : Item → Bool} {items : List Item}

/-- In a sorted list the elements of an interval follow each other. -/
theorem not_of_mem_dropWhile (sorted : items.Pairwise less)
    (interval : ∀ low middle high, less low middle → less middle high →
      holds low = true → holds high = true → holds middle = true)
    (first : ∀ item ∈ items.head?, holds item = true)
    {item : Item}
    (member : item ∈ items.dropWhile holds) :
    holds item = false := by
  cases items with
  | nil => simp at member
  | cons low rest =>
    have lowHolds : holds low = true := first low rfl
    rw [List.dropWhile_cons_of_pos lowHolds] at member
    have above : ∀ middle ∈ rest, less low middle := (List.pairwise_cons.mp sorted).1
    have ordered := (List.pairwise_cons.mp sorted).2
    cases stopped : rest.dropWhile holds with
    | nil => simp [stopped] at member
    | cons middle later =>
      have fails : holds middle = false := by
        have := List.head?_dropWhile_not holds rest
        simpa [stopped] using this
      have suffix : rest.dropWhile holds <:+ rest := List.dropWhile_suffix _
      rw [stopped] at member suffix
      rcases List.mem_cons.mp member with rfl | later
      · exact fails
      · have between : less middle item :=
          (List.pairwise_cons.mp (ordered.sublist suffix.sublist)).1 item later
        by_contra high
        rw [Bool.not_eq_false] at high
        have := interval low middle item
          (above middle (suffix.subset List.mem_cons_self)) between lowHolds high
        rw [fails] at this
        cases this

/-- Skipping a run from the front either stops in front of a position or passes it. -/
theorem dropWhile_append_cons (holds : Item → Bool) (before : List Item) (item : Item)
    (rest : List Item) :
    (∃ after, (before ++ item :: rest).dropWhile holds = after ++ item :: rest) ∨
      holds item = true := by
  induction before with
  | nil =>
    by_cases inside : holds item = true
    · exact .inr inside
    · exact .inl ⟨[], List.dropWhile_cons_of_neg inside⟩
  | cons head before ih =>
    by_cases inside : holds head = true
    · rwa [List.cons_append, List.dropWhile_cons_of_pos inside]
    · exact .inl ⟨head :: before, List.dropWhile_cons_of_neg inside⟩

/-- Exactly one element of a list has a property that no two of its elements share. -/
theorem countP_eq_one
    (apart : items.Pairwise fun left right => ¬ (holds left = true ∧ holds right = true))
    (found : ∃ item ∈ items, holds item = true) :
    items.countP holds = 1 := by
  induction items with
  | nil => simp at found
  | cons head rest ih =>
    obtain ⟨alone, later⟩ := List.pairwise_cons.mp apart
    by_cases first : holds head = true
    · have none : rest.countP holds = 0 :=
        List.countP_eq_zero.mpr fun item member second => alone item member ⟨first, second⟩
      rw [List.countP_cons_of_pos first, none]
    · rw [List.countP_cons_of_neg first]
      obtain ⟨item, member, second⟩ := found
      refine ih later ⟨item, ?_, second⟩
      exact (List.mem_cons.mp member).resolve_left fun same => first (same ▸ second)

end Blocks

section Pass

variable {Item : Type*} (below : Item → Item → Bool) (chosen : Item → List Item → Bool)

/-- `Selects items roots` says that the pass over `items` chooses `roots`. -/
inductive Selects : List Item → List Item → Prop
  | nil : Selects [] []
  | pass {root : Item} {rest roots : List Item}
      (refused : chosen root rest = false)
      (later : Selects rest roots) :
      Selects (root :: rest) roots
  | take {root : Item} {rest roots : List Item}
      (accepted : chosen root rest = true)
      (later : Selects (rest.dropWhile fun item => below item root) roots) :
      Selects (root :: rest) (root :: roots)

variable {below chosen} {items roots : List Item}

theorem Selects.sublist (selects : Selects below chosen items roots) : roots.Sublist items := by
  induction selects with
  | nil => exact List.Sublist.refl []
  | pass _ _ ih => exact ih.cons _
  | take _ _ ih => exact (ih.trans (List.dropWhile_sublist _)).cons_cons _

/-- A chosen root was accepted where it stands. -/
theorem Selects.accepted (selects : Selects below chosen items roots) {root : Item}
    (member : root ∈ roots) :
    ∃ before rest, items = before ++ root :: rest ∧ chosen root rest = true := by
  induction selects with
  | nil => cases member
  | @pass head _ _ _ _ ih =>
    obtain ⟨before, rest, rfl, yes⟩ := ih member
    exact ⟨head :: before, rest, rfl, yes⟩
  | @take head tail _ yes _ ih =>
    rcases List.mem_cons.mp member with rfl | later
    · exact ⟨[], tail, rfl, yes⟩
    · obtain ⟨before, rest, split, found⟩ := ih later
      obtain ⟨block, whole⟩ := List.dropWhile_suffix (l := tail) fun item => below item head
      refine ⟨head :: (block ++ before), rest, ?_, found⟩
      rw [← whole, split]
      simp

/-- Every position that would be accepted lies below a chosen root. -/
theorem Selects.covered (reflexive : ∀ item, below item item = true)
    (selects : Selects below chosen items roots) {before rest : List Item} {root : Item}
    (split : items = before ++ root :: rest) (yes : chosen root rest = true) :
    ∃ chief ∈ roots, below root chief = true := by
  induction selects generalizing before with
  | nil => simp at split
  | @pass head _ _ refused _ ih =>
    cases before with
    | nil =>
      obtain ⟨rfl, rfl⟩ := List.cons_eq_cons.mp split
      rw [refused] at yes
      cases yes
    | cons _ before => exact ih (List.cons_eq_cons.mp split).2
  | @take head tail _ _ _ ih =>
    cases before with
    | nil =>
      obtain ⟨rfl, rfl⟩ := List.cons_eq_cons.mp split
      exact ⟨_, List.mem_cons_self, reflexive _⟩
    | cons _ before =>
      obtain ⟨rfl, rfl⟩ := List.cons_eq_cons.mp split
      -- The pass goes on behind the block, either before this position or after it.
      rcases dropWhile_append_cons (fun item => below item head) before root rest with
        ⟨after, remains⟩ | inside
      · obtain ⟨chief, member, covers⟩ := ih remains
        exact ⟨chief, List.mem_cons_of_mem _ member, covers⟩
      · exact ⟨head, List.mem_cons_self, inside⟩

/-- No chosen root lies below an earlier one when blocks are complete. -/
theorem Selects.apart (selects : Selects below chosen items roots)
    (complete : ∀ before root rest, items = before ++ root :: rest → chosen root rest = true →
      ∀ item ∈ rest.dropWhile (fun item => below item root), below item root = false) :
    roots.Pairwise fun earlier later => below later earlier = false := by
  induction selects with
  | nil => exact List.Pairwise.nil
  | @pass head _ _ _ _ ih =>
    refine ih fun before root rest split => ?_
    exact complete (head :: before) root rest (by rw [split, List.cons_append])
  | @take head tail _ yes later ih =>
    refine List.pairwise_cons.mpr ⟨fun item member => ?_, ih fun before root rest split => ?_⟩
    · exact complete [] head tail rfl yes item (later.sublist.subset member)
    · obtain ⟨block, whole⟩ := List.dropWhile_suffix (l := tail) fun item => below item head
      refine complete (head :: (block ++ before)) root rest ?_
      rw [← whole, split]
      simp

end Pass

end DalecHomebrew.Foundation.Selection
