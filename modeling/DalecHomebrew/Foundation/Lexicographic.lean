import DalecHomebrew.Foundation.GoString

/-!
# Texts with a common beginning

In a lexicographic order the sequences that begin with one given sequence are an
interval: whatever lies between two of them begins with it as well.
-/

namespace DalecHomebrew.Foundation.Lexicographic

section Lists

variable {Item : Type*} [LinearOrder Item] {lefts rights start : List Item}

theorem cons_le_cons {left right : Item} :
    left :: lefts ≤ right :: rights ↔ left < right ∨ left = right ∧ lefts ≤ rights := by
  rw [le_iff_lt_or_eq, List.cons_lt_cons_iff, List.cons.injEq, or_assoc, ← and_or_left,
    ← le_iff_lt_or_eq]

@[simp]
theorem append_le_append : start ++ lefts ≤ start ++ rights ↔ lefts ≤ rights := by
  induction start with
  | nil => rfl
  | cons item items ih =>
    rw [List.cons_append, List.cons_append, cons_le_cons, ih]
    simp

theorem le_of_isPrefix {whole : List Item} (begins : start <+: whole) : start ≤ whole := by
  obtain ⟨rest, rfl⟩ := begins
  induction start with
  | nil =>
    rw [← not_lt]
    exact List.not_lt_nil _
  | cons item items ih => exact cons_le_cons.mpr (.inr ⟨rfl, ih⟩)

/-- The sequences with one beginning are an interval. -/
theorem isPrefix_of_between {low middle high : List Item} (lowBegins : start <+: low)
    (highBegins : start <+: high) (above : low ≤ middle) (below : middle ≤ high) :
    start <+: middle := by
  induction start generalizing low middle high with
  | nil => exact List.nil_prefix
  | cons item items ih =>
    obtain ⟨lowRest, rfl⟩ := lowBegins
    obtain ⟨highRest, rfl⟩ := highBegins
    cases middle with
    | nil =>
      rw [← not_lt] at above
      exact absurd (List.nil_lt_cons _ _) above
    | cons head tail =>
      rw [List.cons_append, cons_le_cons] at above below
      obtain rfl : item = head := by
        rcases above with above | above
        · rcases below with below | below
          · exact absurd below (lt_asymm above)
          · exact below.1.symm
        · exact above.1
      refine (List.prefix_cons_inj item).mpr ?_
      exact ih (List.prefix_append items lowRest) (List.prefix_append items highRest)
        (above.resolve_left (lt_irrefl _)).2 (below.resolve_left (lt_irrefl _)).2

end Lists

section Texts

open Foundation.GoString

theorem le_append (start rest : String) : start ≤ start ++ rest := by
  rw [String.le_iff_toList_le, String.toList_append]
  exact le_of_isPrefix (List.prefix_append _ _)

theorem hasPrefix_of_between {start low middle high : String}
    (lowBegins : hasPrefix low start = true) (highBegins : hasPrefix high start = true)
    (above : low ≤ middle) (below : middle ≤ high) :
    hasPrefix middle start = true := by
  rw [hasPrefix, List.isPrefixOf_iff_prefix] at *
  exact isPrefix_of_between lowBegins highBegins (String.le_iff_toList_le.mp above)
    (String.le_iff_toList_le.mp below)

end Texts

end DalecHomebrew.Foundation.Lexicographic
