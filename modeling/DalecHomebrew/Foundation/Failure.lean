import DalecHomebrew.Foundation.Fold

/-!
# Where a computation fails

The counterparts of the rules for successful loops: a sequence fails in one of its
parts, and a loop fails at one element, after the elements before it have succeeded.
-/

namespace DalecHomebrew.Foundation

universe u v w

variable {State : Type u} {Item : Type v} {Error Other : Type w}
  {step : State → Item → Except Error State} {error : Error}

theorem bind_eq_error {Value Result : Type u} {first : Except Error Value}
    {next : Value → Except Error Result} : (first >>= next) = .error error ↔
      first = .error error ∨ ∃ value, first = .ok value ∧ next value = .error error := by
  cases first with
  | error raised | ok value => simp [bind, Except.bind]

/-- A loop that fails does so at one element, and the elements before it have succeeded. -/
theorem foldlM_eq_error {items : List Item} {source : State}
    (failed : items.foldlM step source = .error error) :
    ∃ before item after middle, items = before ++ item :: after ∧
      before.foldlM step source = .ok middle ∧ step middle item = .error error := by
  induction items generalizing source with
  | nil => simp [pure, Except.pure] at failed
  | cons item rest ih =>
    rw [List.foldlM_cons, bind_eq_error] at failed
    rcases failed with here | ⟨middle, first, later⟩
    · exact ⟨[], item, rest, source, rfl, foldlM_nil_eq_ok.mpr rfl, here⟩
    · obtain ⟨before, found, after, reached, rfl, succeeded, there⟩ := ih later
      exact ⟨item :: before, found, after, reached, rfl,
        foldlM_cons_eq_ok.mpr ⟨middle, first, succeeded⟩, there⟩

/-- An error that no iteration can raise is not raised by the loop. -/
theorem foldlM_ne_error {items : List Item} {source : State} {motive : State → Prop}
    (kept : ∀ source item target, item ∈ items → motive source →
      step source item = .ok target → motive target)
    (never : ∀ source item, item ∈ items → motive source → step source item ≠ .error error)
    (holds : motive source) :
    items.foldlM step source ≠ .error error := by
  intro failed
  obtain ⟨before, item, after, middle, rfl, ran, raised⟩ := foldlM_eq_error failed
  have reached := foldlM_preserves
    (fun source item target member => kept source item target (by simp [member])) ran holds
  exact never middle item (by simp) reached raised

end DalecHomebrew.Foundation
