import Mathlib.Data.List.Forall2

/-!
# Loops that may fail

A Go loop that returns on the first error is a `foldlM` in `Except`.  The rules
of this module are the only facts about such loops that later proofs use: how a
successful loop starts, what it preserves, and which errors it cannot end with.
-/

namespace DalecHomebrew.Foundation

universe u v w

variable {State : Type u} {Item : Type v} {Error : Type w} {step : State → Item → Except Error State}

/-- A sequence of two computations succeeds exactly when both do. -/
theorem bind_eq_ok {Value Result : Type u} {first : Except Error Value}
    {next : Value → Except Error Result} {result : Result} :
    (first >>= next) = .ok result ↔ ∃ value, first = .ok value ∧ next value = .ok result := by
  cases first with
  | error error | ok value => simp [bind, Except.bind]

/-- A computation that throws stays thrown. -/
@[simp]
theorem throw_bind {Value Result : Type u} (error : Error) (next : Value → Except Error Result) :
    ((throw error : Except Error Value) >>= next) = .error error := rfl

variable {error : Error}

/-- A check that fails ends the computation. -/
theorem ite_error_eq_ok {Value : Type u} {failed : Prop} [Decidable failed]
    {next : Except Error Value} {result : Value} :
    (if failed then .error error else next) = .ok result ↔ ¬ failed ∧ next = .ok result := by
  by_cases found : failed
  · simp [found]
  · simp [found]

theorem pure_eq_ok {Value : Type u} {value result : Value} :
    (pure value : Except Error Value) = .ok result ↔ value = result :=
  Except.ok.injEq value result ▸ Iff.rfl

/-- A check at the end of a computation. -/
theorem ite_throw_eq_ok {failed : Prop} [Decidable failed] {result : Unit} :
    (if failed then throw error else pure () : Except Error Unit) = .ok result ↔ ¬ failed := by
  by_cases found : failed
  · simp [found, throw, throwThe, MonadExceptOf.throw]
  · simp [found, pure, Except.pure]

/-- What is known to succeed has a result. -/
theorem exists_eq_ok_of_toBool {Value : Type u} {result : Except Error Value}
    (succeeds : result.toBool = true) : ∃ value, result = .ok value := by
  cases result with
  | error error => cases succeeds
  | ok value => exact ⟨value, rfl⟩

variable {source target : State}

/-- The first iteration of a successful loop succeeds, and so does the rest. -/
theorem foldlM_cons_eq_ok {item : Item} {rest : List Item} :
    (item :: rest).foldlM step source = .ok target ↔
      ∃ middle, step source item = .ok middle ∧ rest.foldlM step middle = .ok target := by
  rw [List.foldlM_cons]
  exact bind_eq_ok

@[simp]
theorem foldlM_nil_eq_ok :
    ([] : List Item).foldlM step source = .ok target ↔ source = target := by
  simp [pure, Except.pure]

variable {items : List Item} {motive : State → Prop}

/-- What every iteration keeps, the loop keeps. -/
theorem foldlM_preserves (kept : ∀ source item target, item ∈ items → motive source →
      step source item = .ok target → motive target)
    (result : items.foldlM step source = .ok target)
    (holds : motive source) :
    motive target := by
  induction items generalizing source with
  | nil =>
    obtain rfl := foldlM_nil_eq_ok.mp result
    exact holds
  | cons item rest ih =>
    obtain ⟨middle, first, later⟩ := foldlM_cons_eq_ok.mp result
    exact ih (fun source item target member => kept source item target
        (List.mem_cons_of_mem _ member)) later
      (kept source item middle List.mem_cons_self holds first)

/-- What holds after a loop held before it, or an element brought it. -/
theorem foldl_origin {step : State → Item → State} {brings : Item → Prop}
    (each : ∀ source item, motive (step source item) → motive source ∨ brings item)
    (after : motive (items.foldl step source)) :
    motive source ∨ ∃ item ∈ items, brings item := by
  induction items generalizing source with
  | nil => exact .inl after
  | cons item rest ih =>
    rcases ih after with earlier | ⟨other, among, brought⟩
    · exact (each source item earlier).imp_right fun brought => ⟨item, List.mem_cons_self, brought⟩
    · exact .inr ⟨other, List.mem_cons_of_mem _ among, brought⟩

/-- What every iteration keeps of the elements seen so far, the loop keeps of all of them. -/
theorem foldlM_history {motive : List Item → State → Prop}
    (kept : ∀ seen source item target, motive seen source → step source item = .ok target →
      motive (seen ++ [item]) target)
    {seen : List Item}
    (result : items.foldlM step source = .ok target)
    (holds : motive seen source) :
    motive (seen ++ items) target := by
  induction items generalizing seen source with
  | nil =>
    obtain rfl := foldlM_nil_eq_ok.mp result
    simpa using holds
  | cons item rest ih =>
    obtain ⟨middle, first, later⟩ := foldlM_cons_eq_ok.mp result
    have next := ih later (kept seen source item middle holds first)
    simpa using next

/-- A loop whose successful iterations all compute one function computes its fold. -/
theorem foldlM_eq_foldl {next : State → Item → State}
    (computes : ∀ source item target, step source item = .ok target → target = next source item)
    (result : items.foldlM step source = .ok target) :
    target = items.foldl next source := by
  induction items generalizing source with
  | nil => exact (foldlM_nil_eq_ok.mp result).symm
  | cons item rest ih =>
    obtain ⟨middle, first, later⟩ := foldlM_cons_eq_ok.mp result
    rw [List.foldl_cons, ← computes source item middle first]
    exact ih later

/-- A loop whose iterations all succeed succeeds. -/
theorem foldlM_succeeds {items : List Item} (next : ∀ source item, item ∈ items → motive source →
      ∃ target, step source item = .ok target ∧ motive target)
    {source : State}
    (holds : motive source) :
    ∃ target, items.foldlM step source = .ok target ∧ motive target := by
  induction items generalizing source with
  | nil => exact ⟨source, foldlM_nil_eq_ok.mpr rfl, holds⟩
  | cons item rest ih =>
    obtain ⟨middle, first, kept⟩ := next source item List.mem_cons_self holds
    obtain ⟨target, later, reached⟩ :=
      ih (fun source item member => next source item (List.mem_cons_of_mem _ member)) kept
    exact ⟨target, foldlM_cons_eq_ok.mpr ⟨middle, first, later⟩, reached⟩

/-- A loop that collects one result per element. -/
theorem mapM_eq_ok {Source Target : Type u} {each : Source → Except Error Target}
    {items : List Source} {results : List Target} :
    items.mapM each = .ok results ↔
      List.Forall₂ (fun item result => each item = .ok result) items results := by
  induction items generalizing results with
  | nil => simp [pure, Except.pure, eq_comm]
  | cons item rest ih =>
    simp only [List.mapM_cons, bind_eq_ok, List.forall₂_cons_left_iff, ih, pure_eq_ok]
    constructor
    · rintro ⟨first, made, others, later, rfl⟩
      exact ⟨first, others, made, later, rfl⟩
    · rintro ⟨first, others, made, later, rfl⟩
      exact ⟨first, made, others, later, rfl⟩

/-- A loop of checks succeeds exactly when every check does. -/
theorem forM_eq_ok {check : Item → Except Error PUnit} :
    items.forM check = .ok ⟨⟩ ↔ ∀ item ∈ items, check item = .ok ⟨⟩ := by
  induction items with
  | nil => simp [pure, Except.pure]
  | cons item rest ih =>
    rw [List.forM, bind_eq_ok, List.forall_mem_cons, ← ih]
    exact ⟨fun ⟨_, first, later⟩ => ⟨first, later⟩, fun ⟨first, later⟩ => ⟨_, first, later⟩⟩

end DalecHomebrew.Foundation
