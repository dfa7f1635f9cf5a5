import Mathlib.Data.List.Basic

/-!
# Labelled machines and their runs

A machine is a partial step function: a label names everything the
environment decides, so one label has at most one outcome and the runs of a
concrete machine can be evaluated.  A guard restricts which labels a run may
take in which state.  Every safety proof below goes through
`Run.preserves`: what one guarded step keeps, a whole guarded run keeps.
-/

namespace DalecHomebrew.Foundation

universe u v

/-- A machine whose steps are resolved completely by their label. -/
structure Machine (State : Type u) (Label : Type v) where
  step : State → Label → Option State

namespace Machine

variable {State : Type u} {Label : Type v} (machine : Machine State Label)

/--
A run all of whose labels are allowed in the state they are taken in.
-/
inductive Run (allowed : State → Label → Bool) :
    State → List Label → State → Prop where
  | nil (state : State) : Run allowed state [] state
  | cons {source middle target : State} {label : Label} {rest : List Label}
      (permitted : allowed source label = true)
      (taken : machine.step source label = some middle)
      (tail : Run allowed middle rest target) :
      Run allowed source (label :: rest) target

/-- The guard that allows every label. -/
def unguarded : State → Label → Bool := fun _ _ => true

/-- The state in which a sequence of allowed labels ends. -/
def execute (allowed : State → Label → Bool) (source : State) : List Label → Option State
  | [] => some source
  | label :: rest =>
    if allowed source label then
      (machine.step source label).bind fun middle => execute allowed middle rest
    else none

variable {machine} {allowed : State → Label → Bool} {source target : State} {labels : List Label}

/-- A run can be evaluated. -/
theorem Run.of_execute (ends : machine.execute allowed source labels = some target) :
    machine.Run allowed source labels target := by
  induction labels generalizing source with
  | nil =>
    cases ends
    exact .nil target
  | cons label rest ih =>
    unfold execute at ends
    split at ends
    · rename_i permitted
      obtain ⟨middle, taken, later⟩ := Option.bind_eq_some_iff.mp ends
      exact .cons permitted taken (ih later)
    · cases ends

/-- A run to a state with a property that can be evaluated. -/
theorem exists_run {property : State → Prop} [DecidablePred property] (source : State)
    (labels : List Label)
    (reached : (machine.execute allowed source labels).any (property ·) = true) :
    ∃ labels target, machine.Run allowed source labels target ∧ property target := by
  rw [Option.any_eq_true] at reached
  obtain ⟨target, ends, holds⟩ := reached
  exact ⟨labels, target, .of_execute ends, of_decide_eq_true holds⟩

/-- The invariant rule: a property kept by guarded steps is kept by runs. -/
theorem Run.preserves {invariant : State → Prop}
    (kept : ∀ source label target, invariant source → allowed source label = true →
      machine.step source label = some target → invariant target)
    (run : machine.Run allowed source labels target)
    (holds : invariant source) :
    invariant target := by
  induction run with
  | nil => exact holds
  | cons permitted taken tail ih =>
    exact ih (kept _ _ _ holds permitted taken)

/-- A guard may be weakened along a run. -/
theorem Run.weaken {weaker : State → Label → Bool}
    (implied : ∀ state label, allowed state label = true → weaker state label = true)
    (run : machine.Run allowed source labels target) :
    machine.Run weaker source labels target := by
  induction run with
  | nil state => exact .nil state
  | cons permitted taken tail ih =>
    exact .cons (implied _ _ permitted) taken ih

theorem Run.unguard (run : machine.Run allowed source labels target) :
    machine.Run unguarded source labels target :=
  run.weaken fun _ _ _ => rfl

end Machine

end DalecHomebrew.Foundation
