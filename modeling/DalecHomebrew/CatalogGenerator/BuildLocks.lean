import DalecHomebrew.Foundation.Transition
import Mathlib.Data.List.Perm.Basic

/-!
# One build of an artifact at a time

`cachedArtifactBuilder.lockArtifactKey` and the functions it returns, called by
any number of goroutines.  What runs under `c.mu` is one step.  A caller is
counted in `users` under `c.mu` before it waits for `lock.mu`, so that the entry
of a key stays as long as somebody waits for its lock, holds it or is about to
give it up.
-/

namespace DalecHomebrew.CatalogGenerator

open Foundation

structure ArtifactCacheLock where
  /-- `lock.mu` is locked. -/
  locked : Bool := false
  users : Int := 0

/-- Where a call of `lockArtifactKey` and of the function it returns has got to. -/
inductive LockStage where
  /-- Counted, in front of `lock.mu.Lock`. -/
  | waiting
  /-- `lockArtifactKey` has returned. -/
  | holding
  /-- `lock.mu` is unlocked again, and the caller is in front of `c.mu.Lock`. -/
  | unlocking
deriving DecidableEq

structure LockCaller (Key : Type) where
  key : Key
  /-- The address of its lock object. -/
  lock : Nat
  stage : LockStage

structure BuildLocks (Key : Type) where
  keyLocks : Key → Option Nat
  /-- The lock objects at their addresses, and how many have been allocated. -/
  locks : Nat → ArtifactCacheLock
  allocated : Nat
  /-- The callers that have not finished. -/
  callers : List (LockCaller Key)

def BuildLocks.initial {Key : Type} : BuildLocks Key where
  keyLocks := fun _ => none
  locks := fun _ => {}
  allocated := 0
  callers := []

/-- The next step of a new caller, or of one of those that have not finished. -/
inductive LockLabel (Key : Type) where
  | enter (key : Key)
  | acquire (index : Nat)
  | unlock (index : Nat)
  | leave (index : Nat)

variable {Key : Type} [DecidableEq Key]

namespace BuildLocks

variable (state : BuildLocks Key)

/-- The first section of `c.mu`: `lock.users++` on the lock of the key, or on a new one. -/
def enter (key : Key) : BuildLocks Key :=
  match state.keyLocks key with
  | some lock =>
    { state with
      locks := Function.update state.locks lock
        { state.locks lock with users := (state.locks lock).users + 1 }
      callers := { key, lock, stage := .waiting } :: state.callers }
  | none =>
    { keyLocks := Function.update state.keyLocks key (some state.allocated)
      locks := Function.update state.locks state.allocated { users := 1 }
      allocated := state.allocated + 1
      callers := { key, lock := state.allocated, stage := .waiting } :: state.callers }

/-- `lock.mu.Lock` returns to a caller, or the caller calls `lock.mu.Unlock`. -/
def move (index : Nat) (caller : LockCaller Key) (locked : Bool)
    (stage : LockStage) : BuildLocks Key :=
  { state with
    locks := Function.update state.locks caller.lock { state.locks caller.lock with locked }
    callers := state.callers.set index { caller with stage } }

/-- The second section of `c.mu`: `lock.users--`, and `delete` for the last user. -/
def leave (index : Nat) (caller : LockCaller Key) : BuildLocks Key :=
  let users := (state.locks caller.lock).users - 1
  { state with
    keyLocks :=
      if users = 0 then Function.update state.keyLocks caller.key none else state.keyLocks
    locks := Function.update state.locks caller.lock { state.locks caller.lock with users }
    callers := state.callers.eraseIdx index }

def step : LockLabel Key → Option (BuildLocks Key)
  | .enter key => some (state.enter key)
  | .acquire index => do
      let caller ← state.callers[index]?
      if caller.stage = .waiting ∧ (state.locks caller.lock).locked = false then
        some (state.move index caller true .holding)
      else none
  | .unlock index => do
      let caller ← state.callers[index]?
      if caller.stage = .holding then some (state.move index caller false .unlocking) else none
  | .leave index => do
      let caller ← state.callers[index]?
      if caller.stage = .unlocking then some (state.leave index caller) else none

def machine : Machine (BuildLocks Key) (LockLabel Key) where
  step := step

/-- The callers to which `lockArtifactKey key` has returned and that have not unlocked. -/
def holders (key : Key) : Nat :=
  state.callers.countP fun caller => caller.key = key ∧ caller.stage = .holding

/-! ## The invariant -/

/-- The entries are those of the callers, and each lock object counts its callers. -/
structure Excluding (state : BuildLocks Key) : Prop where
  entry : ∀ key lock, state.keyLocks key = some lock ↔
    ∃ caller ∈ state.callers, caller.key = key ∧ caller.lock = lock
  apart : ∀ first ∈ state.callers, ∀ second ∈ state.callers,
    first.lock = second.lock → first.key = second.key
  below : ∀ caller ∈ state.callers, caller.lock < state.allocated
  counted : ∀ lock, (state.locks lock).users =
    state.callers.countP fun caller => decide (caller.lock = lock)
  held : ∀ lock, (state.locks lock).locked.toNat =
    state.callers.countP fun caller => decide (caller.lock = lock ∧ caller.stage = .holding)

variable {source : BuildLocks Key} {caller : LockCaller Key} {index : Nat}

section

omit [DecidableEq Key]

theorem Excluding.initial : Excluding (initial : BuildLocks Key) := by
  constructor <;> simp [BuildLocks.initial]

section

variable (excluding : source.Excluding)

include excluding

theorem Excluding.same_lock {other : LockCaller Key}
    (member : caller ∈ source.callers) (also : other ∈ source.callers)
    (same : caller.key = other.key) : caller.lock = other.lock := by
  have entry := (excluding.entry _ _).mpr ⟨caller, member, rfl, rfl⟩
  rw [same, (excluding.entry _ _).mpr ⟨other, also, rfl, rfl⟩] at entry
  exact (Option.some.inj entry).symm

theorem Excluding.locked_of_holding
    (member : caller ∈ source.callers) (holding : caller.stage = .holding) :
    (source.locks caller.lock).locked = true := by
  by_contra free
  have held := excluding.held caller.lock
  rw [Bool.eq_false_iff.mpr free] at held
  exact List.countP_eq_zero.mp held.symm caller member (decide_eq_true ⟨rfl, holding⟩)

/-- The order of the callers does not matter. -/
theorem Excluding.perm {callers : List (LockCaller Key)}
    (same : source.callers.Perm callers) : Excluding { source with callers } where
  entry key lock := (excluding.entry key lock).trans (by simp only [same.mem_iff])
  apart := by simpa only [same.mem_iff] using excluding.apart
  below := by simpa only [same.mem_iff] using excluding.below
  counted lock := same.countP_eq _ ▸ excluding.counted lock
  held lock := same.countP_eq _ ▸ excluding.held lock

/-- A caller in front of the others. -/
theorem Excluding.front (found : source.callers[index]? = some caller) :
    Excluding { source with callers := caller :: source.callers.eraseIdx index } := by
  obtain ⟨within, rfl⟩ := List.getElem?_eq_some_iff.mp found
  exact excluding.perm (List.getElem_cons_eraseIdx_perm within).symm

theorem Excluding.move {locked : Bool} {stage : LockStage}
    (found : source.callers[index]? = some caller)
    (balanced : (source.locks caller.lock).locked.toNat + (decide (stage = .holding)).toNat =
      locked.toNat + (decide (caller.stage = .holding)).toNat) :
    (source.move index caller locked stage).Excluding := by
  have front := excluding.front found
  have moved : Excluding
      { source.move index caller locked stage with
        callers := { caller with stage } :: source.callers.eraseIdx index } := by
    refine ⟨?_, ?_, ?_, fun lock => ?_, fun lock => ?_⟩
    · simpa [BuildLocks.move] using front.entry
    · simpa using front.apart
    · simpa [BuildLocks.move] using front.below
    · have counted := front.counted lock
      by_cases its : lock = caller.lock
      · subst its
        simpa [BuildLocks.move] using counted
      · simpa [BuildLocks.move, its, Ne.symm its] using counted
    · have held := front.held lock
      by_cases its : lock = caller.lock
      · subst its
        simp only [List.countP_cons, BuildLocks.move, Function.update_self, true_and] at held ⊢
        grind
      · simpa [BuildLocks.move, its, Ne.symm its] using held
  exact moved.perm (List.set_perm_cons_eraseIdx (List.getElem?_eq_some_iff.mp found).1 _).symm

end

end

/-- A new caller of a lock that is used for its key, and only for it. -/
theorem Excluding.join (excluding : source.Excluding) (key : Key) (lock allocated : Nat)
    (its : ∀ caller ∈ source.callers, caller.key = key ↔ caller.lock = lock)
    (more : source.allocated ≤ allocated) (bound : lock < allocated) :
    Excluding
      { keyLocks := Function.update source.keyLocks key (some lock)
        locks := Function.update source.locks lock
          { source.locks lock with users := (source.locks lock).users + 1 }
        allocated
        callers := { key, lock, stage := .waiting } :: source.callers } := by
  refine ⟨?_, ?_, ?_, ?_, ?_⟩
  · intro other address
    by_cases same : other = key
    · subst same
      simp only [Function.update_self]
      constructor
      · rintro ⟨⟩
        exact ⟨_, List.mem_cons_self, rfl, rfl⟩
      · rintro ⟨caller, member, known, rfl⟩
        rcases List.mem_cons.mp member with rfl | old
        · rfl
        · rw [(its caller old).mp known]
    · simp [Function.update_of_ne same, excluding.entry, Ne.symm same]
  · intro first one second two shared
    rcases List.mem_cons.mp one with rfl | one <;> rcases List.mem_cons.mp two with rfl | two
    · rfl
    · exact ((its second two).mpr shared.symm).symm
    · exact (its first one).mpr shared
    · exact excluding.apart first one second two shared
  · exact List.forall_mem_cons.mpr
      ⟨bound, fun caller member => Nat.lt_of_lt_of_le (excluding.below caller member) more⟩
  · intro address
    have counted := excluding.counted address
    by_cases same : address = lock
    · subst same
      simp [counted]
    · simp [same, Ne.symm same, counted]
  · intro address
    have held := excluding.held address
    by_cases same : address = lock
    · subst same
      simpa using held
    · simpa [same, Ne.symm same] using held

theorem Excluding.enter (excluding : source.Excluding) (key : Key) :
    (source.enter key).Excluding := by
  unfold BuildLocks.enter
  split
  case h_1 lock entry =>
    obtain ⟨user, member, rfl, rfl⟩ := (excluding.entry key lock).mp entry
    have joined := excluding.join user.key user.lock source.allocated
      (fun caller among =>
        ⟨excluding.same_lock among member, excluding.apart caller among user member⟩)
      (Nat.le_refl _) (excluding.below user member)
    rwa [← entry, Function.update_eq_self] at joined
  case h_2 absent =>
    -- nobody uses an address that has not been allocated
    have unused : ∀ caller ∈ source.callers, caller.lock ≠ source.allocated :=
      fun caller member => Nat.ne_of_lt (excluding.below caller member)
    have fresh : source.locks source.allocated = {} := by
      have counted := excluding.counted source.allocated
      have held := excluding.held source.allocated
      rw [List.countP_eq_zero.mpr (by simpa using unused)] at counted
      rw [List.countP_eq_zero.mpr (by simpa using fun c m s => absurd s (unused c m))] at held
      cases found : source.locks source.allocated with
      | mk locked users => simpa [found, ArtifactCacheLock.mk.injEq] using And.intro held counted
    have joined := excluding.join key source.allocated (source.allocated + 1)
      (fun caller among => ⟨fun same => ?_, fun same => absurd same (unused caller among)⟩)
      (Nat.le_succ _) (Nat.lt_succ_self _)
    · rwa [fresh] at joined
    · rw [← same, (excluding.entry _ _).mpr ⟨caller, among, rfl, rfl⟩] at absent
      cases absent

theorem Excluding.leave (excluding : source.Excluding)
    (found : source.callers[index]? = some caller) (unlocking : caller.stage = .unlocking) :
    (source.leave index caller).Excluding := by
  have front := excluding.front found
  have remaining : (source.locks caller.lock).users - 1 =
      (source.callers.eraseIdx index).countP fun other => decide (other.lock = caller.lock) := by
    have counted := front.counted caller.lock
    simp only [List.countP_cons, decide_true, if_true] at counted
    omega
  have behind : ∀ {other}, other ∈ source.callers.eraseIdx index → other ∈ caller :: _ :=
    List.mem_cons_of_mem caller
  refine ⟨fun key lock => ?_, fun first one second two => front.apart _ (behind one) _ (behind two),
    fun other among => front.below other (behind among), fun lock => ?_, fun lock => ?_⟩
  · have entry := front.entry key lock
    simp only [BuildLocks.leave, remaining, Int.natCast_eq_zero]
    split
    case isTrue last =>
      -- no caller of the lock is left, so none of the key
      by_cases same : key = caller.key
      · subst same
        simp only [Function.update_self, reduceCtorEq, false_iff]
        rintro ⟨other, among, also, -⟩
        exact List.countP_eq_zero.mp last other among
          (decide_eq_true (front.same_lock (behind among) List.mem_cons_self also))
      · simpa [same, Ne.symm same] using entry
    case isFalse more =>
      obtain ⟨other, among, shared⟩ := List.countP_pos_iff.mp (Nat.pos_of_ne_zero more)
      have lock := of_decide_eq_true shared
      have key := front.apart _ (behind among) _ List.mem_cons_self lock
      refine entry.trans ⟨?_, fun ⟨user, at_rest, known⟩ => ⟨user, behind at_rest, known⟩⟩
      rintro ⟨user, member, rfl, rfl⟩
      rcases List.mem_cons.mp member with rfl | at_rest
      · exact ⟨other, among, key, lock⟩
      · exact ⟨user, at_rest, rfl, rfl⟩
  · have counted := front.counted lock
    by_cases its : lock = caller.lock
    · subst its
      simpa [BuildLocks.leave] using remaining
    · simpa [BuildLocks.leave, its, Ne.symm its] using counted
  · have held := front.held lock
    by_cases its : lock = caller.lock
    · subst its
      simpa [BuildLocks.leave, unlocking] using held
    · simpa [BuildLocks.leave, its, Ne.symm its] using held

theorem Excluding.step {target : BuildLocks Key} {label : LockLabel Key}
    (excluding : source.Excluding) (taken : source.step label = some target) :
    target.Excluding := by
  cases label with
  | enter key =>
    cases taken
    exact excluding.enter key
  | acquire index =>
    obtain ⟨caller, found, taken⟩ := Option.bind_eq_some_iff.mp taken
    obtain ⟨free, ⟨⟩⟩ := Option.ite_none_right_eq_some.mp taken
    exact excluding.move found (by simp [free])
  | unlock index =>
    obtain ⟨caller, found, taken⟩ := Option.bind_eq_some_iff.mp taken
    obtain ⟨holding, ⟨⟩⟩ := Option.ite_none_right_eq_some.mp taken
    exact excluding.move found
      (by simp [holding, excluding.locked_of_holding (List.mem_of_getElem? found) holding])
  | leave index =>
    obtain ⟨caller, found, taken⟩ := Option.bind_eq_some_iff.mp taken
    obtain ⟨unlocking, ⟨⟩⟩ := Option.ite_none_right_eq_some.mp taken
    exact excluding.leave found unlocking

/--
In whatever order the callers take their steps, a key has at most one holder,
it has an entry exactly while one of its callers has not finished, its callers
share one lock object, and who unlocks a lock finds it locked.
-/
theorem lockArtifactKey_excludes {target : BuildLocks Key} {labels : List (LockLabel Key)}
    (run : machine.Run Machine.unguarded initial labels target) (key : Key) :
    target.holders key ≤ 1 ∧
      ((target.keyLocks key).isSome ↔ ∃ caller ∈ target.callers, caller.key = key) ∧
      (∀ first ∈ target.callers, ∀ second ∈ target.callers,
        first.key = key → second.key = key → first.lock = second.lock) ∧
      ∀ caller ∈ target.callers, caller.key = key → caller.stage = .holding →
        (target.locks caller.lock).locked = true := by
  have excluding : target.Excluding :=
    run.preserves (fun _ _ _ holds _ taken => holds.step taken) .initial
  refine ⟨?_, ?_, ?_, ?_⟩
  · by_cases used : ∃ caller ∈ target.callers, caller.key = key
    · obtain ⟨caller, member, rfl⟩ := used
      calc target.holders caller.key
        _ ≤ target.callers.countP fun other =>
            decide (other.lock = caller.lock ∧ other.stage = .holding) := by
          refine List.countP_mono_left fun other among both => ?_
          obtain ⟨same, holding⟩ := of_decide_eq_true both
          exact decide_eq_true ⟨excluding.same_lock among member same, holding⟩
        _ = (target.locks caller.lock).locked.toNat := (excluding.held caller.lock).symm
        _ ≤ 1 := Bool.toNat_le _
    · have none : target.holders key = 0 := List.countP_eq_zero.mpr fun caller member both =>
        used ⟨caller, member, (of_decide_eq_true both).1⟩
      exact none ▸ Nat.zero_le 1
  · rw [Option.isSome_iff_exists]
    constructor
    · rintro ⟨lock, entry⟩
      obtain ⟨caller, member, same, -⟩ := (excluding.entry key lock).mp entry
      exact ⟨caller, member, same⟩
    · rintro ⟨caller, member, rfl⟩
      exact ⟨caller.lock, (excluding.entry _ _).mpr ⟨caller, member, rfl, rfl⟩⟩
  · rintro first one second two rfl same
    exact excluding.same_lock one two same.symm
  · exact fun caller member _ => excluding.locked_of_holding member

/-- The last of two callers of a key still waits for the lock the first one has unlocked. -/
theorem lockArtifactKey_excludes_handover :
    ∃ target : BuildLocks Nat, machine.Run Machine.unguarded initial
        [.enter 0, .acquire 0, .enter 0, .unlock 1, .leave 1] target ∧
      target.holders 0 ≤ 1 ∧ (target.keyLocks 0).isSome ∧ target.callers ≠ [] :=
  have run : machine.Run Machine.unguarded (initial : BuildLocks Nat)
      [.enter 0, .acquire 0, .enter 0, .unlock 1, .leave 1] _ := .of_execute rfl
  have excluded := lockArtifactKey_excludes run 0
  ⟨_, run, excluded.1, excluded.2.1.mpr ⟨_, List.mem_singleton_self _, rfl⟩, List.cons_ne_nil _ _⟩

/--
The lock of a key blocks nobody for good: in whatever order the steps are taken,
while a caller of a key has not finished, it or another caller of the key can go on.
-/
theorem lockArtifactKey_not_deadlocked {target : BuildLocks Key} {labels : List (LockLabel Key)}
    (run : machine.Run Machine.unguarded initial labels target) (caller : LockCaller Key)
    (member : caller ∈ target.callers) :
    ∃ index other, target.callers[index]? = some other ∧ other.key = caller.key ∧
      ∃ label ∈ [LockLabel.acquire index, .unlock index, .leave index],
        (target.step label).isSome := by
  have excluding : target.Excluding :=
    run.preserves (fun _ _ _ holds _ taken => holds.step taken) .initial
  obtain ⟨index, found⟩ := List.getElem?_of_mem member
  cases stage : caller.stage with
  | waiting =>
    cases free : (target.locks caller.lock).locked with
    | false =>
      exact ⟨index, caller, found, rfl, .acquire index, by simp, by simp [BuildLocks.step, *]⟩
    | true =>
      -- who holds the lock is a caller of the same key and can unlock it
      have held := excluding.held caller.lock
      rw [free] at held
      obtain ⟨holder, among, both⟩ := List.countP_pos_iff.mp (Nat.lt_of_lt_of_eq Nat.one_pos held)
      obtain ⟨same, holding⟩ := of_decide_eq_true both
      obtain ⟨place, placed⟩ := List.getElem?_of_mem among
      exact ⟨place, holder, placed, excluding.apart _ among _ member same, .unlock place,
        by simp, by simp [BuildLocks.step, placed, holding]⟩
  | holding =>
    exact ⟨index, caller, found, rfl, .unlock index, by simp, by simp [BuildLocks.step, *]⟩
  | unlocking =>
    exact ⟨index, caller, found, rfl, .leave index, by simp, by simp [BuildLocks.step, *]⟩

/-- The second caller waits for the lock that the first one holds. -/
theorem lockArtifactKey_not_deadlocked_contended :
    ∃ target : BuildLocks Nat,
      machine.Run Machine.unguarded initial [.enter 0, .acquire 0, .enter 0] target ∧
      target.callers.map LockCaller.stage = [.waiting, .holding] ∧
      ∃ index other, target.callers[index]? = some other ∧ other.key = 0 ∧
        ∃ label ∈ [LockLabel.acquire index, .unlock index, .leave index],
          (target.step label).isSome :=
  have run : machine.Run Machine.unguarded (initial : BuildLocks Nat)
      [.enter 0, .acquire 0, .enter 0] _ := .of_execute rfl
  ⟨_, run, rfl, lockArtifactKey_not_deadlocked run _ List.mem_cons_self⟩

end BuildLocks

end DalecHomebrew.CatalogGenerator
