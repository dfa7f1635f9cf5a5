import DalecHomebrew.CatalogService.Retention

/-!
# Generation slots

The bookkeeping of `s.mu` in every interleaving: the tokens in
`generationSlots` count the active generations, the queue lists the keys of
`queued`, and an open service leaves no slot free while something is queued.
The two channel operations of `generationDone` happen while the lock is held;
`generationDoneLocked` has no outcome when one of them would block, so that the
label `done` being enabled says that neither does.
-/

namespace DalecHomebrew.CatalogService

open Catalog Foundation

variable {documents : Documents} {settings : Settings}

/-- What the source relies on at each release of `s.mu`. -/
structure SlotInvariant (settings : Settings) (memory : Memory) : Prop where
  occupied : memory.slots = memory.active.card
  limited : memory.slots ≤ settings.maxConcurrent
  distinct : memory.queue.Nodup
  listed : ∀ id, id ∈ memory.queue ↔ id ∈ memory.queued.keys
  apart : ∀ id ∈ memory.active, id ∉ memory.queued.keys
  admitted : memory.active.card + memory.queued.keys.length ≤ settings.maxPending
  busy : memory.closed = false → memory.queue ≠ [] → memory.slots = settings.maxConcurrent

theorem Scheduled.slotInvariant {memory : Memory} (scheduled : Scheduled settings memory) :
    SlotInvariant settings memory where
  occupied := scheduled.slots_eq
  limited := scheduled.slots_le
  distinct := scheduled.queue_nodup
  listed := fun id => (scheduled.mem_queued id).symm
  apart := by
    intro id active queued
    exact scheduled.disjoint id active ((scheduled.mem_queued id).mp queued)
  admitted := by
    rw [scheduled.queued_length]
    exact scheduled.total_le
  busy := scheduled.busy

/-- The queue loop does not block while a slot is free. -/
theorem launchNextLocked_isSome (queue : List String) (memory : Memory)
    (free : memory.slots < settings.maxConcurrent) :
    (launchNextLocked settings queue memory).isSome := by
  induction queue generalizing memory with
  | nil => rfl
  | cons next rest ih =>
    unfold launchNextLocked
    dsimp only
    split
    · exact ih _ free
    · split
      · exact ih _ free
      · rfl

/-- A goroutine that reaches `generationDone` finds its own token, and leaves room for another. -/
theorem Scheduled.generationDone_isSome {memory : Memory} (scheduled : Scheduled settings memory)
    {index : Nat} {worker : Worker} (found : memory.workers[index]? = some worker) :
    (generationDoneLocked settings
      { memory with workers := memory.workers.eraseIdx index } worker.id).isSome := by
  have positive : memory.slots ≠ 0 := by
    rw [scheduled.slots_eq]
    exact Finset.card_ne_zero_of_mem (scheduled.worker_active found)
  have limited := scheduled.slots_le
  unfold generationDoneLocked
  rw [if_neg positive]
  dsimp only
  split
  · rfl
  · exact launchNextLocked_isSome _ _ (by dsimp only; omega)

/--
In every interleaving the bookkeeping of the running process satisfies the slot
invariant, and `generationDone` never blocks.
-/
theorem slots_of_run (documents : Documents) (settings : Settings) (source state : State)
    (labels : List Label) (memory : Memory) (stopped : source.process = none)
    (run : (machine documents settings).Run Machine.unguarded source labels state)
    (running : state.process = some memory) :
    SlotInvariant settings memory ∧
      ∀ index worker, memory.workers[index]? = some worker → worker.stage = .finished →
        memory.muFree = true →
        ((machine documents settings).step state (.done index)).isSome := by
  have scheduled : Scheduled settings memory := running_of_run run stopped memory running
  refine ⟨scheduled.slotInvariant, ?_⟩
  intro index worker found finished free
  have done := scheduled.generationDone_isSome found
  simpa [machine, step, running, processStep, Label.worker, found, workerStep, finished, free]
    using done

theorem slots_of_run_failure :
    SlotInvariant Sample.limits (settledMemory ("op-" ++ Sample.alphaHex) (Sample.request "alpha")) ∧
      ((machine Sample.codecs Sample.limits).step
        (settledState Sample.limits ("op-" ++ Sample.alphaHex) (Sample.request "alpha")
          (Sample.body "alpha")) (.done 0)).isSome := by
  have run : (machine Sample.codecs Sample.limits).Run Machine.unguarded State.initial
      (.start {} :: requestRun (Sample.post "alpha") ++
        [.generator 0 .otherError, .finish 0 .completed 0 {}])
      (settledState Sample.limits ("op-" ++ Sample.alphaHex) (Sample.request "alpha")
        (Sample.body "alpha")) :=
    .of_execute (by decide +kernel)
  obtain ⟨invariant, done⟩ := slots_of_run Sample.codecs Sample.limits State.initial _ _ _ rfl run rfl
  exact ⟨invariant, done 0 _ rfl rfl rfl⟩

/-! ## Progress -/

/-- A handler or a worker can take its next step. -/
def CanMove (documents : Documents) (settings : Settings) (state : State) : Prop :=
  ∃ label, (label.worker.isSome ∨ ∃ index faults, label = .handle index faults) ∧
    ((machine documents settings).step state label).isSome

/-- A worker that waits for no lock can move. -/
theorem canMove_of_worker {state : State} {memory : Memory} {worker : Worker}
    (scheduled : Scheduled settings memory) (running : state.process = some memory)
    (member : worker ∈ memory.workers)
    (ready : worker.stage.holdsMu = true ∨ memory.muFree = true ∧
      (memory.publishMuFree = true ∨ worker.stage.holdsPublishMu = true)) :
    CanMove documents settings state := by
  obtain ⟨index, found⟩ := List.getElem?_of_mem member
  have moves (label : Label) (its : label.worker = some index)
      (taken : (workerStep documents settings state memory index worker label).isSome) :
      CanMove documents settings state := by
    refine ⟨label, .inl (by simp [its]), ?_⟩
    cases label <;> simp_all [machine, step, processStep, Label.worker]
  cases stage : worker.stage <;> simp [stage, Stage.holdsMu, Stage.holdsPublishMu] at ready
  case generating => exact moves (.generator index .otherError) rfl (by simp [workerStep, stage])
  case generated => exact moves (.beginPublication index) rfl (by simp [workerStep, stage, ready])
  case sequencing => exact moves (.assignSequence index .completed) rfl (by simp [workerStep, stage])
  case storing payload items =>
    cases items with
    | nil => exact moves (.sign index true) rfl (by simp [workerStep, stage])
    | cons => exact moves (.writeCatalog index .completed 0) rfl (by simp [workerStep, stage])
  case finishing => exact moves (.finish index .completed 0 {}) rfl (by simp [workerStep, stage, ready])
  case collecting now referenced entries =>
    refine moves (.collect index .completed) rfl ?_
    cases entries with
    | nil => simp [workerStep, stage]
    | cons =>
      simp only [workerStep, stage]
      split <;> rfl
  case finished =>
    have done := scheduled.generationDone_isSome found
    exact moves (.done index) rfl (by simpa [workerStep, stage, ready] using done)

/--
The two locks never block the process for good: in every interleaving, as long
as a handler or a worker has not finished, one of them can take its next step.
-/
theorem service_not_deadlocked (documents : Documents) (settings : Settings) (source state : State)
    (labels : List Label) (memory : Memory) (stopped : source.process = none)
    (run : (machine documents settings).Run Machine.unguarded source labels state)
    (running : state.process = some memory)
    (unfinished : memory.handlers ≠ [] ∨ memory.workers ≠ []) :
    CanMove documents settings state := by
  have scheduled : Scheduled settings memory := running_of_run run stopped memory running
  by_cases free : memory.muFree = true
  case neg =>
    obtain ⟨worker, member, holds⟩ : ∃ worker ∈ memory.workers, worker.stage.holdsMu = true := by
      simpa [Memory.muFree] using free
    exact canMove_of_worker scheduled running member (.inl holds)
  by_cases published : memory.publishMuFree = true
  case neg =>
    obtain ⟨worker, member, holds⟩ :
        ∃ worker ∈ memory.workers, worker.stage.holdsPublishMu = true := by
      simpa [Memory.publishMuFree] using published
    exact canMove_of_worker scheduled running member (.inr ⟨free, .inr holds⟩)
  rcases unfinished with calls | workers
  · obtain ⟨call, rest, calls⟩ := List.exists_cons_of_ne_nil calls
    exact ⟨.handle 0 {}, .inr ⟨0, {}, rfl⟩, by simp [machine, step, processStep, running, calls, free]⟩
  · obtain ⟨worker, member⟩ := List.exists_mem_of_ne_nil _ workers
    exact canMove_of_worker scheduled running member (.inr ⟨free, .inl published⟩)

/-- A worker collects documents with `s.mu` while another request waits for it. -/
theorem service_not_deadlocked_waiting :
    ∃ state, (machine Sample.publisher Sample.narrow).Run Machine.unguarded State.initial
        Sample.publishingRun state ∧
      (∃ memory, state.process = some memory ∧ memory.muFree = false ∧ memory.handlers ≠ []) ∧
      CanMove Sample.publisher Sample.narrow state := by
  obtain ⟨state, run, published⟩ := Sample.exists_published
  obtain ⟨memory, running, facts⟩ := (Option.any_eq_true _ _).mp published.waiting
  obtain ⟨-, held, waiting⟩ := of_decide_eq_true facts
  exact ⟨state, run.unguard, ⟨memory, running, held, waiting⟩,
    service_not_deadlocked _ _ _ _ _ memory rfl run.unguard running (.inl waiting)⟩

end DalecHomebrew.CatalogService
