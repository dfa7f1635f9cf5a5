import DalecHomebrew.CatalogService.Machine

/-!
# The scheduler invariant

What holds of the in-memory bookkeeping of a running service at every release
of `s.mu`: slots, the active set, the queue and the generation goroutines
agree with each other.  Every function that changes the bookkeeping has one
lemma here that says what it can do, and one that says it keeps `Scheduled`;
the invariants of the later modules only use those.
-/

namespace DalecHomebrew.CatalogService

open Catalog Foundation

variable {documents : Documents} {settings : Settings}

/-- No terminal error is recorded for `id`. -/
def Memory.clean (memory : Memory) (id : String) : Prop :=
  memory.terminalErrors.lookup id = none

/-- Slots, active set, queue and goroutines describe the same generations. -/
structure Consistent (settings : Settings) (memory : Memory) : Prop where
  slots_eq : memory.slots = memory.active.card
  slots_le : memory.slots ≤ settings.maxConcurrent
  queue_perm : memory.queue.Perm memory.queued.keys
  disjoint : ∀ id ∈ memory.active, id ∉ memory.queue
  total_le : memory.active.card + memory.queue.length ≤ settings.maxPending
  queue_clean : ∀ id ∈ memory.queue, memory.clean id
  workers_nodup : (memory.workers.map Worker.id).Nodup
  workers_active : ∀ id, id ∈ memory.active ↔ id ∈ memory.workers.map Worker.id
  finishing : ∀ worker ∈ memory.workers, ∀ operation, worker.stage = .finishing operation →
    operation.id = worker.id ∧ operation.status ≠ .pending

/-- The bookkeeping of a running service at a release of `s.mu`. -/
structure Scheduled (settings : Settings) (memory : Memory) : Prop
    extends Consistent settings memory where
  busy : memory.closed = false → memory.queue ≠ [] → memory.slots = settings.maxConcurrent

namespace Consistent

variable {memory : Memory}

section

variable (consistent : Consistent settings memory)

include consistent

theorem queued_length :
    memory.queued.keys.length = memory.queue.length :=
  consistent.queue_perm.length_eq.symm

theorem mem_queued (id : String) :
    id ∈ memory.queued.keys ↔ id ∈ memory.queue :=
  consistent.queue_perm.mem_iff.symm

theorem queue_nodup : memory.queue.Nodup :=
  consistent.queue_perm.nodup_iff.mpr memory.queued.keys_nodup

/-- A generation that is neither active nor queued may be launched into a free slot. -/
theorem launch {id : String} {request : Request} (inactive : id ∉ memory.active)
    (unqueued : id ∉ memory.queue) (free : memory.slots < settings.maxConcurrent)
    (room : memory.active.card + memory.queue.length < settings.maxPending) :
    Consistent settings
      (launchGenerationLocked { memory with slots := memory.slots + 1 } id request) where
  slots_eq := by
    simp [launchGenerationLocked, Finset.card_insert_of_notMem inactive, consistent.slots_eq]
  slots_le := free
  queue_perm := consistent.queue_perm
  disjoint := by
    intro other member
    rcases Finset.mem_insert.mp member with rfl | old
    · exact unqueued
    · exact consistent.disjoint other old
  total_le := by
    simp only [launchGenerationLocked, Finset.card_insert_of_notMem inactive]
    omega
  queue_clean := consistent.queue_clean
  workers_nodup := by
    have fresh : id ∉ memory.workers.map Worker.id := by
      rw [← consistent.workers_active]
      exact inactive
    simp only [launchGenerationLocked, List.map_append, List.map_cons, List.map_nil]
    exact List.nodup_append.mpr ⟨consistent.workers_nodup, List.nodup_singleton id, by
      intro other member same isNew
      rw [List.mem_singleton] at isNew
      subst isNew
      rintro rfl
      exact fresh member⟩
  workers_active := by
    intro other
    simp [launchGenerationLocked, consistent.workers_active other, or_comm]
  finishing := by
    intro worker member operation stage
    simp only [launchGenerationLocked, List.mem_append, List.mem_singleton] at member
    rcases member with old | rfl
    · exact consistent.finishing worker old operation stage
    · cases stage

/-- The head of the queue leaves it. -/
theorem dequeue {next : String} {rest : List String} (head : memory.queue = next :: rest) :
    Consistent settings
      { memory with queue := rest, queued := memory.queued.erase next } where
  slots_eq := consistent.slots_eq
  slots_le := consistent.slots_le
  queue_perm := by
    have perm := consistent.queue_perm
    rw [head] at perm
    simpa [AList.keys_erase] using perm.erase next
  disjoint := by
    intro id active member
    exact consistent.disjoint id active (by rw [head]; exact List.mem_cons_of_mem next member)
  total_le := by
    have total := consistent.total_le
    rw [head, List.length_cons] at total
    change memory.active.card + rest.length ≤ settings.maxPending
    omega
  queue_clean := by
    intro id member
    exact consistent.queue_clean id (by rw [head]; exact List.mem_cons_of_mem next member)
  workers_nodup := consistent.workers_nodup
  workers_active := consistent.workers_active
  finishing := consistent.finishing

end

end Consistent

theorem Scheduled.initial : Scheduled settings Memory.initial where
  slots_eq := rfl
  slots_le := Nat.zero_le _
  queue_perm := .nil
  disjoint := by simp [Memory.initial]
  total_le := by simp [Memory.initial]
  busy := by simp [Memory.initial]
  queue_clean := by simp [Memory.initial]
  workers_nodup := by simp [Memory.initial]
  workers_active := by simp [Memory.initial]
  finishing := by simp [Memory.initial]

/-! ## Starting a generation -/

/-- The conditions under which `startLocked` starts or queues a generation. -/
structure Startable (documents : Documents) (settings : Settings) (memory : Memory) (id : String)
    (request cloned : Request) : Prop where
  opened : memory.closed = false
  clean : memory.clean id
  inactive : id ∉ memory.active
  unqueued : id ∉ memory.queued.keys
  capacity : memory.active.card + memory.queued.keys.length < settings.maxPending
  cloned : cloneRequest documents request = .ok cloned

/-- Everything `startLocked` can do. -/
theorem startLocked_cases (memory : Memory) (id : String) (request : Request) :
    startLocked documents settings memory id request = memory ∨
    (∃ message, cloneRequest documents request = .error message ∧ id ∉ memory.queued.keys ∧
      startLocked documents settings memory id request =
        { memory with terminalErrors := memory.terminalErrors.insert id message }) ∨
    (∃ cloned, Startable documents settings memory id request cloned ∧
      memory.slots < settings.maxConcurrent ∧
      startLocked documents settings memory id request =
        launchGenerationLocked { memory with slots := memory.slots + 1 } id cloned) ∨
    (∃ cloned, Startable documents settings memory id request cloned ∧
      ¬ memory.slots < settings.maxConcurrent ∧
      startLocked documents settings memory id request = { memory with
          queued := memory.queued.insert id cloned
          queue := memory.queue ++ [id] }) := by
  unfold startLocked
  split
  · exact .inl rfl
  rename_i started
  have opened : memory.closed = false := by simp_all
  have clean : memory.clean id := by simp_all [Memory.clean]
  split
  · exact .inl rfl
  rename_i inactive
  split
  · exact .inl rfl
  rename_i unqueued
  split
  · exact .inl rfl
  rename_i capacity
  simp only [generationCapacityAvailableLocked, inactive, unqueued, if_false,
    Bool.not_eq_true', decide_eq_false_iff_not, not_not] at capacity
  split
  · rename_i message failed
    exact .inr (.inl ⟨message, failed, unqueued, rfl⟩)
  rename_i cloned succeeded
  have startable : Startable documents settings memory id request cloned :=
    ⟨opened, clean, inactive, unqueued, capacity, succeeded⟩
  split
  · rename_i free
    exact .inr (.inr (.inl ⟨cloned, startable, free, rfl⟩))
  · rename_i full
    exact .inr (.inr (.inr ⟨cloned, startable, full, rfl⟩))

theorem Scheduled.startLocked {memory : Memory} (scheduled : Scheduled settings memory)
    (id : String) (request : Request) :
    Scheduled settings (startLocked documents settings memory id request) := by
  rcases @startLocked_cases documents settings memory id request with
    unchanged | ⟨message, _, unqueued, failed⟩ | ⟨cloned, startable, free, launched⟩ |
      ⟨cloned, startable, full, queued⟩
  · rw [unchanged]
    exact scheduled
  · rw [failed]
    refine { scheduled with queue_clean := ?_ }
    intro other member
    have different : other ≠ id := by
      rintro rfl
      exact unqueued ((scheduled.mem_queued other).mpr member)
    simpa [Memory.clean, AList.lookup_insert_ne different] using scheduled.queue_clean other member
  · have unqueued : id ∉ memory.queue := by
      rw [← scheduled.mem_queued]
      exact startable.unqueued
    have room : memory.active.card + memory.queue.length < settings.maxPending := by
      rw [← scheduled.queued_length]
      exact startable.capacity
    rw [launched]
    refine { scheduled.launch startable.inactive unqueued free room with busy := ?_ }
    -- A free slot of an open service means that nothing is queued.
    intro opened nonempty
    have full := scheduled.busy opened nonempty
    omega
  · have room : memory.active.card + memory.queue.length < settings.maxPending := by
      rw [← scheduled.queued_length]
      exact startable.capacity
    rw [queued]
    exact
      { slots_eq := scheduled.slots_eq
        slots_le := scheduled.slots_le
        queue_perm := by
          simp only [AList.keys_insert, List.erase_of_not_mem startable.unqueued]
          exact (List.perm_append_singleton id memory.queue).trans (scheduled.queue_perm.cons id)
        disjoint := by
          intro other active member
          rcases List.mem_append.mp member with old | new
          · exact scheduled.disjoint other active old
          · rw [List.mem_singleton] at new
            subst new
            exact startable.inactive active
        total_le := by
          simp only [List.length_append, List.length_singleton]
          omega
        queue_clean := List.forall_mem_append.mpr
          ⟨scheduled.queue_clean, List.forall_mem_singleton.mpr startable.clean⟩
        workers_nodup := scheduled.workers_nodup
        workers_active := scheduled.workers_active
        finishing := scheduled.finishing
        busy := fun _ _ => Nat.le_antisymm scheduled.slots_le (Nat.not_lt.mp full) }

/-- A started generation is running or queued afterwards. -/
theorem mem_startLocked {memory : Memory} (consistent : Consistent settings memory)
    {id : String} {request cloned : Request} (opened : memory.closed = false)
    (clean : memory.clean id)
    (admitted : generationCapacityAvailableLocked settings memory id = true)
    (succeeded : cloneRequest documents request = .ok cloned) :
    id ∈ (startLocked documents settings memory id request).active ∨
      id ∈ (startLocked documents settings memory id request).queue := by
  by_cases active : id ∈ memory.active
  · exact .inl (by simp [startLocked, active])
  by_cases queued : id ∈ memory.queued.keys
  · exact .inr (by
      simpa [startLocked, active, queued] using (consistent.mem_queued id).mp queued)
  unfold startLocked
  have notRefused : ¬ (memory.closed = true ∨ (memory.terminalErrors.lookup id).isSome = true) := by
    simp_all [Memory.clean]
  rw [if_neg notRefused, if_neg active, if_neg queued, if_neg (by simp [admitted])]
  simp only [succeeded]
  split
  · exact .inl (Finset.mem_insert_self id memory.active)
  · exact .inr (by simp)

/-- What a start leaves as it was, and what it adds: one generation, which is queued or
about to call the generator. -/
structure Started (id : String) (memory after : Memory) : Prop where
  closed : after.closed = memory.closed
  cancelled : after.cancelled = memory.cancelled
  errors : ∀ other, other ≠ id →
    after.terminalErrors.lookup other = memory.terminalErrors.lookup other
  workers : ∃ fresh, after.workers = memory.workers ++ fresh ∧
    ∀ worker ∈ fresh, worker.stage = .generating
  active : memory.active ⊆ after.active ∧ after.active ⊆ insert id memory.active
  queue : memory.queue ⊆ after.queue ∧ after.queue ⊆ memory.queue ++ [id]

theorem Started.refl (id : String) (memory : Memory) : Started id memory memory where
  closed := rfl
  cancelled := rfl
  errors := fun _ _ => rfl
  workers := ⟨[], by simp, by simp⟩
  active := ⟨fun _ member => member, Finset.subset_insert _ _⟩
  queue := ⟨List.Subset.refl _, List.subset_append_left _ _⟩

theorem started_startLocked (memory : Memory) (id : String) (request : Request) :
    Started id memory (startLocked documents settings memory id request) := by
  have kept := Started.refl id memory
  rcases @startLocked_cases documents settings memory id request with
    unchanged | ⟨message, _, _, failed⟩ | ⟨cloned, _, _, launched⟩ | ⟨cloned, _, _, queued⟩
  · rw [unchanged]
    exact kept
  · rw [failed]
    exact { kept with errors := fun _ different => AList.lookup_insert_ne different }
  · rw [launched]
    exact { kept with
      workers := ⟨[{ id, request := cloned, stage := .generating }], rfl, by simp⟩
      active := ⟨Finset.subset_insert _ _, fun _ member => member⟩ }
  · rw [queued]
    exact { kept with queue := ⟨List.subset_append_left _ _, List.Subset.refl _⟩ }

/-! ## Finishing a generation -/

section Workers

variable {memory : Memory} {index : Nat} {worker : Worker}

theorem map_id_withStage (found : memory.workers[index]? = some worker) (stage : Stage) :
    (memory.withStage index worker stage).workers.map Worker.id = memory.workers.map Worker.id := by
  obtain ⟨bound, rfl⟩ := List.getElem?_eq_some_iff.mp found
  have within : index < (memory.workers.map Worker.id).length := by simpa using bound
  simpa [Memory.withStage, List.map_set] using List.set_getElem_self within

/-- A worker of `withStage` is an old one or the moved one. -/
theorem mem_withStage {stage : Stage} {other : Worker}
    (member : other ∈ (memory.withStage index worker stage).workers) :
    other ∈ memory.workers ∨ other = { worker with stage } :=
  List.mem_or_eq_of_mem_set member

theorem Scheduled.withStage (scheduled : Scheduled settings memory)
    (found : memory.workers[index]? = some worker) (stage : Stage)
    (terminal : ∀ operation, stage = .finishing operation →
      operation.id = worker.id ∧ operation.status ≠ .pending) :
    Scheduled settings (memory.withStage index worker stage) :=
  { scheduled with
    workers_nodup := by
      rw [map_id_withStage found]
      exact scheduled.workers_nodup
    workers_active := by
      intro id
      rw [map_id_withStage found]
      exact scheduled.workers_active id
    finishing := by
      intro other member operation atFinish
      rcases mem_withStage member with old | rfl
      · exact scheduled.finishing other old operation atFinish
      · exact terminal operation atFinish }

theorem Consistent.worker_active (consistent : Consistent settings memory)
    (found : memory.workers[index]? = some worker) :
    worker.id ∈ memory.active :=
  (consistent.workers_active worker.id).mpr
    (List.mem_map_of_mem (List.mem_of_getElem? found))

/-- `generationDone` frees the slot of its goroutine. -/
theorem Consistent.release (consistent : Consistent settings memory)
    (found : memory.workers[index]? = some worker) :
    Consistent settings
      { memory with
        workers := memory.workers.eraseIdx index
        active := memory.active.erase worker.id
        slots := memory.slots - 1 } := by
  obtain ⟨bound, isWorker⟩ := List.getElem?_eq_some_iff.mp found
  have active : worker.id ∈ memory.active := consistent.worker_active found
  have card := Finset.card_erase_of_mem active
  -- Worker ids are distinct, so erasing by position and erasing by id agree.
  have erased : (memory.workers.eraseIdx index).map Worker.id =
      (memory.workers.map Worker.id).erase worker.id := by
    have within : index < (memory.workers.map Worker.id).length := by simpa using bound
    rw [← isWorker, ← List.getElem_map Worker.id, consistent.workers_nodup.erase_getElem,
      List.eraseIdx_map]
    exact within
  exact
    { slots_eq := by
        simp only [card, consistent.slots_eq]
      slots_le := le_trans (Nat.sub_le _ _) consistent.slots_le
      queue_perm := consistent.queue_perm
      disjoint := fun id member => consistent.disjoint id (Finset.mem_of_mem_erase member)
      total_le := by
        have total := consistent.total_le
        simp only [card]
        omega
      queue_clean := consistent.queue_clean
      workers_nodup := by
        simp only [erased]
        exact consistent.workers_nodup.erase worker.id
      workers_active := by
        intro id
        simp only [erased, Finset.mem_erase, consistent.workers_nodup.mem_erase_iff,
          consistent.workers_active id]
      finishing := fun other member =>
        consistent.finishing other (List.mem_of_mem_eraseIdx member) }

end Workers

section

variable {memory : Memory} {index : Nat} {worker : Worker} (scheduled : Scheduled settings memory)
  (found : memory.workers[index]? = some worker) {target : Memory}
  (finished : generationDoneLocked settings
    { memory with workers := memory.workers.eraseIdx index } worker.id = some target)

include scheduled found finished

/-- What `generationDone` does to a consistent service. -/
theorem generationDoneLocked_cases :
    let released : Memory :=
      { memory with
        workers := memory.workers.eraseIdx index
        active := memory.active.erase worker.id
        slots := memory.slots - 1 }
    ((memory.closed = true ∨ memory.queue = []) ∧ target = released) ∨
    (memory.closed = false ∧ ∃ next rest request, memory.queue = next :: rest ∧
      target = launchGenerationLocked
        { released with
          queue := rest
          queued := memory.queued.erase next
          slots := memory.slots - 1 + 1 } next request) := by
  have positive : memory.slots ≠ 0 := by
    rw [scheduled.slots_eq]
    exact Finset.card_ne_zero_of_mem (scheduled.worker_active found)
  unfold generationDoneLocked at finished
  rw [if_neg positive] at finished
  by_cases closed : memory.closed = true
  · rw [if_pos closed] at finished
    exact .inl ⟨.inl closed, (Option.some.inj finished).symm⟩
  have opened : memory.closed = false := by simpa using closed
  rw [if_neg closed] at finished
  cases queue : memory.queue with
  | nil =>
    simp only [queue, launchNextLocked, Option.some.injEq] at finished
    exact .inl ⟨.inr rfl, by simp [← finished]⟩
  | cons next rest =>
    -- The head of the queue has a request and no terminal error, so it is launched.
    have member : next ∈ memory.queue := by simp [queue]
    have key : next ∈ memory.queued := AList.mem_keys.mpr ((scheduled.mem_queued next).mpr member)
    obtain ⟨request, isRequest⟩ := Option.isSome_iff_exists.mp (AList.lookup_isSome.mpr key)
    have clean : memory.terminalErrors.lookup next = none := scheduled.queue_clean next member
    have slot : memory.slots - 1 < settings.maxConcurrent := by
      have bound := scheduled.slots_le
      omega
    simp only [queue, launchNextLocked, isRequest, clean, Option.isSome_none,
      Bool.false_eq_true, if_false, if_pos slot, Option.some.injEq] at finished
    exact .inr ⟨opened, next, rest, request, rfl, finished.symm⟩

/-- `generationDone` removes its goroutine and launches at most one. -/
theorem generationDoneLocked_workers :
    target.closed = memory.closed ∧
      ∃ fresh, target.workers = memory.workers.eraseIdx index ++ fresh ∧
        ∀ worker ∈ fresh, worker.stage = .generating := by
  rcases generationDoneLocked_cases scheduled found finished with
    ⟨_, rfl⟩ | ⟨_, next, rest, request, _, rfl⟩
  · exact ⟨rfl, [], by simp, by simp⟩
  · exact ⟨rfl, [{ id := next, request, stage := .generating }], rfl, by simp⟩

theorem Scheduled.generationDone :
    Scheduled settings target := by
  have released := scheduled.release found
  have active := scheduled.worker_active found
  have card := Finset.card_erase_of_mem active
  have positive : 0 < memory.active.card := Finset.card_pos.mpr ⟨_, active⟩
  rcases generationDoneLocked_cases scheduled found finished with
    ⟨closed | empty, rfl⟩ | ⟨opened, next, rest, request, head, rfl⟩
  · exact { released with busy := fun opened => absurd opened (by simp [closed]) }
  · exact { released with busy := fun _ nonempty => absurd empty nonempty }
  · have dequeued := released.dequeue head
    have full : memory.slots = settings.maxConcurrent :=
      scheduled.busy opened (by simp [head])
    have nodup := scheduled.queue_nodup
    rw [head, List.nodup_cons] at nodup
    have total := scheduled.total_le
    rw [head, List.length_cons] at total
    have slots := scheduled.slots_eq
    refine { dequeued.launch ?_ nodup.1 ?_ ?_ with busy := ?_ }
    · intro member
      exact scheduled.disjoint next (Finset.mem_of_mem_erase member) (by simp [head])
    · change memory.slots - 1 < settings.maxConcurrent
      omega
    · change (memory.active.erase worker.id).card + rest.length < settings.maxPending
      omega
    · intro _ _
      change memory.slots - 1 + 1 = settings.maxConcurrent
      omega

end

end DalecHomebrew.CatalogService
