import DalecHomebrew.CatalogService.Running

/-!
# Admission: pending records and the generations behind them

The scheduler invariant holds in every run.  What ties the persisted pending
records to it is weaker than the code intends: a record can be made pending
again in the window between `finishOperation` and `generationDone` of the same
generation, when `startLocked` sees the generation as still active, and
`generationDone` then forgets it.

`Orderly` names the steps that stay out of that window, and `Frugal` adds what
the admission limit needs besides.  Under them every pending record is backed
by a generation and the number of pending records is bounded; the runs at the
end of the module show both fail without them.
-/

namespace DalecHomebrew.CatalogService

open Catalog Foundation

variable {index : Nat} {worker : Worker} {memory : Memory} {store : Store} {source state : State}
  {label : Label} {documents : Documents} {settings : Settings}

/-! ## Pending records and their generations -/

/--
The record of `id` waits for a generation.  With `excused` set, a record whose
generation left a terminal error does not.
-/
def Waiting (excused : Bool) (memory : Memory) (store : Store) (id : String) : Prop :=
  store.persistedStatus id = some .pending ∧ (excused = true → memory.clean id)

/-- Every waiting record has a generation that is still going to settle it. -/
structure Backed (excused : Bool) (memory : Memory) (store : Store) : Prop where
  uncancelled : memory.cancelled = false
  owned : ∀ id, Waiting excused memory store id → id ∈ memory.active ∨ id ∈ memory.queue
  settled : ∀ worker ∈ memory.workers, worker.stage.settled = true →
    ¬ Waiting excused memory store worker.id

namespace Backed

variable {excused : Bool} {memory : Memory} {store other : Store}

/-- A service that has just started. -/
theorem fresh (fresh : FreshlyStarted settings memory)
    (covered : ∀ id, store.persistedStatus id = some .pending →
      id ∈ memory.active ∨ id ∈ memory.queue) :
    Backed excused memory store where
  uncancelled := fresh.uncancelled
  owned := fun id waits => covered id waits.1
  settled := by
    intro worker member ended
    simp [fresh.generating worker member, Stage.settled] at ended

variable (backed : Backed excused memory store)

include backed

theorem frame (operations : other.operations = store.operations) :
    Backed excused memory other := by
  have same : ∀ id, Waiting excused memory other id ↔ Waiting excused memory store id := by
    intro id
    simp only [Waiting, Store.persistedStatus, operations]
  exact
    { uncancelled := backed.uncancelled
      owned := fun id waits => backed.owned id ((same id).mp waits)
      settled := fun worker member ended waits =>
        backed.settled worker member ended ((same worker.id).mp waits) }

theorem withHandlers (handlers : List Call) :
    Backed excused { memory with handlers } store :=
  ⟨backed.uncancelled, backed.owned, backed.settled⟩

theorem withStage {stage : Stage}
    (settles : stage.settled = true → ¬ Waiting excused memory store worker.id) :
    Backed excused (memory.withStage index worker stage) store where
  uncancelled := backed.uncancelled
  owned := backed.owned
  settled := by
    intro other member ended waits
    rcases mem_withStage member with old | rfl
    · exact backed.settled other old ended waits
    · exact settles ended waits

/-- Other terminal errors and another store, with no more waiting records. -/
theorem withErrors {errors : Table String String}
    {left : Store} (still : ∀ id, Waiting excused { memory with terminalErrors := errors } left id →
      Waiting excused memory store id) :
    Backed excused { memory with terminalErrors := errors } left where
  uncancelled := backed.uncancelled
  owned := fun id waits => backed.owned id (still id waits)
  settled := fun worker member ended waits =>
    backed.settled worker member ended (still worker.id waits)

theorem evicted {kept : Memory} {left : Store}
    (evicted : Evicted memory kept store left) :
    Backed excused kept left := by
  rw [evicted.memory_eq]
  refine backed.withErrors ?_
  rw [← evicted.memory_eq]
  rintro id ⟨pending, clean⟩
  obtain ⟨before, sameError⟩ := evicted.pending_iff pending
  exact ⟨before, fun isExcused => sameError.symm.trans (clean isExcused)⟩

/--
A generation is started for a record that waits already, or that is new and
has no settled worker.
-/
theorem startLocked {id : String}
    {request cloned : Request} (scheduled : Scheduled settings memory)
    (opened : memory.closed = false) (clean : memory.clean id)
    (admitted : generationCapacityAvailableLocked settings memory id = true)
    (succeeded : cloneRequest documents request = .ok cloned)
    (elsewhere : ∀ name, name ≠ id → other.persistedStatus name = some .pending →
      store.persistedStatus name = some .pending)
    (unsettled : ∀ worker ∈ memory.workers, worker.stage.settled = true → worker.id ≠ id) :
    Backed excused (CatalogService.startLocked documents settings memory id request) other := by
  have started := mem_startLocked scheduled.toConsistent opened clean admitted succeeded
  have kept := @started_startLocked documents settings memory id request
  have still : ∀ name, name ≠ id →
      Waiting excused (CatalogService.startLocked documents settings memory id request) other name →
      Waiting excused memory store name := by
    rintro name different ⟨pending, isClean⟩
    exact ⟨elsewhere name different pending,
      fun isExcused => by simpa [Memory.clean, kept.errors name different] using isClean isExcused⟩
  refine ⟨kept.cancelled.trans backed.uncancelled, ?_, ?_⟩
  · intro name waits
    by_cases same : name = id
    · exact same ▸ started
    · rcases backed.owned name (still name same waits) with active | queued
      · exact .inl (kept.active.1 active)
      · exact .inr (kept.queue.1 queued)
  · intro worker member ended waits
    obtain ⟨fresh, workers, generating⟩ := kept.workers
    rw [workers, List.mem_append] at member
    rcases member with old | new
    · exact backed.settled worker old ended (still worker.id (unsettled worker old ended) waits)
    · simp [generating worker new, Stage.settled] at ended

/-- `generationDone` drops a generation whose record no longer waits. -/
theorem generationDone {target : Memory}
    (scheduled : Scheduled settings memory) (found : memory.workers[index]? = some worker)
    (at_stage : worker.stage = .finished)
    (released : generationDoneLocked settings
      { memory with workers := memory.workers.eraseIdx index } worker.id = some target) :
    Backed excused target store := by
  have ended : ¬ Waiting excused memory store worker.id :=
    backed.settled worker (List.mem_of_getElem? found) (by rw [at_stage]; rfl)
  have remains : ∀ id, Waiting excused memory store id →
      id ∈ memory.active.erase worker.id ∨ id ∈ memory.queue := by
    intro id waits
    rcases backed.owned id waits with active | queued
    · have different : id ≠ worker.id := by
        rintro rfl
        exact ended waits
      exact .inl (Finset.mem_erase.mpr ⟨different, active⟩)
    · exact .inr queued
  rcases generationDoneLocked_cases scheduled found released with
    ⟨_, rfl⟩ | ⟨_, next, rest, request, head, rfl⟩
  · exact ⟨backed.uncancelled, remains, fun other member =>
      backed.settled other (List.mem_of_mem_eraseIdx member)⟩
  · refine ⟨backed.uncancelled, ?_, ?_⟩
    · intro id waits
      rcases remains id waits with active | queued
      · exact .inl (Finset.mem_insert_of_mem active)
      · rw [head] at queued
        rcases List.mem_cons.mp queued with rfl | later
        · exact .inl (Finset.mem_insert_self _ _)
        · exact .inr later
    · intro other member isSettled
      simp only [launchGenerationLocked, List.mem_append, List.mem_singleton] at member
      rcases member with old | rfl
      · exact backed.settled other (List.mem_of_mem_eraseIdx old) isSettled
      · simp [Stage.settled] at isSettled

end Backed

/-! ## Steps that keep records backed -/

section Guards

variable (documents : Documents) (settings : Settings)

/--
A call that asks for a new generation comes at a time when its operation has
no settled goroutine, and the save of its pending record does not fail in the
directory sync after the rename.
-/
def orderly (state : State) : Label → Bool
  | .handle index faults =>
    match state.process with
    | none => true
    | some memory =>
      match memory.handlers[index]? with
      | none => true
      | some call =>
        !call.regenerates documents settings state.store state.clock faults ||
          (faults.saveOperation ≠ .unsynced && memory.workers.all fun worker =>
              !worker.stage.settled || call.target documents ≠ some worker.id)
  | _ => true

/--
An orderly step that also leaves nothing pending behind: no call asks for a
new generation after `Close`, and `finishOperation` replaces the record.
-/
def frugal (state : State) (label : Label) : Bool :=
  orderly documents settings state label &&
    match label, state.process with
    | .handle index faults, some memory =>
      match memory.handlers[index]? with
      | none => true
      | some call =>
        !call.regenerates documents settings state.store state.clock faults || !memory.closed
    | .finish index fault _ _, some memory =>
      match memory.workers[index]? with
      | none => true
      | some worker =>
        match worker.stage with
        | .finishing operation =>
          fault ≠ .unwritten && validateOperation documents operation = [] &&
            (documents.marshalOperation operation).length ≤ maxOperationBytes
        | _ => true
    | _, _ => true

end Guards

section Guarded

variable {state : State} {memory : Memory} {faults : HandlerFaults}

/-- What an orderly step says about a handler. -/
theorem orderly_handle {call : Call}
    (allowed : orderly documents settings state (.handle index faults) = true)
    (running : state.process = some memory) (found : memory.handlers[index]? = some call)
    (regenerates : call.regenerates documents settings state.store state.clock faults = true) :
    faults.saveOperation ≠ .unsynced ∧ ∀ worker ∈ memory.workers, worker.stage.settled = true →
        call.target documents ≠ some worker.id := by
  simp only [orderly, running, found, regenerates, Bool.not_true, Bool.false_or,
    Bool.and_eq_true, decide_eq_true_eq, List.all_eq_true, Bool.or_eq_true,
    Bool.not_eq_true'] at allowed
  refine ⟨allowed.1, ?_⟩
  intro worker member ended
  rcases allowed.2 worker member with unsettled | different
  · simp [ended] at unsettled
  · exact different

end Guarded

variable {excused : Bool} {now : Time}

/-- `finishOperation` settles its record, or excuses it with a terminal error. -/
theorem Backed.finishWorker {memory kept : Memory} {store left : Store}
    (backed : Backed excused memory store) {operation : Operation}
    {fault : WriteFault} {modTime : Time} {collection : CollectionFaults}
    {stage : Stage} (own : operation.id = worker.id) (terminal : operation.status ≠ .pending)
    (written : excused = false → Store.Persistable documents operation ∧ fault ≠ .unwritten)
    (result : CatalogService.finishWorker documents settings memory store now operation fault
      modTime collection = (kept, left, stage)) :
    Backed excused (kept.withStage index worker stage) left := by
  obtain ⟨_, _, effect⟩ := finishWorker_cases result
  have replaced : ∀ memory, ¬ Waiting excused memory (store.withOperation operation modTime)
      operation.id := by
    rintro memory ⟨pending, _⟩
    rw [Store.persistedStatus_withOperation] at pending
    exact terminal (Option.some.inj pending)
  have ended : ¬ Waiting excused kept left operation.id := by
    rcases effect with ⟨_, rfl⟩ | ⟨message, rfl, _, ⟨rfl, failed⟩ | rfl⟩
    · exact replaced _
    · rintro ⟨_, clean⟩
      cases excused with
      | true => simpa [Memory.clean] using clean rfl
      | false =>
        obtain ⟨persistable, notUnwritten⟩ := written rfl
        rcases failed with invalid | unwritten
        · exact invalid persistable
        · exact notUnwritten unwritten
    · exact replaced _
  obtain ⟨⟨errors, rfl, sameErrors⟩, origin, _⟩ := finishWorker_frame result
  have still : ∀ id, Waiting excused { memory with terminalErrors := errors } left id →
      Waiting excused memory store id := by
    rintro id ⟨pending, clean⟩
    have different : id ≠ operation.id := by
      rintro rfl
      exact ended ⟨pending, clean⟩
    refine ⟨?_, fun isExcused => (sameErrors id different).symm.trans (clean isExcused)⟩
    rcases origin with rfl | rfl
    · exact pending
    · rwa [Store.persistedStatus_withOperation_ne store operation modTime different] at pending
  exact (backed.withErrors still).withStage fun _ => own ▸ ended

/-- A fresh pending record changes no other record. -/
theorem MarkedPending.elsewhere {id name : String} {before after : Store}
    (marked : MarkedPending settings id before after) (different : name ≠ id) :
    after.persistedStatus name = before.persistedStatus name := by
  obtain ⟨modTime, operations⟩ := marked
  have same := Store.persistedStatus_withOperation_ne before (pendingOperation settings id) modTime
    different
  simpa only [Store.persistedStatus, operations] using same

variable {faults : HandlerFaults} {outcome : Outcome}

/-- An orderly handler keeps every waiting record backed. -/
theorem HandlerEffect.backed {call : Call}
    (handled : HandlerEffect documents settings memory store now call faults outcome)
    (before : Backed excused memory store) (scheduled : Scheduled settings memory)
    (opened : memory.closed = false)
    (allowed : call.regenerates documents settings store now faults = true →
      faults.saveOperation ≠ .unsynced ∧ ∀ worker ∈ memory.workers, worker.stage.settled = true →
          call.target documents ≠ some worker.id) :
    Backed excused outcome.memory outcome.store := by
  obtain ⟨kept, left, evicted, effect⟩ := handled.effect
  have keptBacked := before.evicted evicted
  have keptOpened : kept.closed = false := by rw [evicted.memory_eq]; exact opened
  have sameWorkers : kept.workers = memory.workers := by rw [evicted.memory_eq]
  rcases effect with ⟨same, operations, _⟩ | ⟨id, _, _, regenerates, unsynced, _⟩ |
    ⟨id, decoded, cloned, operation, target, clean, capacity, clone, started, origin, _⟩
  · rw [same]
    exact keptBacked.frame operations
  · exact absurd unsynced (allowed regenerates).1
  · rw [started]
    refine keptBacked.startLocked (evicted.scheduled scheduled) keptOpened clean capacity clone
      ?_ ?_
    · intro name different pending
      rcases origin with ⟨operations, _⟩ | ⟨_, marked⟩
      · simpa only [Store.persistedStatus, operations] using pending
      · rwa [marked.elsewhere different] at pending
    · rintro worker member ended rfl
      rcases origin with ⟨_, pending⟩ | ⟨regenerates, _⟩
      · exact keptBacked.settled worker member ended ⟨pending, fun _ => clean⟩
      · exact (allowed regenerates).2 worker (sameWorkers ▸ member) ended target

/-- The running process, if it is open, backs every waiting record. -/
def OpenBacked (excused : Bool) (state : State) : Prop :=
  ∀ memory, state.process = some memory → memory.closed = false → Backed excused memory state.store

variable {source target : State}

/--
One orderly step keeps the waiting records of an open service backed.  Without
the excuse of a terminal error, `finishOperation` has to replace the record.
-/
theorem OpenBacked.step (backed : OpenBacked excused source) (running : Running settings source)
    (allowed : orderly documents settings source label = true)
    (written : excused = false → frugal documents settings source label = true)
    (taken : (machine documents settings).step source label = some target) :
    OpenBacked excused target := by
  intro memory isProcess opened
  cases stepped_of_step taken with
  | crash => cases isProcess
  | started stopped resumed =>
    cases isProcess
    obtain ⟨fresh, covered⟩ := resumePending_ok resumed
    exact .fresh fresh covered
  | entered isRunning =>
    cases isProcess
    exact (backed _ isRunning opened).withHandlers _
  | handled isRunning found outcome_eq =>
    cases isProcess
    have effect := handled_effect outcome_eq
    have openedBefore := effect.workers.1.symm.trans opened
    have safe := orderly_handle allowed isRunning found
    exact effect.backed ((backed _ isRunning openedBefore).withHandlers _)
      ((running _ isRunning).withHandlers _) openedBefore safe
  | closed isRunning =>
    cases isProcess
    cases opened
  | cancelled isRunning closed =>
    cases isProcess
    simp [closed] at opened
  | exited => cases isProcess
  | @advanced _ before index worker stage isRunning found moves =>
    cases isProcess
    have old := backed _ isRunning opened
    refine old.withStage ?_
    intro ended
    rcases moves with ⟨_, outcome, _, rfl⟩ | ⟨set, requestDigest, _, _, _, rfl⟩ |
      ⟨payload, fault, _, _, rfl⟩ | ⟨now, referenced, fault, collecting, _, rfl⟩
    · rcases @afterGenerator_cases documents before.cancelled worker.id worker.request outcome with
        ⟨cancelled, _⟩ | underway
      · simp [old.uncancelled] at cancelled
      · simp [underway.unsettled] at ended
    · simp [(underway_beginPublication worker.id set requestDigest source.clock).unsettled] at ended
    · cases ended
    · exact old.settled worker (List.mem_of_getElem? found) (by rw [collecting]; rfl)
  | sequenced isRunning found at_stage result =>
    cases isProcess
    have operations := congrArg Store.operations (assignSequence_frame result)
    refine ((backed _ isRunning opened).frame operations).withStage ?_
    simp [(underway_assignSequence result).unsettled]
  | written isRunning found at_stage result =>
    cases isProcess
    have operations := congrArg Store.operations (writeCatalog_frame result)
    refine ((backed _ isRunning opened).frame operations).withStage ?_
    simp [(underway_writeCatalog result).unsettled]
  | @signed _ _ worker payload envelope isRunning found at_stage signature =>
    cases isProcess
    refine (backed _ isRunning opened).withStage ?_
    simp [(underway_afterSignature worker.id payload envelope).unsettled]
  | @finished before kept _ worker operation _ _ _ _ _ isRunning found at_stage result =>
    cases isProcess
    obtain ⟨own, terminal⟩ := (running _ isRunning).finishing worker (List.mem_of_getElem? found)
      operation at_stage
    have openedBefore : before.closed = false := by
      obtain ⟨⟨errors, rfl, _⟩, _⟩ := finishWorker_frame result
      exact opened
    exact (backed _ isRunning openedBefore).finishWorker own terminal
      (fun unexcused => by
        have allowed := written unexcused
        simp only [frugal, isRunning, found, at_stage, Bool.and_eq_true, decide_eq_true_eq] at allowed
        exact ⟨⟨allowed.2.1.2, allowed.2.2⟩, allowed.2.1.1⟩) result
  | collected isRunning found at_stage removed next =>
    cases isProcess
    have operations := congrArg Store.operations (removeCatalogEntry_frame removed)
    refine ((backed _ isRunning opened).frame operations).withStage ?_
    intro _
    exact ((backed _ isRunning opened).frame operations).settled _
      (List.mem_of_getElem? found) (by rw [at_stage]; rfl)
  | done isRunning found at_stage released =>
    cases isProcess
    have openedBefore :=
      (generationDoneLocked_workers (running _ isRunning) found released).1.symm.trans opened
    exact (backed _ isRunning openedBefore).generationDone (running _ isRunning) found at_stage
      released
  | _ => exact backed memory isProcess opened

/-! ## Whole runs -/

open Foundation

/-- Consistent bookkeeping that backs every waiting record while the service is open. -/
structure Accounted (settings : Settings) (excused : Bool) (state : State) : Prop where
  running : Running settings state
  backed : OpenBacked excused state

theorem Accounted.stopped (stopped : state.process = none) : Accounted settings excused state := by
  refine ⟨?_, ?_⟩
  · intro memory impossible
    rw [stopped] at impossible
    cases impossible
  · intro memory impossible
    rw [stopped] at impossible
    cases impossible

/-- In an orderly run of an open service every waiting record is backed. -/
theorem accounted_of_orderly {labels : List Label}
    (run : (machine documents settings).Run (orderly documents settings) source labels state)
    (stopped : source.process = none) :
    Accounted settings true state :=
  run.preserves
    (fun _ _ _ accounted permitted taken =>
      ⟨accounted.running.step taken,
        accounted.backed.step accounted.running permitted (by simp) taken⟩)
    (.stopped stopped)

/-- The answer that a step gave, if it gave one. -/
def answer (source target : State) : Option Response :=
  target.responses.drop source.responses.length |>.head?

/-- A `202` answer of an open service names an operation that is running or queued. -/
theorem accepted_of_step {before : Memory} {response : Response}
    (running : Running settings source) (isRunning : source.process = some before)
    (opened : before.closed = false)
    (taken : (machine documents settings).step source label = some target)
    (answered : answer source target = some response) (accepted : response.status = 202) :
    ∃ operation memory, response.body = .operation operation ∧ target.process = some memory ∧
      (operation.id ∈ memory.active ∨ operation.id ∈ memory.queue) := by
  have silent : ∀ {state : State}, state.responses = source.responses →
      answer source state = none := by
    intro state same
    simp [answer, same]
  cases stepped_of_step taken with
  | handled isRunning' found outcome_eq =>
    cases isRunning.symm.trans isRunning'
    have effect := handled_effect outcome_eq
    obtain rfl : _ = response := by simpa [answer] using answered
    obtain ⟨kept, left, evicted, cases⟩ := effect.effect
    rcases cases with ⟨_, _, different⟩ | ⟨id, _, _, _, _, _, _, different⟩ |
      ⟨id, decoded, cloned, operation, _, clean, capacity, clone, started, _, body, rfl⟩
    · exact absurd accepted different
    · exact absurd accepted different
    · refine ⟨operation, _, body, rfl, ?_⟩
      simp only [started]
      have scheduled := evicted.scheduled ((running _ isRunning).withHandlers _)
      exact mem_startLocked scheduled.toConsistent (by rw [evicted.memory_eq]; exact opened) clean
        capacity clone
  | turnedAway isRunning' closed =>
    cases isRunning.symm.trans isRunning'
    simp [closed] at opened
  | _ => simp [silent] at answered

/-! ## Counting pending records -/

/-- The operation files with status `Pending`. -/
def Store.pendingIDs (store : Store) : List String :=
  store.operations.keys.filter fun id => store.persistedStatus id = some .pending

theorem Store.mem_pendingIDs {id : String} :
    id ∈ store.pendingIDs ↔ store.persistedStatus id = some .pending := by
  simp only [Store.pendingIDs, List.mem_filter, decide_eq_true_eq, and_iff_right_iff_imp]
  exact Store.mem_keys_of_persistedStatus

theorem Store.pendingIDs_nodup (store : Store) : store.pendingIDs.Nodup :=
  store.operations.keys_nodup.filter _

/-- The pending records of a backed service fit the admission limit. -/
theorem Backed.pendingIDs_length_le
    (backed : Backed false memory store) (consistent : Consistent settings memory) :
    store.pendingIDs.length ≤ settings.maxPending := by
  have covered : store.pendingIDs ⊆ memory.active.toList ++ memory.queue := by
    intro id pending
    have waits : Waiting false memory store id := ⟨Store.mem_pendingIDs.mp pending, by simp⟩
    simpa using backed.owned id waits
  calc
    store.pendingIDs.length ≤ (memory.active.toList ++ memory.queue).length :=
      (store.pendingIDs_nodup.subperm covered).length_le
    _ = memory.active.card + memory.queue.length := by simp
    _ ≤ settings.maxPending := consistent.total_le

variable {faults : ResumeFaults}

theorem pendingRequests_ne_admissionLimit {ids : List String} (count limit : Nat) :
    pendingRequests documents store faults ids ≠ .error (.admissionLimit count limit) := by
  induction ids with
  | nil => intro impossible; cases impossible
  | cons id rest ih =>
    intro refused
    unfold pendingRequests at refused
    iterate 3
      split at refused
      · cases refused
    split at refused
    · rename_i error failed
      cases refused
      exact ih failed
    · cases refused

/-- `resumePending` counts no more operations than there are pending records. -/
theorem resumePending_admissionLimit {count limit : Nat}
    (refused : resumePending documents settings store faults = .error (.admissionLimit count limit)) :
    settings.maxPending < store.pendingIDs.length := by
  unfold resumePending at refused
  split at refused
  · cases refused
  rename_i ids listed
  obtain rfl := Store.listOperations_ok listed
  split at refused
  · rename_i error failed
    cases refused
    exact absurd failed (pendingRequests_ne_admissionLimit count limit)
  rename_i pending collected
  obtain ⟨sublist, sound, _⟩ := pendingRequests_ok collected
  split at refused
  · rename_i exceeded
    have nodup : (pending.map Prod.fst).Nodup :=
      sublist.nodup ((List.perm_insertionSort _ _).nodup_iff.mpr store.operations.keys_nodup)
    have covered : pending.map Prod.fst ⊆ store.pendingIDs := by
      intro id member
      obtain ⟨item, isItem, rfl⟩ := List.mem_map.mp member
      exact Store.mem_pendingIDs.mpr (sound item isItem).1
    have bound := (nodup.subperm covered).length_le
    rw [List.length_map] at bound
    omega
  · cases refused

/-- Only a handler that asks for a new generation makes a record pending. -/
theorem pending_of_step (running : Running settings source)
    (taken : (machine documents settings).step source label = some target) :
    target.store.pendingIDs ⊆ source.store.pendingIDs ∨
      ∃ index faults call memory kept, label = .handle index faults ∧
        source.process = some memory ∧ memory.handlers[index]? = some call ∧
        call.regenerates documents settings source.store source.clock faults = true ∧
        target.process = some kept ∧ kept.closed = memory.closed := by
  have unchanged : ∀ {store : Store}, store.operations = source.store.operations →
      store.pendingIDs ⊆ source.store.pendingIDs := by
    intro store same id pending
    simpa only [Store.mem_pendingIDs, Store.persistedStatus, same] using pending
  cases stepped_of_step taken with
  | @handled index faults call memory outcome isRunning found outcome_eq =>
    have effect := handled_effect outcome_eq
    by_cases regenerates :
        call.regenerates documents settings source.store source.clock faults = true
    · exact .inr ⟨index, faults, call, memory, _, rfl, isRunning, found, regenerates, rfl,
        effect.workers.1⟩
    left
    obtain ⟨kept, left, evicted, cases⟩ := effect.effect
    have operations : outcome.store.operations = left.operations := by
      rcases cases with ⟨_, operations, _⟩ | ⟨id, _, _, isRegenerating, _⟩ |
        ⟨id, decoded, cloned, operation, _, _, _, _, _, ⟨operations, _⟩ | ⟨isRegenerating, _⟩, _⟩
      · exact operations
      · exact absurd isRegenerating regenerates
      · exact operations
      · exact absurd isRegenerating regenerates
    intro id pending
    rw [Store.mem_pendingIDs] at pending ⊢
    exact (evicted.pending_iff (by simpa only [Store.persistedStatus, operations] using pending)).1
  | @finished memory kept index worker operation _ _ _ _ _ isRunning found at_stage result =>
    left
    obtain ⟨_, terminal⟩ := (running _ isRunning).finishing worker (List.mem_of_getElem? found)
      operation at_stage
    obtain ⟨_, rfl | rfl, _⟩ := finishWorker_frame result
    · exact unchanged rfl
    · intro id pending
      rw [Store.mem_pendingIDs] at pending ⊢
      by_cases same : id = operation.id
      · subst same
        rw [Store.persistedStatus_withOperation] at pending
        exact absurd (Option.some.inj pending) terminal
      · rwa [Store.persistedStatus_withOperation_ne _ _ _ same] at pending
  | sequenced _ _ _ result =>
    have operations := congrArg Store.operations (assignSequence_frame result)
    exact .inl (unchanged operations)
  | written _ _ _ result =>
    have operations := congrArg Store.operations (writeCatalog_frame result)
    exact .inl (unchanged operations)
  | collected _ _ _ removed _ =>
    have operations := congrArg Store.operations (removeCatalogEntry_frame removed)
    exact .inl (unchanged operations)
  | _ => exact .inl (unchanged rfl)

/-- The accounts of a run that also keeps the pending records within the admission limit. -/
structure Bounded (settings : Settings) (state : State) : Prop
    extends Accounted settings false state where
  bounded : state.store.pendingIDs.length ≤ settings.maxPending

theorem frugal_orderly (allowed : frugal documents settings state label = true) :
    orderly documents settings state label = true :=
  (Bool.and_eq_true_iff.mp allowed).1

theorem Bounded.step (bounded : Bounded settings source)
    (allowed : frugal documents settings source label = true)
    (taken : (machine documents settings).step source label = some target) :
    Bounded settings target := by
  have running := bounded.running.step taken
  have backed := bounded.backed.step bounded.running (frugal_orderly allowed) (fun _ => allowed) taken
  refine ⟨⟨running, backed⟩, ?_⟩
  -- An open service is bounded by its generations; otherwise nothing becomes pending.
  by_cases opened : ∃ memory, target.process = some memory ∧ memory.closed = false
  · obtain ⟨memory, isProcess, isOpen⟩ := opened
    exact (backed memory isProcess isOpen).pendingIDs_length_le (running memory isProcess).toConsistent
  · rcases pending_of_step bounded.running taken with fewer |
      ⟨index, faults, call, memory, kept, rfl, isRunning, found, regenerates, isProcess, sameClosed⟩
    · exact le_trans (target.store.pendingIDs_nodup.subperm fewer).length_le bounded.bounded
    · simp only [frugal, isRunning, found, regenerates, Bool.not_true, Bool.false_or,
        Bool.and_eq_true, Bool.not_eq_true'] at allowed
      exact absurd ⟨kept, isProcess, sameClosed.trans allowed.2⟩ opened

/-! ## Two requests in concrete runs -/

/-- The failure that an unclassified generator error leaves. -/
def generationFailed (id : String) : Operation := failedOperation id (failureForError none)

/-- A request that nothing interrupts. -/
def requestRun (post : PostRequest) : List Label :=
  [.enter (.catalogSet post), .handle 0 {}]

/-- The generation fails, and the request is repeated before `generationDone`. -/
def windowRun (post : PostRequest) : List Label :=
  [.generator 0 .otherError, .finish 0 .completed 0 {}] ++ requestRun post ++ [.done 0]

/-- The store that holds one more request and its pending record. -/
def admittedStore (settings : Settings) (store : Store) (id : String) (canonical : Bytes) : Store :=
  { store with requests := store.requests.insert id canonical }.withOperation
    (pendingOperation settings id) 0

/-- The first request of a new service has been admitted. -/
def admittedState (settings : Settings) (id : String) (request : Request) (canonical : Bytes) :
    State where
  store := admittedStore settings .empty id canonical
  clock := 0
  process := some (launchGenerationLocked { Memory.initial with slots := 1 } id request)
  issued := []
  responses := [writePending 202 (pendingOperation settings id)]

/-- After `windowRun`: the record is pending, and nothing is running or queued. -/
def orphanedState (settings : Settings) (id : String) (canonical : Bytes) : State where
  store := admittedStore settings .empty id canonical
  clock := 0
  process := some { Memory.initial with terminalErrors := (∅ : Table String String).erase id }
  issued := []
  responses :=
    [writePending 202 (pendingOperation settings id), writePending 202 (pendingOperation settings id)]

/-- The generation has failed and its record says so; its goroutine is still counted. -/
def settledMemory (id : String) (request : Request) : Memory :=
  { Memory.initial with
    active := {id}
    slots := 1
    terminalErrors := (∅ : Table String String).erase id
    workers := [{ id, request, stage := .finished }] }

def settledStore (settings : Settings) (id : String) (canonical : Bytes) : Store :=
  (admittedStore settings .empty id canonical).withOperation (generationFailed id) 0

/-- The failed generation before `generationDone`. -/
def settledState (settings : Settings) (id : String) (request : Request) (canonical : Bytes) :
    State :=
  { admittedState settings id request canonical with
    store := settledStore settings id canonical
    process := some (settledMemory id request) }

/-! ## A concrete service -/

namespace Sample

/-- The UTF-8 bytes of a text. -/
def utf8 (text : String) : Bytes := text.toByteArray.data.toList

/-- A request for one formula of the tap `acme/tools`. -/
def request (formula : String) : Request where
  schemaVersion := requestSchemaVersion
  targets :=
    [{ platform := { os := "linux", architecture := "amd64" }
       externalRoots := some ["acme/tools/" ++ formula] }]
  homebrewCommit := "4b825dc642cb6eb9a060e54bf8d69288fbee4904"
  coreSnapshotDigest := "sha256:e3b0c44298fc1c149afbf4c8996fb92427ae41e4649b934ca495991b7852b855"

/-- The canonical JSON of `request formula`. -/
def requestText (formula : String) : String :=
  "\x7b\"schema_version\":\"" ++ requestSchemaVersion ++ "\",\"targets\":[" ++
    "\x7b\"platform\":\x7b\"os\":\"linux\",\"architecture\":\"amd64\"\x7d," ++
    "\"external_roots\":[\"acme/tools/" ++ formula ++ "\"]\x7d]," ++
    "\"homebrew_commit\":\"" ++ (request formula).homebrewCommit ++ "\"," ++
    "\"core_snapshot_digest\":\"" ++ (request formula).coreSnapshotDigest ++ "\"\x7d"

def body (formula : String) : Bytes := utf8 (requestText formula)

/-- The SHA-256 of `body "alpha"`. -/
def alphaHex : String := "f29dca196967d64fac5db2d4a00322c432866c578533ddbd096cdbfca048bf9a"

/-- The SHA-256 of `body "beta"`. -/
def betaHex : String := "14b0c0a13b54758fa82c6a9d8217da584812bcb488ced4a15eabe9c07638a52b"

/-- The status of an operation as `encoding/json` writes it. -/
def statusText : OperationStatus → String
  | .pending => "pending"
  | .completed => "completed"
  | .failed => "failed"

def operationText (operation : Operation) : String :=
  "\x7b\"schema_version\":\"" ++ operation.schemaVersion ++ "\",\"id\":\"" ++ operation.id ++
    "\",\"status\":\"" ++ statusText operation.status ++ "\"" ++
    (if operation.retryAfterSeconds = 0 then ""
      else ",\"retry_after_seconds\":" ++ GoString.decimalInt operation.retryAfterSeconds) ++
    (operation.failure.elim "" fun failure =>
      ",\"failure\":\x7b\"code\":\"unavailable\",\"message\":\"" ++ failure.message ++ "\"\x7d") ++
    "\x7d"

/-- The codecs as they act on the two requests and their pending and failed operations. -/
def codecs : Documents where
  fromBytes data :=
    if data = body "alpha" then "sha256:" ++ alphaHex
    else if data = body "beta" then "sha256:" ++ betaHex
    else ""
  decodeRequest data :=
    if data = body "alpha" then .ok (request "alpha")
    else if data = body "beta" then .ok (request "beta")
    else .error "decode catalog request: unexpected EOF"
  canonicalRequest value :=
    if value = request "alpha" then .ok (body "alpha")
    else if value = request "beta" then .ok (body "beta")
    else .error "validate catalog request: targets must be a non-empty array"
  normalizedTargets value := .ok value.targets
  decodeTapCatalog _ := .error "decode tap catalog: unexpected EOF"
  canonicalTapCatalog _ := .error "validate tap catalog: unsupported schema_version \"\""
  canonicalPlatformResult _ := .error "validate platform result"
  validateCatalogSetPayload _ := .error "unsupported schema_version \"\""
  decodeCatalogSetPayload _ := .error "decode catalog-set payload: unexpected EOF"
  canonicalCatalogSetPayload _ := .error "validate catalog-set payload"
  validateCatalogReferenceOrigin _ _ := .ok ()
  decodeReferencedTapCatalog _ _ := .error "decode tap catalog: unexpected EOF"
  validateJWSShape _ := .error "decode JWS: unexpected EOF"
  marshalOperation operation := utf8 (operationText operation)
  marshalTapSource _ := []
  verifyJWS _ _ := .error "decode JWS: unexpected EOF"
  sign _ _ := .error "validate catalog-set payload"

/-- A service that admits one generation at a time. -/
def limits : Settings where
  origin := "https://catalog.example.com"
  signingKeyID := "catalog-service"
  catalogService :=
    { name := "dalec-homebrew-catalog-service"
      version := "v1"
      digest := "sha256:" ++ alphaHex }
  extractor := { name := "homebrew-extractor", version := "v1", digest := "sha256:" ++ betaHex }
  catalogSetLifetime := maxCatalogSetLifetime
  generationTimeout := defaultGenerationTimeout
  retryAfterSeconds := 2
  catalogRefresh := defaultCatalogRefresh
  maxConcurrent := 1
  maxPending := 1
  maxStoredOperations := 4096
  lifetime_pos := by decide
  lifetime_le := le_refl _
  maxConcurrent_pos := by decide
  maxPending_pos := by decide

/-- `POST /v1/catalog-sets` for one formula. -/
def post (formula : String) : PostRequest where
  mediaType := some ("application/json", [])
  contentLength := (body formula).length
  body := body formula

/-- The sample service with room for one stored operation. -/
def narrow : Settings := { limits with maxStoredOperations := 1 }

deriving instance DecidableEq for Store
deriving instance DecidableEq for Memory
deriving instance DecidableEq for State

/-- `New` on an empty store, then one request. -/
theorem run_admission :
    (machine codecs limits).Run (frugal codecs limits) State.initial
      (.start {} :: requestRun (post "alpha"))
      (admittedState limits ("op-" ++ alphaHex) (request "alpha") (body "alpha")) :=
  .of_execute (by decide +kernel)

/-! ### Publications -/

/-- The sources of the tap `acme/tools` at two commits. -/
def tapSource (commit : String) : TapSource where
  id := "acme/tools"
  repository := "https://github.com/acme/homebrew-tools"
  commit := commit
  treeDigest := "sha256:" ++ alphaHex
  archiveDigest := "sha256:" ++ betaHex

def oldCommit : String := "71461c31e350cabf4e718a5e1331b39a395a6dc9"

def newCommit : String := "4b825dc642cb6eb9a060e54bf8d69288fbee4904"

def document (commit : String) (publishedAt : Time) (sequence : UInt64) : TapCatalog where
  schemaVersion := tapCatalogSchemaVersion
  tap := tapSource commit
  publishedAt := publishedAt
  sequence := sequence
  formulae := []

/-- What the generator returns for one formula. -/
def generated (commit formula : String) : GeneratedSet where
  catalogs := [document commit 0 0]
  results := [{
    platform := { os := "linux", architecture := "amd64" }
    closure := {
      requested := ["acme/tools/" ++ formula], requestedMappings := none,
      normalizationTaps := none, nodes := [], installOrder := ["acme/tools/" ++ formula] }
    artifacts := [] }]

/-- The one-byte documents of the two publications by their times. -/
def catalogTexts : List (Time × Bytes) := [(validationTime, [1]), (hour, [3]), (2 * hour, [4])]

def catalogs : List (Bytes × TapCatalog) :=
  [([3], document oldCommit hour 1), ([4], document newCommit (2 * hour) 2)]

/-- The hexadecimal digest of a one-byte text. -/
def hexOf (byte : UInt8) : String :=
  String.ofList (List.replicate 64 (Char.ofNat (48 + byte.toNat)))

def digestOf (byte : UInt8) : String := "sha256:" ++ hexOf byte

/-- The payload of a publication with a one-byte document. -/
def payload (formula commit : String) (body : UInt8) (time : Time) (sequence : UInt64)
    (byte : UInt8) : CatalogSetPayload :=
  publicationPayload narrow (request formula) {
    requestDigest := digestOf body, publishedAt := time
    results := (generated commit formula).results, remaining := []
    references := [{
      tap := tapSource commit, publishedAt := time, sequence, size := 1, sha256 := digestOf byte
      url := narrow.origin ++ catalogDocumentPathPrefix ++ encoded (digestOf byte) }] }

def firstPayload : CatalogSetPayload := payload "alpha" oldCommit 0 hour 1 3

def secondPayload : CatalogSetPayload := payload "beta" newCommit 9 (2 * hour) 2 4

def payloadTexts : List (Time × Bytes) := [(hour, [7]), (2 * hour, [8])]

/-- The value of a table, or an error. -/
def entry {Key Value : Type} [BEq Key] (table : List (Key × Value)) (key : Key) :
    Except String Value :=
  match table.lookup key with
  | some value => .ok value
  | none => .error "unexpected EOF"

/-- The codecs as they act on the two publications, which times and roots tell apart, with
one-byte documents; an envelope is its payload after a tag. -/
def publisher : Documents :=
  { codecs with
    fromBytes := fun data =>
      match data with
      | [byte] => digestOf byte
      | _ => ""
    decodeRequest := entry [([0], request "alpha"), ([9], request "beta")]
    canonicalRequest := fun value =>
      entry [([some ["acme/tools/alpha"]], [0]), ([some ["acme/tools/beta"]], [9])]
        (value.targets.map PlatformRequest.externalRoots)
    marshalOperation := fun _ => [0]
    decodeTapCatalog := entry catalogs
    canonicalTapCatalog := fun document => entry catalogTexts document.publishedAt
    canonicalPlatformResult := fun _ => .ok []
    validateCatalogSetPayload := fun payload =>
      (entry payloadTexts payload.generatedAt).map fun _ => ()
    decodeCatalogSetPayload := entry [([7], firstPayload), ([8], secondPayload)]
    canonicalCatalogSetPayload := fun payload => entry payloadTexts payload.generatedAt
    decodeReferencedTapCatalog := fun _ => entry catalogs
    validateJWSShape := fun _ => .ok ()
    marshalTapSource := fun source => if source.commit = oldCommit then [5] else [6]
    verifyJWS := fun envelope _ =>
      match envelope with
      | 9 :: raw => .ok raw
      | _ => .error "decode JWS: unexpected EOF"
    sign := fun payload _ => (entry payloadTexts payload.generatedAt).map (9 :: ·) }

/-- `POST /v1/catalog-sets` with a one-byte request. -/
def shortPost (byte : UInt8) : PostRequest := { post "" with contentLength := 1, body := [byte] }

/-- The labels of one publication, up to the collection after it. -/
def publication (set : GeneratedSet) (time : Time) (faults : CollectionFaults) : List Label :=
  [.generator 0 (.returned (some set)), .beginPublication 0, .assignSequence 0 .completed,
    .assignSequence 0 .completed, .writeCatalog 0 .completed time, .sign 0 false,
    .finish 0 .completed time faults]

/--
Two publications of one tap from two commits.  There is room for one operation, so that the
second request evicts the first operation, and the collection at the end looks at a document
that no stored operation refers to, while a third request waits.
-/
def publishingRun : List Label :=
  .start {} :: .clock hour :: requestRun (shortPost 0) ++
    publication (generated oldCommit "alpha") hour { listOperations := true } ++
    [.done 0, .clock (2 * hour)] ++ requestRun (shortPost 9) ++
    .enter (.catalogSet (shortPost 9)) :: publication (generated newCommit "beta") (2 * hour) {} ++
    [.collect 0 .completed]

end Sample

/-! ## The admission limit and the backing of pending records -/

/--
The number of pending records never exceeds the admission limit, and `New` is
never refused for it, in every run whose requests for a new generation come
while the service is open and the operation has no settled goroutine, whose
pending records are not half written, and in which `finishOperation` always
replaces the record.
-/
theorem pending_records_bounded {source state : State} {labels : List Label}
    (run : (machine documents settings).Run (frugal documents settings) source labels state)
    (stopped : source.process = none)
    (initially : source.store.pendingIDs.length ≤ settings.maxPending) :
    state.store.pendingIDs.length ≤ settings.maxPending ∧ ∀ faults count limit,
        resumePending documents settings state.store faults ≠ .error (.admissionLimit count limit) := by
  have bounded : Bounded settings state :=
    run.preserves (fun _ _ _ bounded permitted taken => bounded.step permitted taken)
      ⟨.stopped stopped, initially⟩
  refine ⟨bounded.bounded, ?_⟩
  intro faults count limit refused
  exact absurd (resumePending_admissionLimit refused) (Nat.not_lt.mpr bounded.bounded)

/-- One admitted request of the sample service. -/
theorem pending_records_bounded_sample :
    (admittedState Sample.limits ("op-" ++ Sample.alphaHex) (Sample.request "alpha")
        (Sample.body "alpha")).store.pendingIDs.length ≤ 1 ∧
      ∀ faults count limit, resumePending Sample.codecs Sample.limits
          (admittedState Sample.limits ("op-" ++ Sample.alphaHex) (Sample.request "alpha")
            (Sample.body "alpha")).store faults ≠ .error (.admissionLimit count limit) :=
  pending_records_bounded Sample.run_admission rfl (Nat.zero_le _)

/--
A generation fails, its request is repeated before `generationDone`, and a
second request is admitted: two pending records with a limit of one, and the
service does not start again.
-/
theorem pending_records_unbounded :
    ∃ labels state, (machine Sample.codecs Sample.limits).Run Foundation.Machine.unguarded
        State.initial labels state ∧
      Sample.limits.maxPending < state.store.pendingIDs.length ∧
      resumePending Sample.codecs Sample.limits state.store {} = .error (.admissionLimit 2 1) := by
  exact Machine.exists_run State.initial
    (.start {} :: requestRun (Sample.post "alpha") ++ windowRun (Sample.post "alpha") ++
      requestRun (Sample.post "beta"))
    (by decide +kernel)

/--
On an open service every pending record without a terminal error has a
generation that is running or queued, and so has every operation answered with
`202`, in every run whose requests for a new generation come while the
operation has no settled goroutine and whose pending records are not half
written.
-/
theorem pending_records_backed {source state : State} {labels : List Label} {memory : Memory}
    (run : (machine documents settings).Run (orderly documents settings) source labels state)
    (stopped : source.process = none) (running : state.process = some memory)
    (opened : memory.closed = false) :
    (∀ id, state.store.persistedStatus id = some .pending → memory.clean id →
      id ∈ memory.active ∨ id ∈ memory.queue) ∧
    (∀ label target response, (machine documents settings).step state label = some target →
      answer state target = some response → response.status = 202 →
      ∃ operation kept, response.body = .operation operation ∧ target.process = some kept ∧
        (operation.id ∈ kept.active ∨ operation.id ∈ kept.queue)) := by
  have accounted := accounted_of_orderly run stopped
  refine ⟨?_, ?_⟩
  · intro id pending clean
    exact (accounted.backed memory running opened).owned id ⟨pending, fun _ => clean⟩
  · intro label target response taken answered accepted
    exact accepted_of_step accounted.running running opened taken answered accepted

/-- The admitted request of the sample service is running. -/
theorem pending_records_backed_sample :
    ("op-" ++ Sample.alphaHex) ∈
        (launchGenerationLocked { Memory.initial with slots := 1 } ("op-" ++ Sample.alphaHex)
          (Sample.request "alpha")).active ∨
      ("op-" ++ Sample.alphaHex) ∈
        (launchGenerationLocked { Memory.initial with slots := 1 } ("op-" ++ Sample.alphaHex)
          (Sample.request "alpha")).queue :=
  (pending_records_backed (Sample.run_admission.weaken fun _ _ => frugal_orderly) rfl rfl rfl).1 _
    (Store.persistedStatus_withOperation _
      (pendingOperation Sample.limits ("op-" ++ Sample.alphaHex)) 0)
    (AList.lookup_empty _)

/-- The repeated request of the window leaves a pending record that nothing will run. -/
theorem pending_record_orphaned :
    ∃ labels state memory id,
      (machine Sample.codecs Sample.limits).Run Foundation.Machine.unguarded State.initial labels
        state ∧
      state.process = some memory ∧ memory.closed = false ∧ memory.muFree = true ∧
      state.store.persistedStatus id = some .pending ∧ memory.clean id ∧
      id ∉ memory.active ∧ id ∉ memory.queue := by
  have run : (machine Sample.codecs Sample.limits).Run Machine.unguarded State.initial
      (.start {} :: requestRun (Sample.post "alpha") ++ windowRun (Sample.post "alpha"))
      (orphanedState Sample.limits ("op-" ++ Sample.alphaHex) (Sample.body "alpha")) :=
    .of_execute (by decide +kernel)
  refine ⟨_, _, _, "op-" ++ Sample.alphaHex, run, rfl, rfl, rfl, ?_, ?_, ?_, ?_⟩
  · exact Store.persistedStatus_withOperation _
      (pendingOperation Sample.limits ("op-" ++ Sample.alphaHex)) 0
  · exact AList.lookup_erase _ _
  · exact Finset.notMem_empty _
  · exact List.not_mem_nil

end DalecHomebrew.CatalogService
