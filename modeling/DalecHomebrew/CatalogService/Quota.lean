import DalecHomebrew.CatalogService.Retention
import DalecHomebrew.CatalogService.StoreCalls

/-!
# The quota of stored operations

A new operation is only saved after eviction has left a free place, and every
other save replaces a file: the operations of running and queued generations
keep their files, since eviction passes over them.
-/

namespace DalecHomebrew.CatalogService

open Catalog Foundation

variable {documents : Documents} {settings : Settings}

/-! ## Counting operation files -/

/-- The number of operation files. -/
def Store.operationCount (store : Store) : Nat := store.operations.keys.length

section Counting

variable {store left : Store} {operation : Operation} {modTime : Time} {id : String}

theorem operationCount_of_eq (same : left.operations = store.operations) :
    left.operationCount = store.operationCount := by
  rw [Store.operationCount, Store.operationCount, same]

theorem Evicted.operationCount_le {memory kept : Memory}
    (evicted : Evicted memory kept store left) : left.operationCount ≤ store.operationCount := by
  refine ((AList.keys_nodup _).subperm fun id member => ?_).length_le
  rw [← AList.mem_keys, ← AList.lookup_isSome] at member ⊢
  rcases evicted.operations id with same | ⟨gone, _⟩
  · rwa [same] at member
  · simp [gone] at member

theorem mem_withOperation : id ∈ (store.withOperation operation modTime).operations ↔
    id = operation.id ∨ id ∈ store.operations :=
  AList.mem_insert _

theorem saveOperation_store (fault : WriteFault) :
    (store.saveOperation documents operation fault modTime).1 = store ∨
      (store.saveOperation documents operation fault modTime).1 =
        store.withOperation operation modTime := by
  rcases @Store.saveOperation_cases documents store operation fault modTime with
    ⟨saved, _⟩ | ⟨message, saved, _⟩ | ⟨message, saved, _⟩
  · exact .inr (congrArg Prod.fst saved)
  · exact .inl (congrArg Prod.fst saved)
  · exact .inr (congrArg Prod.fst saved)

/-- A save replaces a file or takes a free place. -/
theorem operationCount_saveOperation {limit : Nat} (fault : WriteFault)
    (bounded : store.operationCount ≤ limit)
    (room : operation.id ∈ store.operations ∨ store.operationCount < limit) :
    (store.saveOperation documents operation fault modTime).1.operationCount ≤ limit := by
  rcases @saveOperation_store documents store operation modTime fault with same | same
  · rwa [same]
  · rw [same]
    have nodup := (store.withOperation operation modTime).operations.keys_nodup
    rcases room with present | free
    · refine (nodup.subperm fun id member => ?_).length_le.trans bounded
      rcases mem_withOperation.mp member with rfl | old
      · exact present
      · exact old
    · have listed : (store.withOperation operation modTime).operations.keys ⊆
          operation.id :: store.operations.keys :=
        fun id member => List.mem_cons.mpr (mem_withOperation.mp member)
      exact (nodup.subperm listed).length_le.trans free

end Counting

/-! ## Handlers -/

section Handlers

variable {memory : Memory} {store left : Store} {now : Time} {id : String} {faults : HandlerFaults}

theorem free_of_reserveOperationLocked {kept : Memory}
    (reserved : reserveOperationLocked documents settings memory store id faults =
      .ok (kept, left)) : left.operationCount < settings.maxStoredOperations := by
  unfold reserveOperationLocked at reserved
  repeat' split at reserved
  all_goals cases reserved
  rename_i full listed _
  rw [Store.listOperations_ok listed, fileNames, List.length_insertionSort] at full
  exact not_le.mp full

theorem markPendingLocked_store (decoded : Request) :
    (markPendingLocked documents settings memory store id decoded faults).store =
      (store.saveOperation documents (pendingOperation settings id) faults.saveOperation
        faults.modTime).1 := by
  unfold markPendingLocked
  dsimp only
  split
  all_goals simp [*]

theorem operations_of_putRequest {data : Bytes} {fault : WriteFault} {result : Except String Unit}
    (put : store.putRequest documents id data fault = (left, result)) :
    left.operations = store.operations := by
  have frame :=
    congrArg Store.operations (@Store.putRequest_spec documents store id data fault).1
  rwa [put] at frame

theorem mem_of_loadOperation {fault : Bool} {operation : Operation}
    (loaded : store.loadOperation documents id fault = .ok operation) : id ∈ store.operations := by
  obtain ⟨modTime, found, _⟩ := Store.loadOperation_ok loaded
  rw [← AList.lookup_isSome, found]
  rfl

theorem catalogSetLocked_bounded (decoded : Request) (canonical : Bytes)
    (bounded : store.operationCount ≤ settings.maxStoredOperations) :
    (catalogSetLocked documents settings memory store now id decoded canonical
      faults).store.operationCount ≤ settings.maxStoredOperations := by
  have put_le : ∀ {left current : Store} {result : Except String Unit},
      left.operationCount ≤ settings.maxStoredOperations →
      left.putRequest documents id canonical faults.putRequest = (current, result) →
      current.operationCount ≤ settings.maxStoredOperations :=
    fun below put => (operationCount_of_eq (operations_of_putRequest put)).le.trans below
  dsimp only [catalogSetLocked]
  split
  · exact bounded
  split
  · obtain ⟨onError, _⟩ :=
      @reserveOperationLocked_spec documents settings memory store id faults
    split
    · rename_i outcome reserved
      exact (onError outcome reserved).1.operationCount_le.trans bounded
    rename_i reserved
    have free := free_of_reserveOperationLocked reserved
    split
    · exact put_le free.le ‹_›
    · rename_i put
      rw [← operationCount_of_eq (operations_of_putRequest put)] at free
      rw [markPendingLocked_store]
      exact operationCount_saveOperation _ free.le (.inr free)
  · split
    all_goals exact put_le bounded ‹_›
  · rename_i loaded
    split
    · exact put_le bounded ‹_›
    rename_i put
    have below := put_le bounded put
    repeat' split
    all_goals try exact below
    rw [markPendingLocked_store]
    refine operationCount_saveOperation _ below (.inl ?_)
    rw [operations_of_putRequest put]
    exact mem_of_loadOperation loaded

theorem answerOperationLocked_store (decoded : Request) (operation : Operation) :
    (answerOperationLocked documents settings memory store id decoded operation).store = store := by
  unfold answerOperationLocked
  repeat' split
  all_goals rfl

theorem operationLocked_bounded (bounded : store.operationCount ≤ settings.maxStoredOperations) :
    (operationLocked documents settings memory store now id faults).store.operationCount ≤
      settings.maxStoredOperations := by
  dsimp only [operationLocked]
  split
  · exact bounded
  split
  · exact bounded
  · exact bounded
  · rename_i loaded
    have saved := @operationCount_saveOperation documents store (pendingOperation settings id)
      faults.modTime _ faults.saveOperation bounded (.inl (mem_of_loadOperation loaded))
    repeat' split
    all_goals try rw [answerOperationLocked_store]
    all_goals first | exact bounded | simpa [*] using saved

end Handlers

/-! ## Operations that keep their files -/

/-- The operation is active, queued, or pending without a terminal error. -/
def Spared (memory : Memory) (store : Store) (id : String) : Prop :=
  memory.Needs id ∨ store.persistedStatus id = some .pending ∧ memory.clean id

section Spared

variable {memory kept : Memory} {store left : Store} {id : String}

/-- Eviction passes over what is spared. -/
theorem Evicted.spares (evicted : Evicted memory kept store left)
    (awaited : Awaited memory store) (spared : Spared memory store id)
    (member : id ∈ store.operations) : id ∈ left.operations := by
  rcases evicted.operations id with same | ⟨_, inactive, excused⟩
  · rwa [← AList.lookup_isSome, same, AList.lookup_isSome]
  · have waits : store.persistedStatus id = some .pending ∧ memory.clean id := by
      rcases spared with (active | queued) | waits
      · exact absurd active inactive
      · exact awaited id queued
      · exact waits
    exact absurd excused (by simp [waits.1, waits.2])

/-- A handler keeps the files of what is spared, and files what it starts. -/
theorem HandlerEffect.spares {now : Time} {call : Call} {faults : HandlerFaults} {outcome : Outcome}
    (handled : HandlerEffect documents settings memory store now call faults outcome)
    (awaited : Awaited memory store) (filed : ∀ id, Spared memory store id → id ∈ store.operations)
    (spared : Spared memory store id ∨ outcome.memory.Needs id) :
    id ∈ outcome.store.operations := by
  obtain ⟨kept, left, evicted, effect⟩ := handled.effect
  have remains : Spared memory store id ∨ kept.Needs id → id ∈ left.operations := by
    rintro (spared | needs)
    · exact evicted.spares awaited spared (filed id spared)
    · have spared : Spared memory store id := .inl (evicted.needs ▸ needs)
      exact evicted.spares awaited spared (filed id spared)
  rcases effect with ⟨rfl, operations, _⟩ | ⟨name, _, _, _, _, rfl, ⟨_, operations⟩, _⟩ |
    ⟨name, decoded, cloned, operation, _, _, _, _, started, recorded, _⟩
  · rw [operations]
    exact remains spared
  · rw [operations]
    exact mem_withOperation.mpr (.inr (remains spared))
  · have origin : id = name ∨ id ∈ left.operations := by
      rcases spared with spared | needs
      · exact .inr (remains (.inl spared))
      · rw [started] at needs
        exact (needs_of_startLocked needs).symm.imp_right fun old => remains (.inr old)
    rcases recorded with ⟨operations, pending⟩ | ⟨_, _, operations⟩
    · rw [operations]
      rcases origin with rfl | old
      · exact Store.mem_keys_of_persistedStatus pending
      · exact old
    · rw [operations]
      exact mem_withOperation.mpr origin

end Spared

/-! ## Runs -/

/-- Every generation has the file of its operation, and the files are within the quota. -/
structure WithinQuota (settings : Settings) (state : State) : Prop where
  filed : ∀ memory, state.process = some memory → ∀ id, memory.Needs id →
    id ∈ state.store.operations
  bounded : state.store.operationCount ≤ settings.maxStoredOperations

/-- The files of what is spared are still there. -/
def Spares (source target : State) : Prop :=
  ∀ memory, source.process = some memory → ∀ id, Spared memory source.store id →
    id ∈ target.store.operations

section Steps

variable {source target : State} {label : Label}

theorem WithinQuota.spared (within : WithinQuota settings source) : Spares source source := by
  rintro memory running id (needs | ⟨pending, _⟩)
  · exact within.filed memory running id needs
  · exact Store.mem_keys_of_persistedStatus pending

/-- A step that leaves the operation directory as it is and needs no further operation. -/
theorem WithinQuota.quiet (within : WithinQuota settings source)
    (operations : target.store.operations = source.store.operations)
    (needs : ∀ kept, target.process = some kept → ∀ id, kept.Needs id →
      id ∈ source.store.operations) :
    WithinQuota settings target ∧ Spares source target := by
  refine ⟨⟨?_, (operationCount_of_eq operations).le.trans within.bounded⟩, ?_⟩
  · rw [operations]
    exact needs
  · rw [Spares, operations]
    exact within.spared

theorem WithinQuota.step (within : WithinQuota settings source)
    (scheduled : Running settings source) (holding : Holding source)
    (taken : (machine documents settings).step source label = some target) :
    WithinQuota settings target ∧ Spares source target := by
  have unmoved : ∀ {memory kept : Memory}, source.process = some memory →
      target.process = some kept → kept.Needs = memory.Needs →
      target.store.operations = source.store.operations →
      WithinQuota settings target ∧ Spares source target := by
    intro memory kept running after needs operations
    refine within.quiet operations fun other isOther id needed => ?_
    obtain rfl : kept = other := Option.some.inj (after.symm.trans isOther)
    exact within.filed memory running id (needs ▸ needed)
  cases stepped_of_step taken with
  | crash | exited => exact within.quiet rfl nofun
  | clock | startFailed | turnedAway => exact within.quiet rfl within.filed
  | started stopped resumed =>
    refine within.quiet rfl ?_
    rintro memory ⟨⟩ id needs
    exact Store.mem_keys_of_persistedStatus (pending_of_resumePending resumed id needs).1
  | entered running | closed running | cancelled running | advanced running | signed running =>
    exact unmoved running rfl rfl rfl
  | @handled index faults call memory _ running found outcome_eq =>
    have effect := handled_effect outcome_eq
    subst outcome_eq
    have awaited := (holding memory running).awaited (scheduled memory running)
    have filed := within.spared memory running
    refine ⟨⟨?_, ?_⟩, ?_⟩
    · rintro _ ⟨⟩ id needs
      exact effect.spares awaited filed (.inr needs)
    · unfold handleCall
      repeat' split
      all_goals first | exact within.bounded | exact catalogSetLocked_bounded _ _ within.bounded |
        exact operationLocked_bounded within.bounded
    · intro other isOther id spared
      obtain rfl : memory = other := Option.some.inj (running.symm.trans isOther)
      exact effect.spares awaited filed (.inl spared)
  | sequenced running _ _ result =>
    exact unmoved running rfl rfl (by rw [assignSequence_frame result])
  | written running _ _ result =>
    exact unmoved running rfl rfl (by rw [writeCatalog_frame result])
  | @finished memory kept index worker operation fault modTime _ store stage running found at_stage
      result =>
    obtain ⟨own, _⟩ :=
      (scheduled memory running).finishing worker (List.mem_of_getElem? found) operation at_stage
    have active : memory.Needs operation.id :=
      .inl (own ▸ (scheduled memory running).worker_active found)
    have needs : (kept.withStage index worker stage).Needs = memory.Needs := by
      obtain ⟨⟨errors, rfl, _⟩, _⟩ := finishWorker_frame result
      rfl
    obtain rfl := (finishWorker_cases result).2.1
    have stays : ∀ id ∈ source.store.operations,
        id ∈ (source.store.saveOperation documents operation fault modTime).1.operations := by
      intro id member
      rcases @saveOperation_store documents source.store operation modTime fault with same | same
      · rwa [same]
      · rw [same]
        exact mem_withOperation.mpr (.inr member)
    refine ⟨⟨?_, operationCount_saveOperation fault within.bounded
      (.inl (within.filed memory running _ active))⟩, ?_⟩
    · rintro _ ⟨⟩ id needed
      exact stays id (within.filed memory running id (needs ▸ needed))
    · exact fun other isOther id spared => stays id (within.spared other isOther id spared)
  | collected running _ _ removed =>
    exact unmoved running rfl rfl (by rw [removeCatalogEntry_frame removed])
  | done running found at_stage released =>
    refine within.quiet rfl ?_
    rintro _ ⟨⟩ id needs
    exact within.filed _ running id
      (needs_of_generationDone (scheduled _ running) found released needs)

end Steps

/--
In every run from a stopped service with no more operation files than
`maxStoredOperations` there are never more, and no step removes the file of an
operation that is active, queued, or pending without a terminal error.
-/
theorem operation_quota {source state : State} {labels : List Label}
    (run : (machine documents settings).Run Foundation.Machine.unguarded source labels state)
    (stopped : source.process = none)
    (initially : source.store.operationCount ≤ settings.maxStoredOperations) :
    state.store.operationCount ≤ settings.maxStoredOperations ∧
      ∀ label target, (machine documents settings).step state label = some target →
        ∀ memory, state.process = some memory → ∀ id, (id ∈ memory.active ∨ id ∈ memory.queue ∨
            (state.store.persistedStatus id = some .pending ∧
              memory.terminalErrors.lookup id = none)) →
          id ∈ target.store.operations := by
  have invariant : Running settings state ∧ Holding state ∧ WithinQuota settings state := by
    refine @Foundation.Machine.Run.preserves _ _ _ _ _ _ _
      (fun state => Running settings state ∧ Holding state ∧ WithinQuota settings state) ?_ run
      ⟨?_, ?_, ?_, initially⟩
    · rintro before label after ⟨running, holding, within⟩ _ taken
      exact ⟨running.step taken, (stepTraced taken running holding).holding,
        (within.step running holding taken).1⟩
    all_goals simp [Running, Holding, stopped]
  obtain ⟨running, holding, within⟩ := invariant
  refine ⟨within.bounded, fun label target taken memory isRunning id spared => ?_⟩
  exact (within.step running holding taken).2 memory isRunning id (or_assoc.mpr spared)

/-- With room for one operation, the second request evicts the first operation, and whatever
happens next, the file of the second one stays. -/
theorem operation_quota_sample :
    ∃ state, (machine Sample.publisher Sample.narrow).Run Foundation.Machine.unguarded
        State.initial Sample.publishingRun state ∧
      state.store.operations.lookup ("op-" ++ Sample.hexOf 0) = none ∧
      state.store.operationCount ≤ 1 ∧
      ∀ label target, (machine Sample.publisher Sample.narrow).step state label = some target →
        "op-" ++ Sample.hexOf 9 ∈ target.store.operations := by
  obtain ⟨state, run, published⟩ := Sample.exists_published
  obtain ⟨bounded, kept⟩ := operation_quota run.unguard rfl (by decide)
  obtain ⟨memory, running, active⟩ := (Option.any_eq_true _ _).mp published.waiting
  exact ⟨state, run.unguard, published.evicted, bounded, fun label target taken =>
    kept label target taken memory running _ (.inl (of_decide_eq_true active).1)⟩

end DalecHomebrew.CatalogService
