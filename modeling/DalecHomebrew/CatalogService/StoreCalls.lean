import DalecHomebrew.CatalogService.Durability
import DalecHomebrew.CatalogService.Running

/-!
# The store calls of a step

Which calls of `putRequest`, `saveOperation` and `removeOperation` a step of
the service makes, in their order.  The functions below follow the control flow
of the handlers; the results say that the calls lead to the store that the step
leaves, and that each of them is one that the store allows: a request goes
under the ID of its digest, a record only beside its request, and nothing is
evicted whose generation runs or waits.
-/

namespace DalecHomebrew.CatalogService

open Catalog Foundation

/-! ## The store calls of a step -/

section StoreCalls

variable (documents : Documents) (settings : Settings)

/-- The removals of `evictLoop`. -/
def evictionCalls (faults : EvictionFaults) (max : Nat) :
    Nat → List Store.StoredOperationInfo → Memory → Store → List StoreCall
  | _, [], _, _ => []
  | remaining, info :: rest, memory, store =>
    if remaining ≤ max then []
    else if info.id ∈ memory.active then evictionCalls faults max remaining rest memory store
    else
      match store.loadOperation documents info.id (faults.load info.id) with
      | .error _ => evictionCalls faults max remaining rest memory store
      | .ok operation =>
        if operation.status = .pending ∧ (memory.terminalErrors.lookup info.id).isNone then
          evictionCalls faults max remaining rest memory store
        else
          .removeOperation info.id (faults.remove info.id) ::
            match store.removeOperation info.id (faults.remove info.id) with
            | (_, .error _) => []
            | (store, .ok _) =>
              evictionCalls faults max (remaining - 1) rest
                { memory with terminalErrors := memory.terminalErrors.erase info.id } store

/-- The removals of `evictOperationsLocked`. -/
def evictOperationsCalls (memory : Memory) (store : Store) (max : Nat) (faults : EvictionFaults) :
    List StoreCall :=
  match store.operationInfos faults.infos with
  | .error _ => []
  | .ok infos =>
    if infos.length ≤ max then []
    else
      evictionCalls documents faults max infos.length
        (infos.insertionSort fun left right => left.modTime ≤ right.modTime) memory store

/-- The removals of `reserveOperationLocked`. -/
def reserveOperationCalls (memory : Memory) (store : Store) (id : String)
    (faults : HandlerFaults) : List StoreCall :=
  if !generationCapacityAvailableLocked settings memory id then []
  else evictOperationsCalls documents memory store (settings.maxStoredOperations - 1) faults.eviction

/-- The save of `markPendingLocked`. -/
def markPendingCalls (id : String) (faults : HandlerFaults) : List StoreCall :=
  [.saveOperation (pendingOperation settings id) faults.saveOperation faults.modTime]

/-- The store calls of `catalogSetLocked`. -/
def catalogSetCalls (memory : Memory) (store : Store) (now : Time) (id : String)
    (decoded : Request) (canonical : Bytes) (faults : HandlerFaults) : List StoreCall :=
  let put : StoreCall := .putRequest id canonical faults.putRequest
  if (memory.terminalErrors.lookup id).isSome then []
  else
    match store.loadOperation documents id faults.loadOperation with
    | .error .notExist =>
      reserveOperationCalls documents settings memory store id faults ++
        match reserveOperationLocked documents settings memory store id faults with
        | .error _ => []
        | .ok (_, store) =>
          put ::
            match store.putRequest documents id canonical faults.putRequest with
            | (_, .error _) => []
            | (_, .ok _) => markPendingCalls settings id faults
    | .error (.other _) => [put]
    | .ok operation =>
      put ::
        match store.putRequest documents id canonical faults.putRequest with
        | (_, .error _) => []
        | (store, .ok _) =>
          if operation.status = .completed ∧
              cachedResultFresh documents settings store decoded operation.result now
                faults.loadCatalog then []
          else if !generationCapacityAvailableLocked settings memory id then []
          else if operation.status ≠ .pending then markPendingCalls settings id faults
          else []

/-- The store calls of `operationLocked`. -/
def operationCalls (memory : Memory) (store : Store) (now : Time) (id : String)
    (faults : HandlerFaults) : List StoreCall :=
  if (memory.terminalErrors.lookup id).isSome then []
  else
    match store.loadOperation documents id faults.loadOperation,
        store.loadRequest documents id faults.loadRequest with
    | .ok operation, .ok decoded =>
      if operationID documents decoded ≠ .ok id then []
      else if operation.status = .completed ∧
          !cachedResultFresh documents settings store decoded operation.result now
            faults.loadCatalog then
        if !generationCapacityAvailableLocked settings memory id then []
        else markPendingCalls settings id faults
      else []
    | _, _ => []

/-- The store calls of a handler. -/
def handlerCalls (memory : Memory) (store : Store) (now : Time) (call : Call)
    (faults : HandlerFaults) : List StoreCall :=
  match call with
  | .catalogSet request =>
    match catalogSetRequest documents request with
    | .error _ => []
    | .ok (id, decoded, canonical) =>
      catalogSetCalls documents settings memory store now id decoded canonical faults
  | .operation request =>
    match operationRequest request with
    | .error _ => []
    | .ok id => operationCalls documents settings memory store now id faults

/-- The store calls of one step of the machine on the two directories. -/
def stepCalls (state : State) : Label → List StoreCall
  | .handle index faults =>
    match state.process with
    | none => []
    | some memory =>
      match memory.handlers[index]? with
      | none => []
      | some call =>
        handlerCalls documents settings
          { memory with handlers := memory.handlers.eraseIdx index } state.store state.clock
          call faults
  | .finish index fault modTime _ =>
    match state.process with
    | none => []
    | some memory =>
      match memory.workers[index]? with
      | none => []
      | some worker =>
        match worker.stage with
        | .finishing operation => [.saveOperation operation fault modTime]
        | _ => []
  | _ => []

end StoreCalls

variable {documents : Documents} {settings : Settings}

/-! ## The calls are those of the handlers -/

/-- The operations whose generation runs or waits for a slot. -/
def Memory.Needs (memory : Memory) (id : String) : Prop := id ∈ memory.active ∨ id ∈ memory.queue

/-- Every queued generation is recorded as pending, without a terminal error. -/
def Awaited (memory : Memory) (store : Store) : Prop :=
  ∀ id ∈ memory.queue, store.persistedStatus id = some .pending ∧ memory.clean id

variable {memory target : Memory} {store left : Store}

theorem Evicted.awaited (evicted : Evicted memory target store left) (awaited : Awaited memory store) :
    Awaited target left := by
  intro id queued
  have sameQueue : target.queue = memory.queue := by rw [evicted.memory_eq]
  obtain ⟨pending, clean⟩ := awaited id (sameQueue ▸ queued)
  refine ⟨?_, evicted.clean clean⟩
  rcases evicted.operations id with same | ⟨_, _, settled | dirty⟩
  · simpa [Store.persistedStatus, same] using pending
  · exact absurd pending settled
  · exact absurd clean dirty

/-- The eviction loop removes what its calls say, and nothing that is needed. -/
theorem evictLoop_calls (faults : EvictionFaults) (max remaining : Nat)
    (infos : List Store.StoredOperationInfo) (memory : Memory) (store : Store)
    (awaited : Awaited memory store) :
    (evictLoop documents faults max remaining infos memory store).2.1 = applyCalls documents store
          (evictionCalls documents faults max remaining infos memory store) ∧
      AllAllowed documents memory.Needs store
        (evictionCalls documents faults max remaining infos memory store) := by
  induction infos generalizing remaining memory store with
  | nil => exact ⟨rfl, trivial⟩
  | cons info rest ih =>
    unfold evictLoop evictionCalls
    split
    · exact ⟨rfl, trivial⟩
    split
    · exact ih remaining memory store awaited
    rename_i active
    cases loaded : store.loadOperation documents info.id (faults.load info.id) with
    | error failure => exact ih remaining memory store awaited
    | ok operation =>
      dsimp only
      split
      · exact ih remaining memory store awaited
      rename_i skipped
      obtain ⟨modTime, found, _⟩ := Store.loadOperation_ok loaded
      have unneeded : ¬ memory.Needs info.id := by
        rintro (isActive | queued)
        · exact active isActive
        · obtain ⟨pending, clean⟩ := awaited info.id queued
          apply skipped
          simp_all [Store.persistedStatus, Memory.clean]
      obtain ⟨evicted, gone⟩ :=
        removeOperation_evicted (faults.remove info.id) loaded active skipped
      have applied : StoreCall.apply documents store
          (.removeOperation info.id (faults.remove info.id)) =
          (store.removeOperation info.id (faults.remove info.id)).1 := rfl
      generalize store.removeOperation info.id (faults.remove info.id) = removed
        at evicted gone applied ⊢
      obtain ⟨left, result⟩ := removed
      cases result with
      | error message => exact ⟨applied.symm, unneeded, trivial⟩
      | ok done =>
        obtain ⟨same, allowed⟩ := ih (remaining - 1)
          { memory with terminalErrors := memory.terminalErrors.erase info.id } left
          ((evicted.trans (.dropError (gone rfl))).awaited awaited)
        simp only [applyCalls, List.foldl_cons, AllAllowed, applied]
        exact ⟨same, unneeded, allowed⟩

/-- What the store calls of a handler have to do with its outcome. -/
structure Traced (documents : Documents) (memory : Memory) (store : Store)
    (calls : List StoreCall) (outcome : Outcome) : Prop where
  store_eq : outcome.store = applyCalls documents store calls
  allowed : AllAllowed documents memory.Needs store calls
  requested : ∀ id, outcome.memory.Needs id →
    memory.Needs id ∨ ∃ data, outcome.store.requests.lookup id = some data

theorem evictOperationsLocked_calls (memory : Memory) (store : Store) (max : Nat)
    (faults : EvictionFaults) (awaited : Awaited memory store) :
    (evictOperationsLocked documents memory store max faults).2.1 =
        applyCalls documents store (evictOperationsCalls documents memory store max faults) ∧
      AllAllowed documents memory.Needs store
        (evictOperationsCalls documents memory store max faults) := by
  unfold evictOperationsLocked evictOperationsCalls
  cases store.operationInfos faults.infos with
  | error message => exact ⟨rfl, trivial⟩
  | ok infos =>
    simp only
    split
    · exact ⟨rfl, trivial⟩
    · exact evictLoop_calls faults max _ _ memory store awaited

/-- Reserving a place for an operation removes what its calls say. -/
theorem reserveOperationLocked_calls (memory : Memory) (store : Store) (id : String)
    (faults : HandlerFaults) (awaited : Awaited memory store) :
    AllAllowed documents memory.Needs store
        (reserveOperationCalls documents settings memory store id faults) ∧
      (∀ outcome, reserveOperationLocked documents settings memory store id faults =
          .error outcome →
        outcome.store = applyCalls documents store
          (reserveOperationCalls documents settings memory store id faults)) ∧
      ∀ kept left, reserveOperationLocked documents settings memory store id faults =
          .ok (kept, left) →
        left = applyCalls documents store
          (reserveOperationCalls documents settings memory store id faults) := by
  obtain ⟨same, allowed⟩ := @evictOperationsLocked_calls documents memory store
    (settings.maxStoredOperations - 1) faults.eviction awaited
  have evicted : ∀ {kept : Memory} {left : Store} {result : Except String Unit},
      evictOperationsLocked documents memory store (settings.maxStoredOperations - 1)
        faults.eviction = (kept, left, result) →
      left = applyCalls documents store (evictOperationsCalls documents memory store
        (settings.maxStoredOperations - 1) faults.eviction) := by
    intro kept left result happened
    rwa [happened] at same
  unfold reserveOperationLocked reserveOperationCalls
  by_cases exhausted : (!generationCapacityAvailableLocked settings memory id) = true
  · simp only [if_pos exhausted]
    refine ⟨trivial, ?_, ?_⟩
    · rintro outcome ⟨⟩
      rfl
    · rintro _ _ ⟨⟩
  · simp only [if_neg exhausted]
    refine ⟨allowed, fun outcome refused => ?_, fun kept left reserved => ?_⟩
    · repeat' split at refused
      all_goals cases refused
      all_goals exact evicted ‹_›
    · repeat' split at reserved
      all_goals cases reserved
      exact evicted ‹_›

theorem Evicted.needs (evicted : Evicted memory target store left) : target.Needs = memory.Needs := by
  rw [evicted.memory_eq]
  rfl

variable {id : String}

/-- Starting a generation adds at most its own operation. -/
theorem needs_of_startLocked {other : String} {request : Request}
    (needs : (startLocked documents settings memory id request).Needs other) :
    memory.Needs other ∨ other = id := by
  have started := @started_startLocked documents settings memory id request
  rcases needs with active | waits
  · exact (Finset.mem_insert.mp (started.active.2 active)).symm.imp_left .inl
  · exact (List.mem_append.mp (started.queue.2 waits)).imp .inr List.mem_singleton.mp

variable {data : Bytes}

/-- After a successful `putRequest` the request is stored. -/
theorem Store.requested_of_putRequest {fault : WriteFault} {done : Unit}
    (put : store.putRequest documents id data fault = (left, .ok done)) :
    ∃ bytes, left.requests.lookup id = some bytes := by
  unfold Store.putRequest at put
  repeat' split at put
  all_goals cases put
  · rename_i existing found _ _
    exact ⟨existing, found⟩
  all_goals exact ⟨data, AList.lookup_insert store.requests⟩

variable {decoded : Request} {canonical : Bytes}

namespace Traced

variable {memory kept : Memory} {store left : Store} {calls more : List StoreCall}
  {outcome : Outcome}

/-- An answer without a generation. -/
theorem answered (store_eq : outcome.store = applyCalls documents store calls)
    (allowed : AllAllowed documents memory.Needs store calls)
    (needs : outcome.memory.Needs = memory.Needs) :
    Traced documents memory store calls outcome where
  store_eq := store_eq
  allowed := allowed
  requested := fun _ isNeeded => .inl (needs ▸ isNeeded)

/-- The calls before a handler's last part, which runs on what they left. -/
theorem after (left_eq : left = applyCalls documents store calls)
    (allowed : AllAllowed documents memory.Needs store calls) (needs : kept.Needs = memory.Needs)
    (last : Traced documents kept left more outcome) :
    Traced documents memory store (calls ++ more) outcome where
  store_eq := by rw [last.store_eq, left_eq, applyCalls, applyCalls, applyCalls, List.foldl_append]
  allowed := by
    rw [allAllowed_append, ← left_eq, ← needs]
    exact ⟨needs ▸ allowed, last.allowed⟩
  requested := needs ▸ last.requested

/-- A handler that goes on after writing its request. -/
theorem afterPut {id : String} {fault : WriteFault} {result : Except String Unit}
    (written : store.putRequest documents id data fault = (left, result))
    (names : (StoreCall.putRequest id data fault).Allowed documents memory.Needs store)
    (last : Traced documents memory left more outcome) :
    Traced documents memory store (.putRequest id data fault :: more) outcome where
  store_eq := by simp [last.store_eq, applyCalls, StoreCall.apply, written]
  allowed := ⟨names, by rw [StoreCall.apply, written]; exact last.allowed⟩
  requested := last.requested

/-- A generation that is started beside its request. -/
theorem started {id : String} {response : Response}
    (requested : ∃ data, left.requests.lookup id = some data)
    (left_eq : left = applyCalls documents store calls)
    (allowed : AllAllowed documents memory.Needs store calls) :
    Traced documents memory store calls
      { memory := startLocked documents settings memory id decoded, store := left, response } where
  store_eq := left_eq
  allowed := allowed
  requested := by
    intro other needs
    rcases needs_of_startLocked needs with old | rfl
    · exact .inl old
    · exact .inr requested

end Traced

theorem saveOperation_requests (store : Store) (operation : Operation) (fault : WriteFault)
    (modTime : Time) :
    (store.saveOperation documents operation fault modTime).1.requests = store.requests := by
  rcases @Store.saveOperation_cases documents store operation fault modTime with
    ⟨saved, _⟩ | ⟨_, failed, _⟩ | ⟨_, failed, _⟩
  · rw [saved]
    rfl
  · rw [failed]
  · rw [failed]
    rfl

variable {now : Time} {operation : Operation} {memory kept : Memory} {store left : Store}
  {id : String}

/-- The save of a pending record as a store call. -/
theorem savePending_calls (memory : Memory) {faults : HandlerFaults} {result : Except String Unit}
    (requested : ∃ data, store.requests.lookup id = some data)
    (saved : store.saveOperation documents (pendingOperation settings id) faults.saveOperation
      faults.modTime = (left, result)) :
    left = applyCalls documents store (markPendingCalls settings id faults) ∧
      AllAllowed documents memory.Needs store (markPendingCalls settings id faults) ∧
      ∃ data, left.requests.lookup id = some data := by
  obtain rfl : (store.saveOperation documents (pendingOperation settings id)
    faults.saveOperation faults.modTime).1 = left := by rw [saved]
  refine ⟨rfl, ⟨requested, trivial⟩, ?_⟩
  rw [saveOperation_requests]
  exact requested

theorem markPendingLocked_traced (memory : Memory) (store : Store)
    (decoded : Request) (faults : HandlerFaults)
    (requested : ∃ data, store.requests.lookup id = some data) :
    Traced documents memory store (markPendingCalls settings id faults)
      (markPendingLocked documents settings memory store id decoded faults) := by
  unfold markPendingLocked
  dsimp only
  split
  · obtain ⟨applied, allowed, _⟩ := savePending_calls memory requested ‹_›
    exact .answered applied allowed rfl
  · obtain ⟨applied, allowed, kept⟩ := savePending_calls memory requested ‹_›
    exact .started kept applied allowed

theorem catalogSetLocked_traced {request : PostRequest}
    (parsed : catalogSetRequest documents request = .ok (id, decoded, canonical))
    (memory : Memory) (store : Store) (now : Time) (faults : HandlerFaults)
    (awaited : Awaited memory store) :
    Traced documents memory store
      (catalogSetCalls documents settings memory store now id decoded canonical faults)
      (catalogSetLocked documents settings memory store now id decoded canonical faults) := by
  have names : Names documents id canonical := by
    dsimp only [catalogSetRequest] at parsed
    repeat' split at parsed
    all_goals cases parsed
    rfl
  dsimp only [catalogSetLocked, catalogSetCalls]
  split
  · exact .answered rfl trivial rfl
  cases loaded : store.loadOperation documents id faults.loadOperation with
  | error failure =>
    cases failure with
    | notExist =>
      obtain ⟨allowed, onError, onSuccess⟩ :=
        @reserveOperationLocked_calls documents settings memory store id faults awaited
      obtain ⟨evictedOnError, evictedOnSuccess⟩ :=
        @reserveOperationLocked_spec documents settings memory store id faults
      cases reserved : reserveOperationLocked documents settings memory store id faults with
      | error outcome =>
        simp only [List.append_nil]
        exact .answered (onError outcome reserved) allowed
          (evictedOnError outcome reserved).1.needs
      | ok pair =>
        obtain ⟨kept, left⟩ := pair
        refine .after (onSuccess kept left reserved) allowed
          (evictedOnSuccess kept left reserved).1.needs ?_
        dsimp only
        cases written : left.putRequest documents id canonical faults.putRequest with
        | mk current result =>
          refine .afterPut written names ?_
          cases result with
          | error message => exact .answered rfl trivial rfl
          | ok done =>
            exact markPendingLocked_traced kept current decoded faults
              (Store.requested_of_putRequest written)
    | other message =>
      dsimp only
      cases written : store.putRequest documents id canonical faults.putRequest with
      | mk current result =>
        refine .afterPut written names ?_
        cases result <;> exact .answered rfl trivial rfl
  | ok operation =>
    dsimp only
    cases written : store.putRequest documents id canonical faults.putRequest with
    | mk current result =>
      refine .afterPut written names ?_
      cases result with
      | error message => exact .answered rfl trivial rfl
      | ok done =>
        have requested := Store.requested_of_putRequest written
        dsimp only
        split
        · exact .answered rfl trivial rfl
        split
        · exact .answered rfl trivial rfl
        split
        · exact markPendingLocked_traced memory current decoded faults requested
        · exact .started requested rfl trivial

theorem answerOperationLocked_traced {calls : List StoreCall}
    (requested : ∃ data, left.requests.lookup id = some data)
    (left_eq : left = applyCalls documents store calls)
    (allowed : AllAllowed documents memory.Needs store calls) :
    Traced documents memory store calls
      (answerOperationLocked documents settings memory left id decoded operation) := by
  unfold answerOperationLocked
  split
  · split
    · exact .answered left_eq allowed rfl
    · exact .started requested left_eq allowed
  · exact .answered left_eq allowed rfl

theorem operationLocked_traced (memory : Memory) (store : Store) (now : Time) (id : String)
    (faults : HandlerFaults) :
    Traced documents memory store
      (operationCalls documents settings memory store now id faults)
      (operationLocked documents settings memory store now id faults) := by
  have refused : ∀ (status : Nat) (message : String), Traced documents memory store []
        { memory, store, response := unavailable status message } :=
    fun _ _ => .answered rfl trivial rfl
  dsimp only [operationLocked, operationCalls]
  split
  · exact refused 500 _
  cases loaded : store.loadOperation documents id faults.loadOperation with
  | error failure =>
    cases failure with
    | notExist => exact refused 404 _
    | other message => exact refused 500 _
  | ok operation =>
    cases found : store.loadRequest documents id faults.loadRequest with
    | error failure => exact refused 500 _
    | ok decoded =>
      obtain ⟨data, stored, _⟩ := Store.loadRequest_ok found
      have requested : ∃ data, store.requests.lookup id = some data := ⟨data, stored⟩
      dsimp only
      split
      · exact refused 500 _
      split
      · split
        · exact refused 503 _
        split
        · obtain ⟨applied, allowed, _⟩ := savePending_calls memory requested ‹_›
          exact .answered applied allowed rfl
        · obtain ⟨applied, allowed, kept⟩ := savePending_calls memory requested ‹_›
          exact answerOperationLocked_traced kept applied allowed
      · exact answerOperationLocked_traced requested rfl trivial

/-- The store calls of a whole handler. -/
theorem handleCall_traced (memory : Memory) (store : Store) (now : Time) (call : Call)
    (faults : HandlerFaults) (awaited : Awaited memory store) :
    Traced documents memory store
      (handlerCalls documents settings memory store now call faults)
      (handleCall documents settings memory store now call faults) := by
  cases call with
  | catalogSet request =>
    dsimp only [handleCall, handlerCalls]
    cases parsed : catalogSetRequest documents request with
    | error response => exact .answered rfl trivial rfl
    | ok values =>
      obtain ⟨id, decoded, canonical⟩ := values
      exact catalogSetLocked_traced parsed memory store now faults awaited
  | operation request =>
    dsimp only [handleCall, handlerCalls]
    cases operationRequest request with
    | error response => exact .answered rfl trivial rfl
    | ok id => exact operationLocked_traced memory store now id faults

/-! ## Requests of running generations -/

/-- Every generation has its stored request, and every queued one its pending record. -/
structure Held (memory : Memory) (store : Store) : Prop where
  requested : ∀ id, memory.Needs id → ∃ data, store.requests.lookup id = some data
  pending : ∀ id ∈ memory.queue, store.persistedStatus id = some .pending

/-- `Held` for whatever process is running. -/
def Holding (state : State) : Prop := ∀ memory, state.process = some memory → Held memory state.store

/-- Fewer generations on the same two directories. -/
theorem Held.mono (held : Held memory store)
    (needs : ∀ id, kept.Needs id → memory.Needs id) (queue : ∀ id ∈ kept.queue, id ∈ memory.queue)
    (operations : left.operations = store.operations) (requests : left.requests = store.requests) :
    Held kept left where
  requested := by
    rw [requests]
    exact fun id isNeeded => held.requested id (needs id isNeeded)
  pending := by
    simp only [Store.persistedStatus, operations]
    exact fun id queued => held.pending id (queue id queued)

theorem Held.awaited (held : Held memory store)
    (scheduled : Scheduled settings memory) : Awaited memory store :=
  fun id queued => ⟨held.pending id queued, scheduled.queue_clean id queued⟩

section

variable {store : Store} {faults : ResumeFaults} {memory : Memory}
  (resumed : resumePending documents settings store faults = .ok memory)

include resumed

/-- What `resumePending` starts or queues is pending and has its request. -/
theorem pending_of_resumePending (id : String) (needs : memory.Needs id) :
    store.persistedStatus id = some .pending ∧ ∃ data, store.requests.lookup id = some data := by
  unfold resumePending at resumed
  repeat' split at resumed
  all_goals cases resumed
  rename_i pending collected _
  obtain ⟨_, sound, _⟩ := pendingRequests_ok collected
  rcases foldl_origin (motive := fun memory : Memory => memory.Needs id) (fun _ _ started =>
    (needs_of_startLocked started).imp_right Eq.symm) needs with impossible | ⟨item, member, rfl⟩
  · simp [Memory.Needs, Memory.initial] at impossible
  · exact ⟨(sound item member).1, (sound item member).2.2⟩

end

/-- A handler keeps the pending records of the queue. -/
theorem HandlerEffect.pending {memory : Memory} {store : Store} {call : Call}
    {faults : HandlerFaults} {outcome : Outcome}
    (handled : HandlerEffect documents settings memory store now call faults outcome)
    (awaited : Awaited memory store) :
    ∀ id ∈ outcome.memory.queue, outcome.store.persistedStatus id = some .pending := by
  obtain ⟨kept, left, evicted, effect⟩ := handled.effect
  have waits := evicted.awaited awaited
  have marked : ∀ {name : String}, MarkedPending settings name left outcome.store →
      ∀ id, left.persistedStatus id = some .pending ∨ id = name →
      outcome.store.persistedStatus id = some .pending := by
    rintro name ⟨modTime, operations⟩ id origin
    simp only [Store.persistedStatus, operations]
    by_cases same : id = name
    · subst same
      exact Store.persistedStatus_withOperation left (pendingOperation settings id) modTime
    · have pending := origin.resolve_right same
      exact (Store.persistedStatus_withOperation_ne left (pendingOperation settings name) modTime
        same).trans pending
  rcases effect with ⟨rfl, operations, _⟩ | ⟨name, _, _, _, _, rfl, isMarked, _⟩ |
    ⟨name, decoded, cloned, operation, _, _, _, _, started, recorded, _⟩
  · intro id queued
    simpa [Store.persistedStatus, operations] using (waits id queued).1
  · intro id queued
    exact marked isMarked id (.inl (waits id queued).1)
  · intro id queued
    rw [started] at queued
    have origin : left.persistedStatus id = some .pending ∨ id = name := by
      rcases List.mem_append.mp ((started_startLocked kept name decoded).queue.2 queued) with
        old | new
      · exact .inl (waits id old).1
      · exact .inr (List.mem_singleton.mp new)
    rcases recorded with ⟨operations, pending⟩ | ⟨_, isMarked⟩
    · have isPending : left.persistedStatus id = some .pending := by
        rcases origin with old | rfl
        · exact old
        · exact pending
      simpa [Store.persistedStatus, operations] using isPending
    · exact marked isMarked id origin

/-! ## One step -/

/-- What the store calls of a step have to do with the step. -/
structure StepTraced (documents : Documents) (source target : State) (calls : List StoreCall) :
    Prop where
  operations_eq : target.store.operations = (applyCalls documents source.store calls).operations
  requests_eq : target.store.requests = (applyCalls documents source.store calls).requests
  allowed : AllAllowed documents
    (fun id => ∃ memory, source.process = some memory ∧ memory.Needs id) source.store calls
  holding : Holding target

namespace StepTraced

variable {source target : State}

/-- A step without store calls on the two directories. -/
theorem quiet (operations : target.store.operations = source.store.operations)
    (requests : target.store.requests = source.store.requests) (holding : Holding target) :
    StepTraced documents source target [] where
  operations_eq := operations
  requests_eq := requests
  allowed := trivial
  holding := holding

/-- A step without store calls that leaves no more generations than before. -/
theorem unmoved {memory kept : Memory} (holding : Holding source)
    (running : source.process = some memory) (after : target.process = some kept)
    (active : kept.active = memory.active) (queue : kept.queue = memory.queue)
    (operations : target.store.operations = source.store.operations)
    (requests : target.store.requests = source.store.requests) :
    StepTraced documents source target [] := by
  refine quiet operations requests ?_
  intro reached isReached
  obtain rfl : kept = reached := Option.some.inj (after.symm.trans isReached)
  refine (holding memory running).mono ?_ ?_ operations requests
  · intro id needs
    simpa [Memory.Needs, active, queue] using needs
  · intro id queued
    exact queue ▸ queued

end StepTraced

/-- The end of a generation needs no further operation. -/
theorem needs_of_generationDone {memory kept : Memory} {index : Nat} {worker : Worker} {id : String}
    (scheduled : Scheduled settings memory) (found : memory.workers[index]? = some worker)
    (released : generationDoneLocked settings
      { memory with workers := memory.workers.eraseIdx index } worker.id = some kept)
    (needs : kept.Needs id) : memory.Needs id := by
  rcases generationDoneLocked_cases scheduled found released with
    ⟨_, rfl⟩ | ⟨_, next, rest, request, head, rfl⟩
  · exact needs.imp_left Finset.mem_of_mem_erase
  · rw [Memory.Needs, head, List.mem_cons]
    rcases needs with active | queued
    · rcases Finset.mem_insert.mp active with rfl | old
      · exact .inr (.inl rfl)
      · exact .inl (Finset.mem_of_mem_erase old)
    · exact .inr (.inr queued)

/-- Every step of the machine is a sequence of allowed store calls. -/
theorem stepTraced {source target : State} {label : Label}
    (taken : (machine documents settings).step source label = some target)
    (running : Running settings source) (holding : Holding source) :
    StepTraced documents source target (stepCalls documents settings source label) := by
  cases stepped_of_step taken with
  | crash => exact .quiet rfl rfl nofun
  | started stopped resumed =>
    refine .quiet rfl rfl ?_
    rintro memory ⟨⟩
    exact ⟨fun id needs => (pending_of_resumePending resumed id needs).2,
      fun id queued => (pending_of_resumePending resumed id (.inr queued)).1⟩
  | entered isRunning => exact .unmoved holding isRunning rfl rfl rfl rfl rfl
  | @handled index faults call memory outcome isRunning found outcome_eq =>
    have calls : stepCalls documents settings source (.handle index faults) =
        handlerCalls documents settings
          { memory with handlers := memory.handlers.eraseIdx index } source.store source.clock
          call faults := by
      simp [stepCalls, isRunning, found]
    have held : Held { memory with handlers := memory.handlers.eraseIdx index } source.store :=
      (holding memory isRunning).mono (fun _ needs => needs) (fun _ queued => queued) rfl rfl
    have awaited := held.awaited ((running memory isRunning).withHandlers _)
    have traced := @handleCall_traced documents settings _ source.store source.clock call faults
      awaited
    have effect := handled_effect outcome_eq
    rw [← outcome_eq] at traced
    rw [calls]
    refine
      { operations_eq := by rw [traced.store_eq]
        requests_eq := by rw [traced.store_eq]
        allowed := traced.allowed.weaken ?_
        holding := ?_ }
    · rintro id ⟨other, isOther, needs⟩
      obtain rfl : memory = other := Option.some.inj (isRunning.symm.trans isOther)
      exact needs
    · rintro _ ⟨⟩
      refine ⟨?_, effect.pending awaited⟩
      intro id needs
      rcases traced.requested id needs with old | stored
      · obtain ⟨data, found⟩ := held.requested id old
        exact ⟨data, traced.store_eq ▸ traced.allowed.keeps old found⟩
      · exact stored
  | closed isRunning | cancelled isRunning => exact .unmoved holding isRunning rfl rfl rfl rfl rfl
  | exited => exact .quiet rfl rfl nofun
  | advanced isRunning found moves =>
    have silent : stepCalls documents settings source label = [] := by
      rcases moves with ⟨_, _, rfl, _⟩ | ⟨_, _, _, rfl, _⟩ | ⟨_, _, _, rfl, _⟩ |
        ⟨_, _, _, _, rfl, _⟩ <;> rfl
    rw [silent]
    exact .unmoved holding isRunning rfl rfl rfl rfl rfl
  | sequenced isRunning found at_stage result =>
    have frame := assignSequence_frame result
    exact .unmoved holding isRunning rfl rfl rfl (by rw [frame]) (by rw [frame])
  | written isRunning found at_stage result =>
    have frame := writeCatalog_frame result
    exact .unmoved holding isRunning rfl rfl rfl (by rw [frame]) (by rw [frame])
  | signed isRunning found at_stage signature =>
    exact .unmoved holding isRunning rfl rfl rfl rfl rfl
  | @finished memory kept index worker operation fault modTime collection store stage isRunning
      found at_stage result =>
    have calls : stepCalls documents settings source (.finish index fault modTime collection) =
        [.saveOperation operation fault modTime] := by
      simp [stepCalls, isRunning, found, at_stage]
    have saved := (finishWorker_cases result).2.1
    obtain ⟨own, _⟩ :=
      (running memory isRunning).finishing worker (List.mem_of_getElem? found) operation at_stage
    have active : operation.id ∈ memory.active :=
      own ▸ (running memory isRunning).worker_active found
    have held := holding memory isRunning
    have applied : applyCalls documents source.store
        [.saveOperation operation fault modTime] = store := saved.symm
    have sameRequests : store.requests = source.store.requests := by
      rw [saved, saveOperation_requests]
    rw [calls]
    refine
      { operations_eq := by rw [applied]
        requests_eq := by rw [applied]
        allowed := ⟨held.requested operation.id (.inl active), trivial⟩
        holding := ?_ }
    rintro _ ⟨⟩
    have fields : kept.active = memory.active ∧ kept.queue = memory.queue := by
      obtain ⟨⟨errors, rfl, _⟩, _⟩ := finishWorker_frame result
      exact ⟨rfl, rfl⟩
    constructor
    · intro id needs
      have before : memory.Needs id := by
        simpa [Memory.Needs, Memory.withStage, fields.1, fields.2] using needs
      rw [show store.requests = source.store.requests from sameRequests]
      exact held.requested id before
    · intro id queued
      have before : id ∈ memory.queue := fields.2 ▸ queued
      have different : id ≠ operation.id := by
        rintro rfl
        exact (running memory isRunning).disjoint _ active before
      have pending := held.pending id before
      obtain ⟨_, rfl | rfl, _⟩ := finishWorker_frame result
      · exact pending
      · exact (Store.persistedStatus_withOperation_ne _ _ _ different).trans pending
  | collected isRunning found at_stage removed next =>
    have frame := removeCatalogEntry_frame removed
    exact .unmoved holding isRunning rfl rfl rfl (by rw [frame]) (by rw [frame])
  | done isRunning found at_stage released =>
    refine .quiet rfl rfl ?_
    rintro _ ⟨⟩
    refine (holding _ isRunning).mono
      (fun id needs => needs_of_generationDone (running _ isRunning) found released needs) ?_
      rfl rfl
    rcases generationDoneLocked_cases (running _ isRunning) found released with
      ⟨_, rfl⟩ | ⟨_, next, rest, request, head, rfl⟩
    · exact fun _ queued => queued
    · exact fun id member => head ▸ List.mem_cons_of_mem next member
  | _ => exact .quiet rfl rfl holding

end DalecHomebrew.CatalogService
