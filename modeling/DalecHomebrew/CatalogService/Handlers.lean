import DalecHomebrew.CatalogService.Scheduler

/-!
# What the store calls and the handlers can do

One lemma for each store call that a critical section makes, one for eviction,
and `handleCall_effect` for a whole handler: a handler evicts finished
operations, then either leaves the rest alone or marks one operation pending
and starts its generation.  The invariants of the service are derived from
these lemmas without unfolding the handlers again.
-/

namespace DalecHomebrew.CatalogService

open Catalog Foundation

variable {documents : Documents} {settings : Settings}

/-! ## Store calls -/

namespace Store

/-- The status in the operation file of `id`. -/
def persistedStatus (store : Store) (id : String) : Option OperationStatus :=
  (store.operations.lookup id).map fun file => file.operation.status

variable {id : String} {store : Store}

theorem loadOperation_ok {fault : Bool} {operation : Operation}
    (loaded : store.loadOperation documents id fault = .ok operation) :
    ∃ modTime, store.operations.lookup id = some { operation, modTime } ∧ operation.id = id := by
  unfold loadOperation at loaded
  repeat' split at loaded
  all_goals cases loaded
  rename_i file found _ _ same
  exact ⟨file.modTime, found, same⟩

/-- A request that loads is stored as its own canonical form. -/
theorem loadRequest_ok {fault : Bool} {request : Request}
    (loaded : store.loadRequest documents id fault = .ok request) :
    ∃ data, store.requests.lookup id = some data ∧ documents.decodeRequest data = .ok request ∧
      documents.canonicalRequest request = .ok data := by
  unfold loadRequest at loaded
  repeat' split at loaded
  all_goals cases loaded
  rename_i data found _ _ _ same decoded isCanonical
  exact ⟨data, found, decoded, same ▸ isCanonical⟩

theorem cloneRequest_of_loadRequest {fault : Bool} {request : Request}
    (loaded : store.loadRequest documents id fault = .ok request) :
    cloneRequest documents request = .ok request := by
  obtain ⟨data, -, decoded, canonical⟩ := loadRequest_ok loaded
  simp [cloneRequest, canonical, decoded]

/-- `putRequest` only touches the request directory, and only accepts decodable data. -/
theorem putRequest_spec (store : Store) (id : String) (data : Bytes) (fault : WriteFault) :
    (store.putRequest documents id data fault).1 =
        { store with requests := (store.putRequest documents id data fault).1.requests } ∧
      ((store.putRequest documents id data fault).2 = .ok () →
        ∃ request, documents.decodeRequest data = .ok request) := by
  unfold putRequest
  split
  · exact ⟨rfl, fun impossible => by cases impossible⟩
  split
  · exact ⟨rfl, fun impossible => by cases impossible⟩
  rename_i request decoded
  refine ⟨?_, fun _ => ⟨request, decoded⟩⟩
  split
  · split
    · rfl
    · split <;> rfl
  · cases fault <;> rfl

/-- The store with the file of one operation replaced. -/
def withOperation (store : Store) (operation : Operation) (modTime : Time) : Store :=
  { store with operations := store.operations.insert operation.id { operation, modTime } }

/-- The operation can be written: it validates and is within the size limit. -/
def Persistable (documents : Documents) (operation : Operation) : Prop :=
  validateOperation documents operation = [] ∧
    (documents.marshalOperation operation).length ≤ maxOperationBytes

/-- Everything `saveOperation` can do. -/
theorem saveOperation_cases (store : Store) (operation : Operation) (fault : WriteFault)
    (modTime : Time) :
    (store.saveOperation documents operation fault modTime =
        (store.withOperation operation modTime, .ok ()) ∧
      Persistable documents operation ∧ (fault = .completed ∨ fault = .ignored)) ∨
    (∃ message, store.saveOperation documents operation fault modTime = (store, .error message) ∧
      (¬ Persistable documents operation ∨ fault = .unwritten)) ∨
    (∃ message, store.saveOperation documents operation fault modTime =
        (store.withOperation operation modTime, .error message) ∧
      Persistable documents operation ∧ fault = .unsynced) := by
  unfold saveOperation Persistable
  cases validated : validateOperation documents operation with
  | cons message rest => exact .inr (.inl ⟨message, rfl, .inl (by simp)⟩)
  | nil =>
    by_cases tooLarge : maxOperationBytes < (documents.marshalOperation operation).length
    · simp only [if_pos tooLarge]
      exact .inr (.inl ⟨_, rfl, .inl (by simpa using tooLarge)⟩)
    have fits := Nat.not_lt.mp tooLarge
    simp only [if_neg tooLarge]
    cases fault with
    | completed => exact .inl ⟨rfl, ⟨trivial, fits⟩, .inl rfl⟩
    | ignored => exact .inl ⟨rfl, ⟨trivial, fits⟩, .inr rfl⟩
    | unwritten => exact .inr (.inl ⟨_, rfl, .inr rfl⟩)
    | unsynced => exact .inr (.inr ⟨_, rfl, ⟨trivial, fits⟩, rfl⟩)

@[simp]
theorem persistedStatus_withOperation (store : Store) (operation : Operation) (modTime : Time) :
    (store.withOperation operation modTime).persistedStatus operation.id =
      some operation.status := by
  simp [persistedStatus, withOperation]

theorem persistedStatus_withOperation_ne (store : Store) (operation : Operation) (modTime : Time)
    (different : id ≠ operation.id) :
    (store.withOperation operation modTime).persistedStatus id = store.persistedStatus id := by
  simp [persistedStatus, withOperation, AList.lookup_insert_ne different]

end Store

/-! ## Eviction -/

/-- What eviction may remove: files of inactive operations that are settled or excused. -/
structure Evicted (memory target : Memory) (store left : Store) : Prop where
  memory_eq : target = { memory with terminalErrors := target.terminalErrors }
  catalogs_eq : left.catalogs = store.catalogs
  sequences_eq : left.sequences = store.sequences
  operations : ∀ id, left.operations.lookup id = store.operations.lookup id ∨
    (left.operations.lookup id = none ∧ id ∉ memory.active ∧
      (store.persistedStatus id ≠ some .pending ∨ ¬ memory.clean id))
  errors : ∀ id, target.terminalErrors.lookup id = memory.terminalErrors.lookup id ∨
    (target.clean id ∧ left.operations.lookup id = none)

namespace Evicted

theorem refl (memory : Memory) (store : Store) : Evicted memory memory store store where
  memory_eq := rfl
  catalogs_eq := rfl
  sequences_eq := rfl
  operations := fun _ => .inl rfl
  errors := fun _ => .inl rfl

theorem trans {first second third : Memory} {one two three : Store}
    (left : Evicted first second one two) (right : Evicted second third two three) :
    Evicted first third one three where
  memory_eq := by
    rw [right.memory_eq, left.memory_eq]
  catalogs_eq := right.catalogs_eq.trans left.catalogs_eq
  sequences_eq := right.sequences_eq.trans left.sequences_eq
  operations := by
    intro id
    have sameActive : second.active = first.active := by rw [left.memory_eq]
    rcases left.operations id with same | ⟨gone, inactive, excused⟩
    · rcases right.operations id with same' | ⟨gone', inactive', excused'⟩
      · exact .inl (same'.trans same)
      · refine .inr ⟨gone', sameActive ▸ inactive', ?_⟩
        rcases excused' with settled | dirty
        · exact .inl (by simpa [Store.persistedStatus, same] using settled)
        · rcases left.errors id with sameError | ⟨clean, _⟩
          · exact .inr (by simpa [Memory.clean, sameError] using dirty)
          · exact absurd clean dirty
    · refine .inr ⟨?_, inactive, excused⟩
      rcases right.operations id with same' | ⟨gone', _⟩
      · exact same'.trans gone
      · exact gone'
  errors := by
    intro id
    rcases right.errors id with same' | cleared
    · rcases left.errors id with same | ⟨clean, gone⟩
      · exact .inl (same'.trans same)
      · refine .inr ⟨same'.trans clean, ?_⟩
        rcases right.operations id with same'' | ⟨gone'', _⟩
        · exact same''.trans gone
        · exact gone''
    · exact .inr cleared

section

variable {memory target : Memory} {store left : Store} (evicted : Evicted memory target store left)

include evicted

/-- Eviction neither adds nor removes a pending operation without terminal error. -/
theorem pending_iff {id : String} (pending : left.persistedStatus id = some .pending) :
    store.persistedStatus id = some .pending ∧
      target.terminalErrors.lookup id = memory.terminalErrors.lookup id := by
  rcases evicted.operations id with same | ⟨gone, _⟩
  · refine ⟨by simpa [Store.persistedStatus, same] using pending, ?_⟩
    rcases evicted.errors id with sameError | ⟨_, gone⟩
    · exact sameError
    · simp [Store.persistedStatus, gone] at pending
  · simp [Store.persistedStatus, gone] at pending

theorem scheduled (before : Scheduled settings memory) :
    Scheduled settings target := by
  rw [evicted.memory_eq]
  refine { before with queue_clean := ?_ }
  intro id member
  rcases evicted.errors id with same | ⟨clean, _⟩
  · exact same.trans (before.queue_clean id member)
  · exact clean

end

end Evicted

variable {memory : Memory} {store : Store}

/-- Removing one operation that may be evicted. -/
theorem removeOperation_evicted {id : String}
    {operation : Operation} {fault : Bool} (removal : Store.RemoveFault)
    (loaded : store.loadOperation documents id fault = .ok operation)
    (inactive : id ∉ memory.active)
    (evictable : ¬ (operation.status = .pending ∧ (memory.terminalErrors.lookup id).isNone)) :
    Evicted memory memory store (store.removeOperation id removal).1 ∧
      ((store.removeOperation id removal).2 = .ok () →
        (store.removeOperation id removal).1.operations.lookup id = none) := by
  obtain ⟨modTime, found, _⟩ := Store.loadOperation_ok loaded
  have excused : store.persistedStatus id ≠ some .pending ∨ ¬ memory.clean id := by
    by_cases clean : memory.clean id
    · left
      intro pending
      apply evictable
      simp_all [Store.persistedStatus, Memory.clean]
    · exact .inr clean
  have erased : ∀ left : Store, left.operations = store.operations.erase id →
      left.catalogs = store.catalogs → left.sequences = store.sequences →
      Evicted memory memory store left := by
    intro left operations catalogs sequences
    refine ⟨rfl, catalogs, sequences, ?_, fun _ => .inl rfl⟩
    intro other
    by_cases same : other = id
    · subst same
      exact .inr ⟨by rw [operations, AList.lookup_erase], inactive, excused⟩
    · exact .inl (by rw [operations, AList.lookup_erase_ne same])
  unfold Store.removeOperation
  split
  · exact ⟨.refl memory store, fun impossible => by cases impossible⟩
  · cases removal with
    | completed | ignored =>
      exact ⟨erased _ rfl rfl rfl, fun _ => AList.lookup_erase id store.operations⟩
    | operationKept => exact ⟨.refl memory store, fun impossible => by cases impossible⟩
    | requestKept | unsynced => exact ⟨erased _ rfl rfl rfl, fun impossible => by cases impossible⟩

/-- Dropping the terminal error of an operation whose file is gone. -/
theorem Evicted.dropError {id : String} (gone : store.operations.lookup id = none) :
    Evicted memory { memory with terminalErrors := memory.terminalErrors.erase id } store store where
  memory_eq := rfl
  catalogs_eq := rfl
  sequences_eq := rfl
  operations := fun _ => .inl rfl
  errors := by
    intro other
    by_cases same : other = id
    · subst same
      exact .inr ⟨AList.lookup_erase other memory.terminalErrors, gone⟩
    · exact .inl (AList.lookup_erase_ne same)

theorem evictLoop_evicted (faults : EvictionFaults) (max remaining : Nat)
    (infos : List Store.StoredOperationInfo) (memory : Memory) (store : Store) :
    Evicted memory (evictLoop documents faults max remaining infos memory store).1 store
      (evictLoop documents faults max remaining infos memory store).2.1 := by
  induction infos generalizing remaining memory store with
  | nil => exact .refl memory store
  | cons info rest ih =>
    unfold evictLoop
    split
    · exact .refl memory store
    split
    · exact ih remaining memory store
    rename_i inactive
    split
    · exact ih remaining memory store
    rename_i operation loaded
    split
    · exact ih remaining memory store
    rename_i evictable
    have removed :=
      removeOperation_evicted (faults.remove info.id) loaded inactive evictable
    split
    · rename_i left message result
      simpa [result] using removed.1
    · rename_i left _ result
      have first : Evicted memory memory store left := by simpa [result] using removed.1
      have gone : left.operations.lookup info.id = none := by
        simpa [result] using removed.2
      exact (first.trans (.dropError gone)).trans (ih _ _ left)

theorem evictOperationsLocked_evicted (memory : Memory) (store : Store) (max : Nat)
    (faults : EvictionFaults) :
    Evicted memory (evictOperationsLocked documents memory store max faults).1 store
      (evictOperationsLocked documents memory store max faults).2.1 := by
  unfold evictOperationsLocked
  split
  · exact .refl memory store
  · split
    · exact .refl memory store
    · exact evictLoop_evicted faults max _ _ memory store

/-! ## Handlers -/

/-- The operation that a call is about. -/
def Call.target (documents : Documents) : Call → Option String
  | .catalogSet request =>
    match catalogSetRequest documents request with
    | .ok (id, _, _) => some id
    | .error _ => none
  | .operation request =>
    match operationRequest request with
    | .ok id => some id
    | .error _ => none

/--
The call asks for a new generation of an operation that is not pending: a
`POST` for an operation that is not stored, failed, or completed with a result
that is no longer fresh, or a `GET` for a completed operation with such a
result.
-/
def Call.regenerates (documents : Documents) (settings : Settings) (store : Store) (now : Time)
    (faults : HandlerFaults) : Call → Bool
  | .catalogSet request =>
    match catalogSetRequest documents request with
    | .error _ => false
    | .ok (id, decoded, _) =>
      match store.loadOperation documents id faults.loadOperation with
      | .error .notExist => true
      | .error (.other _) => false
      | .ok stored =>
        stored.status ≠ .pending &&
          !(stored.status = .completed &&
            cachedResultFresh documents settings store decoded stored.result now
              faults.loadCatalog)
  | .operation request =>
    match operationRequest request with
    | .error _ => false
    | .ok id =>
      match store.loadOperation documents id faults.loadOperation,
          store.loadRequest documents id faults.loadRequest with
      | .ok stored, .ok decoded =>
        stored.status = .completed &&
          !cachedResultFresh documents settings store decoded stored.result now
            faults.loadCatalog
      | _, _ => false

/-- The operation directory holds a fresh pending record for `id`. -/
def MarkedPending (settings : Settings) (id : String) (before after : Store) : Prop :=
  ∃ modTime, after.operations =
    (before.withOperation (pendingOperation settings id) modTime).operations

/-- Everything a handler can do. -/
structure HandlerEffect (documents : Documents) (settings : Settings) (memory : Memory)
    (store : Store) (now : Time) (call : Call) (faults : HandlerFaults) (outcome : Outcome) :
    Prop where
  catalogs_eq : outcome.store.catalogs = store.catalogs
  sequences_eq : outcome.store.sequences = store.sequences
  effect : ∃ kept left, Evicted memory kept store left ∧
    -- The call is answered without a generation.
    ((outcome.memory = kept ∧ outcome.store.operations = left.operations ∧
        outcome.response.status ≠ 202) ∨
    -- The pending record is visible although its save reported an error.
    (∃ id, call.target documents = some id ∧ memory.clean id ∧
        call.regenerates documents settings store now faults = true ∧
        faults.saveOperation = .unsynced ∧ outcome.memory = kept ∧
        MarkedPending settings id left outcome.store ∧ outcome.response.status ≠ 202) ∨
    -- The generation of a pending operation is started.
    (∃ id decoded cloned operation, call.target documents = some id ∧ kept.clean id ∧
        generationCapacityAvailableLocked settings kept id = true ∧
        cloneRequest documents decoded = .ok cloned ∧
        outcome.memory = startLocked documents settings kept id decoded ∧
        ((outcome.store.operations = left.operations ∧ left.persistedStatus id = some .pending) ∨
          (call.regenerates documents settings store now faults = true ∧
            MarkedPending settings id left outcome.store)) ∧
        outcome.response.body = .operation operation ∧ operation.id = id))

/-! ### The parts of `handleCatalogSet` -/

section

variable {store other : Store} (catalogs : other.catalogs = store.catalogs)

include catalogs

theorem referencedCatalogs_congr (fault : String → Bool) (references : List CatalogReference) :
    referencedCatalogs documents settings other fault references =
      referencedCatalogs documents settings store fault references := by
  induction references with
  | nil => rfl
  | cons reference rest ih => simp only [referencedCatalogs, Store.loadCatalog, catalogs, ih]

/-- Freshness of a result only depends on the catalog directory. -/
theorem cachedResultFresh_congr
    (request : Request) (result : Option CatalogSetResult) (now : Time) (fault : String → Bool) :
    cachedResultFresh documents settings other request result now fault =
      cachedResultFresh documents settings store request result now fault := by
  simp only [cachedResultFresh, referencedCatalogs_congr catalogs]

end

variable {memory kept : Memory} {store left : Store}

theorem generationCapacity_evicted (evicted : Evicted memory kept store left) (id : String) :
    generationCapacityAvailableLocked settings kept id =
      generationCapacityAvailableLocked settings memory id := by
  rw [evicted.memory_eq]
  rfl

theorem Evicted.clean
    (evicted : Evicted memory kept store left) {id : String} (clean : memory.clean id) :
    kept.clean id := by
  rcases evicted.errors id with same | ⟨cleared, _⟩
  · exact same.trans clean
  · exact cleared

/-- `reserveOperationLocked` only evicts, and succeeds only with capacity. -/
theorem reserveOperationLocked_spec (memory : Memory) (store : Store) (id : String)
    (faults : HandlerFaults) :
    (∀ outcome, reserveOperationLocked documents settings memory store id faults = .error outcome →
      Evicted memory outcome.memory store outcome.store ∧ outcome.response.status ≠ 202) ∧
    (∀ kept left, reserveOperationLocked documents settings memory store id faults =
        .ok (kept, left) →
      Evicted memory kept store left ∧
        generationCapacityAvailableLocked settings kept id = true) := by
  have evicted : ∀ {kept : Memory} {left : Store} {result : Except String Unit},
      evictOperationsLocked documents memory store (settings.maxStoredOperations - 1)
        faults.eviction = (kept, left, result) → Evicted memory kept store left := by
    intro kept left result happened
    have evicted := @evictOperationsLocked_evicted documents memory store
      (settings.maxStoredOperations - 1) faults.eviction
    rwa [happened] at evicted
  unfold reserveOperationLocked
  refine ⟨fun outcome refused => ?_, fun kept left reserved => ?_⟩
  · repeat' split at refused
    all_goals cases refused
    · exact ⟨.refl memory store, by simp [unavailable, writeHTTPFailure]⟩
    all_goals exact ⟨evicted ‹_›, by simp [unavailable, writeHTTPFailure]⟩
  · split at reserved
    · cases reserved
    rename_i capacity
    repeat' split at reserved
    all_goals cases reserved
    exact ⟨evicted ‹_›, (generationCapacity_evicted (evicted ‹_›) id).trans (by simpa using capacity)⟩

section Effects

variable {memory kept : Memory} {store left : Store} {now : Time} {call : Call}
  {faults : HandlerFaults}

/-- A call that is answered after eviction, without a generation. -/
theorem HandlerEffect.answered {outcome : Outcome} (evicted : Evicted memory kept store left)
    (memory_eq : outcome.memory = kept) (operations_eq : outcome.store.operations = left.operations)
    (catalogs_eq : outcome.store.catalogs = left.catalogs)
    (sequences_eq : outcome.store.sequences = left.sequences)
    (status : outcome.response.status ≠ 202) :
    HandlerEffect documents settings memory store now call faults outcome where
  catalogs_eq := catalogs_eq.trans evicted.catalogs_eq
  sequences_eq := sequences_eq.trans evicted.sequences_eq
  effect := ⟨kept, left, evicted, .inl ⟨memory_eq, operations_eq, status⟩⟩

variable {current : Store}

/-- A call that is answered after its request has been written or refused. -/
theorem HandlerEffect.answeredAfterPut {response : Response}
    (evicted : Evicted memory kept store left)
    (put_eq : ∃ requests, current = { left with requests }) (status : response.status ≠ 202) :
    HandlerEffect documents settings memory store now call faults
      { memory := kept, store := current, response } := by
  obtain ⟨requests, rfl⟩ := put_eq
  exact .answered evicted rfl rfl rfl rfl status

/-- The common end of admission: save a pending record and start its generation. -/
theorem markPendingLocked_effect {id : String} {decoded cloned : Request}
    (evicted : Evicted memory kept store left) (target : call.target documents = some id)
    (clean : memory.clean id)
    (regenerates : call.regenerates documents settings store now faults = true)
    (capacity : generationCapacityAvailableLocked settings kept id = true)
    (clone : cloneRequest documents decoded = .ok cloned)
    (put_eq : ∃ requests, current = { left with requests }) :
    HandlerEffect documents settings memory store now call faults
      (markPendingLocked documents settings kept current id decoded faults) := by
  obtain ⟨requests, rfl⟩ := put_eq
  unfold markPendingLocked
  rcases @Store.saveOperation_cases documents { left with requests } (pendingOperation settings id)
    faults.saveOperation faults.modTime with
    ⟨saved, _, _⟩ | ⟨message, failed, _⟩ | ⟨message, failed, _, unsynced⟩
  · simp only [saved]
    exact
      { catalogs_eq := evicted.catalogs_eq
        sequences_eq := evicted.sequences_eq
        effect := ⟨kept, left, evicted, .inr (.inr
          ⟨id, decoded, cloned, pendingOperation settings id, target, evicted.clean clean, capacity,
            clone, rfl, .inr ⟨regenerates, faults.modTime, rfl⟩, rfl, rfl⟩)⟩ }
  · simp only [failed]
    exact .answered evicted rfl rfl rfl rfl (by simp [unavailable, writeHTTPFailure])
  · simp only [failed]
    exact
      { catalogs_eq := evicted.catalogs_eq
        sequences_eq := evicted.sequences_eq
        effect := ⟨kept, left, evicted, .inr (.inl
          ⟨id, target, clean, regenerates, unsynced, rfl, ⟨faults.modTime, rfl⟩,
            by simp [unavailable, writeHTTPFailure]⟩)⟩ }

end Effects

/-! ### Whole handlers -/

variable {request : PostRequest} {id : String}

theorem catalogSetLocked_effect {decoded : Request} {canonical : Bytes}
    (parsed : catalogSetRequest documents request = .ok (id, decoded, canonical))
    (memory : Memory) (store : Store) (now : Time) (faults : HandlerFaults) :
    HandlerEffect documents settings memory store now (.catalogSet request) faults
      (catalogSetLocked documents settings memory store now id decoded canonical faults) := by
  have target : (Call.catalogSet request).target documents = some id := by
    simp [Call.target, parsed]
  have failed : ∀ (status : Nat) (message : String), status ≠ 202 →
      (unavailable status message).status ≠ 202 := fun _ _ different => different
  have put_eq : ∀ {left current : Store} {result : Except String Unit},
      left.putRequest documents id canonical faults.putRequest = (current, result) →
      ∃ requests, current = { left with requests } := by
    intro left current result put
    have spec := (@Store.putRequest_spec documents left id canonical faults.putRequest).1
    rw [put] at spec
    exact ⟨_, spec⟩
  have cloned : ∀ {left current : Store} {done : Unit},
      left.putRequest documents id canonical faults.putRequest = (current, .ok done) →
      ∃ again, cloneRequest documents decoded = .ok again := by
    intro left current done put
    obtain ⟨again, decodable⟩ :=
      (@Store.putRequest_spec documents left id canonical faults.putRequest).2 (by rw [put])
    dsimp only [catalogSetRequest] at parsed
    repeat' split at parsed
    all_goals cases parsed
    rename_i isCanonical
    exact ⟨again, by simp [cloneRequest, isCanonical, decodable]⟩
  dsimp only [catalogSetLocked]
  split
  · exact .answered (.refl memory store) rfl rfl rfl rfl (failed 500 _ (by decide))
  rename_i terminal
  have clean : memory.clean id := by simpa [Memory.clean] using terminal
  split
  · rename_i loaded
    have regenerates : (Call.catalogSet request).regenerates documents settings store now
        faults = true := by
      simp [Call.regenerates, parsed, loaded]
    obtain ⟨onError, onSuccess⟩ :=
      @reserveOperationLocked_spec documents settings memory store id faults
    split
    · obtain ⟨evicted, status⟩ := onError _ ‹_›
      exact .answered evicted rfl rfl rfl rfl status
    obtain ⟨evicted, capacity⟩ := onSuccess _ _ ‹_›
    split
    · exact .answeredAfterPut evicted (put_eq ‹_›) (failed 500 _ (by decide))
    rename_i put
    obtain ⟨again, clone⟩ := cloned put
    exact markPendingLocked_effect evicted target clean regenerates capacity clone (put_eq put)
  · split
    all_goals exact .answeredAfterPut (.refl memory store) (put_eq ‹_›) (failed 500 _ (by decide))
  · rename_i operation loaded
    obtain ⟨modTime, found, sameID⟩ := Store.loadOperation_ok loaded
    split
    · exact .answeredAfterPut (.refl memory store) (put_eq ‹_›) (failed 500 _ (by decide))
    rename_i put
    obtain ⟨again, clone⟩ := cloned put
    obtain ⟨requests, rfl⟩ := put_eq put
    simp only [@cachedResultFresh_congr documents settings store { store with requests } rfl]
    split
    · exact .answered (.refl memory store) rfl rfl rfl rfl (by simp)
    rename_i stale
    split
    · exact .answered (.refl memory store) rfl rfl rfl rfl (failed 503 _ (by decide))
    rename_i admitted
    have capacity : generationCapacityAvailableLocked settings memory id = true := by
      simpa using admitted
    split
    · rename_i settled
      have regenerates : (Call.catalogSet request).regenerates documents settings
          store now faults = true := by
        simp only [Call.regenerates, parsed, loaded]
        rw [Bool.and_eq_true, Bool.not_eq_true']
        exact ⟨decide_eq_true settled,
          Bool.eq_false_iff.mpr fun both => stale (by simpa using both)⟩
      exact markPendingLocked_effect (.refl memory store) target clean regenerates capacity
        clone ⟨requests, rfl⟩
    · rename_i waiting
      have pending : operation.status = .pending := by simpa using waiting
      exact
        { catalogs_eq := rfl
          sequences_eq := rfl
          effect := ⟨memory, store, .refl memory store, .inr (.inr
            ⟨id, decoded, again, operation, target, clean, capacity, clone, rfl,
              .inl ⟨rfl, by simp [Store.persistedStatus, found, pending]⟩,
              rfl, sameID⟩)⟩ }

variable {response : Response}

theorem status_of_catalogSetRequest_error
    (refused : catalogSetRequest documents request = .error response) :
    response.status ≠ 202 := by
  have fixed : ∀ (status : Nat) (code : FailureCode) (message : String),
      (writeHTTPFailure status code message).status = status := fun _ _ _ => rfl
  dsimp only [catalogSetRequest] at refused
  repeat' split at refused
  all_goals cases refused
  all_goals simp [fixed]

variable {request : GetRequest}

theorem status_of_operationRequest_error (refused : operationRequest request = .error response) :
    response.status ≠ 202 := by
  dsimp only [operationRequest] at refused
  split at refused
  · cases refused
    simp [writeHTTPFailure]
  · split at refused
    · cases refused
      simp [unavailable, writeHTTPFailure]
    · cases refused

variable {faults : HandlerFaults} {memory : Memory}

theorem answerOperationLocked_effect {store current : Store} {now : Time}
    {call : Call} {decoded cloned : Request}
    {operation : Operation} (target : call.target documents = some id) (clean : memory.clean id)
    (clone : cloneRequest documents decoded = .ok cloned) (sameID : operation.id = id)
    (catalogs : current.catalogs = store.catalogs) (sequences : current.sequences = store.sequences)
    (origin : current.operations = store.operations ∧
        (operation.status = .pending → store.persistedStatus id = some .pending) ∨
      (generationCapacityAvailableLocked settings memory id = true ∧
        call.regenerates documents settings store now faults = true ∧
        operation.status = .pending ∧ MarkedPending settings id store current)) :
    HandlerEffect documents settings memory store now call faults
      (answerOperationLocked documents settings memory current id decoded operation) := by
  unfold answerOperationLocked
  by_cases pending : operation.status = .pending
  · rw [if_pos pending]
    by_cases capacity : generationCapacityAvailableLocked settings memory id = true
    · rw [if_neg (by simp [capacity])]
      have marked : (current.operations = store.operations ∧
            store.persistedStatus id = some .pending) ∨
          (call.regenerates documents settings store now faults = true ∧
            MarkedPending settings id store current) := by
        rcases origin with ⟨same, waiting⟩ | ⟨_, regenerates, _, marked⟩
        · exact .inl ⟨same, waiting pending⟩
        · exact .inr ⟨regenerates, marked⟩
      exact
        { catalogs_eq := catalogs
          sequences_eq := sequences
          effect := ⟨memory, store, .refl memory store, .inr (.inr
            ⟨id, decoded, cloned, operation, target, clean, capacity, clone, rfl, marked, rfl,
              sameID⟩)⟩ }
    · rw [if_pos (by simp [capacity])]
      have operations : current.operations = store.operations := by
        rcases origin with ⟨same, _⟩ | ⟨available, _⟩
        · exact same
        · exact absurd available capacity
      exact .answered (.refl memory store) rfl operations catalogs sequences
        (by simp [unavailable, writeHTTPFailure])
  · rw [if_neg pending]
    have operations : current.operations = store.operations := by
      rcases origin with ⟨same, _⟩ | ⟨_, _, isPending, _⟩
      · exact same
      · exact absurd isPending pending
    exact .answered (.refl memory store) rfl operations catalogs sequences
      (by simp [operationResponse])

theorem operationLocked_effect (parsed : operationRequest request = .ok id)
    (memory : Memory) (store : Store) (now : Time) (faults : HandlerFaults) :
    HandlerEffect documents settings memory store now (.operation request) faults
      (operationLocked documents settings memory store now id faults) := by
  have target : (Call.operation request).target documents = some id := by
    simp [Call.target, parsed]
  have refused : ∀ (status : Nat) (message : String), status ≠ 202 →
      HandlerEffect documents settings memory store now (.operation request) faults
        { memory, store, response := unavailable status message } :=
    fun status message different => .answered (.refl memory store) rfl rfl rfl rfl different
  dsimp only [operationLocked]
  by_cases terminal : (memory.terminalErrors.lookup id).isSome
  · rw [if_pos terminal]
    exact refused 500 _ (by decide)
  have clean : memory.clean id := by simpa [Memory.clean] using terminal
  rw [if_neg terminal]
  cases loaded : store.loadOperation documents id faults.loadOperation with
  | error failure =>
    cases failure with
    | notExist => exact refused 404 _ (by decide)
    | other message => exact refused 500 _ (by decide)
  | ok operation =>
    obtain ⟨modTime, found, sameID⟩ := Store.loadOperation_ok loaded
    cases requested : store.loadRequest documents id faults.loadRequest with
    | error failure => exact refused 500 _ (by decide)
    | ok decoded =>
      have clone := Store.cloneRequest_of_loadRequest requested
      dsimp only
      split
      · exact refused 500 _ (by decide)
      split
      · rename_i stale
        have regenerates : (Call.operation request).regenerates documents settings store now
            faults = true := by
          simp only [Call.regenerates, parsed, loaded, requested]
          rw [Bool.and_eq_true]
          exact ⟨decide_eq_true stale.1, stale.2⟩
        split
        · exact refused 503 _ (by decide)
        rename_i admitted
        have capacity : generationCapacityAvailableLocked settings memory id = true := by
          simpa using admitted
        rcases @Store.saveOperation_cases documents store (pendingOperation settings id)
          faults.saveOperation faults.modTime with
          ⟨saved, _, _⟩ | ⟨message, failed, _⟩ | ⟨message, failed, _, unsynced⟩
        · simp only [saved]
          exact answerOperationLocked_effect target clean clone rfl rfl rfl
            (.inr ⟨capacity, regenerates, rfl, ⟨faults.modTime, rfl⟩⟩)
        · simp only [failed]
          exact refused 500 _ (by decide)
        · simp only [failed]
          exact
            { catalogs_eq := rfl
              sequences_eq := rfl
              effect := ⟨memory, store, .refl memory store, .inr (.inl
                ⟨id, target, clean, regenerates, unsynced, rfl, ⟨faults.modTime, rfl⟩,
                  by simp [unavailable, writeHTTPFailure]⟩)⟩ }
      · refine answerOperationLocked_effect target clean clone sameID rfl rfl
          (.inl ⟨rfl, fun pending => ?_⟩)
        simp [Store.persistedStatus, found, pending]

/-- Everything a handler can do, from the request to its answer. -/
theorem handleCall_effect (memory : Memory) (store : Store) (now : Time) (call : Call)
    (faults : HandlerFaults) :
    HandlerEffect documents settings memory store now call faults
      (handleCall documents settings memory store now call faults) := by
  cases call with
  | catalogSet request =>
    dsimp only [handleCall]
    cases parsed : catalogSetRequest documents request with
    | error response =>
      exact .answered (.refl memory store) rfl rfl rfl rfl
        (status_of_catalogSetRequest_error parsed)
    | ok values =>
      obtain ⟨id, decoded, canonical⟩ := values
      exact catalogSetLocked_effect parsed memory store now faults
  | operation request =>
    dsimp only [handleCall]
    cases parsed : operationRequest request with
    | error response =>
      exact .answered (.refl memory store) rfl rfl rfl rfl
        (status_of_operationRequest_error parsed)
    | ok id => exact operationLocked_effect parsed memory store now faults

theorem handled_effect {store : Store} {now : Time} {call : Call} {outcome : Outcome}
    (handled : outcome = handleCall documents settings memory store now call faults) :
    HandlerEffect documents settings memory store now call faults outcome :=
  handled ▸ handleCall_effect memory store now call faults

/-! ## Publication and collection -/

/-- `nextSequence` only touches the sequence directory. -/
theorem Store.nextSequence_frame {store left : Store} {tap : TapID} {identity : String}
    {fault : Store.SequenceFault} {result : Except String UInt64}
    (advanced : store.nextSequence tap identity fault = (left, result)) :
    left = { store with sequences := left.sequences } := by
  have advance : ∀ current, (store.advanceSequence tap identity current fault).1 = { store with
        sequences := (store.advanceSequence tap identity current fault).1.sequences } := by
    intro current
    unfold Store.advanceSequence
    split
    · rfl
    · cases fault <;> rfl
  obtain rfl : (store.nextSequence tap identity fault).1 = left := by rw [advanced]
  unfold Store.nextSequence
  repeat' split
  all_goals first | rfl | exact advance _

/-- The store with one catalog document added. -/
def Store.withCatalog (documents : Documents) (store : Store) (data : Bytes) (modTime : Time) :
    Store :=
  { store with
    catalogs := store.catalogs.insert (encoded (documents.fromBytes data)) { data, modTime } }

section

variable {store left : Store} {data : Bytes} {fault : WriteFault} {modTime : Time}
  {result : Except String String}
  (put : store.putCatalog documents data fault modTime = (left, result))

include put

/-- Everything `putCatalog` can do: find the document, add it, or fail with either. -/
theorem Store.putCatalog_cases :
    (∀ digest, result = .ok digest → digest = documents.fromBytes data) ∧
    ((left = store ∧ ∀ digest, result = .ok digest →
        ∃ file, store.catalogs.lookup (encoded digest) = some file ∧ file.data = data) ∨
      (left = store.withCatalog documents data modTime ∧
        store.catalogs.lookup (encoded (documents.fromBytes data)) = none)) := by
  dsimp only [Store.putCatalog] at put
  iterate 3
    split at put
    · cases put
      exact ⟨nofun, .inl ⟨rfl, nofun⟩⟩
  split at put
  · rename_i existing found
    repeat' split at put
    all_goals cases put
    · exact ⟨nofun, .inl ⟨rfl, nofun⟩⟩
    · rename_i same
      refine ⟨fun digest isDigest => (Except.ok.inj isDigest).symm, .inl ⟨rfl, ?_⟩⟩
      rintro digest ⟨⟩
      exact ⟨existing, found, same⟩
    · exact ⟨nofun, .inl ⟨rfl, nofun⟩⟩
  · rename_i missing
    cases fault with
    | completed | ignored =>
      cases put
      exact ⟨fun digest isDigest => (Except.ok.inj isDigest).symm, .inr ⟨rfl, missing⟩⟩
    | unwritten =>
      cases put
      exact ⟨nofun, .inl ⟨rfl, nofun⟩⟩
    | unsynced =>
      cases put
      exact ⟨nofun, .inr ⟨rfl, missing⟩⟩

/-- `putCatalog` only touches the catalog directory. -/
theorem Store.putCatalog_frame :
    left = { store with catalogs := left.catalogs } := by
  rcases (Store.putCatalog_cases put).2 with ⟨rfl, _⟩ | ⟨rfl, _⟩
  · rfl
  · rfl

end

theorem removeCatalogEntry_frame {store left : Store} {referenced : List String} {now : Time}
    {name : String} {fault : EntryFault} {result : Except String Unit}
    (removed : removeCatalogEntry settings store referenced now name fault = (left, result)) :
    left = { store with catalogs := left.catalogs } := by
  obtain rfl : (removeCatalogEntry settings store referenced now name fault).1 = left := by
    rw [removed]
  unfold removeCatalogEntry
  repeat' split
  all_goals rfl

end DalecHomebrew.CatalogService
