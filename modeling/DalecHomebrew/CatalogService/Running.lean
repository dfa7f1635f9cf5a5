import DalecHomebrew.CatalogService.Handlers

/-!
# The scheduler invariant in every run

Every step of the machine keeps `Scheduled`, and a service that starts has a
generation for every pending record.  The lemmas about stages, about
`finishOperation` and about `resumePending` are what the later modules need to
know about a step besides the scheduler invariant.
-/

namespace DalecHomebrew.CatalogService

open Catalog Foundation

variable {stage : Stage} {modTime now : Time} {memory : Memory} {store : Store}
  {documents : Documents} {settings : Settings}

/-! ## Stages -/

/-- A generation before `finishOperation`, about to finish only its own operation. -/
structure Stage.Underway (id : String) (stage : Stage) : Prop where
  unsettled : stage.settled = false
  own : ∀ operation, stage = .finishing operation → operation.id = id ∧ operation.status ≠ .pending

theorem underway_failed (id : String) (failure : Failure) :
    Stage.Underway id (.finishing (failedOperation id failure)) := by
  refine ⟨rfl, ?_⟩
  rintro operation ⟨⟩
  exact ⟨rfl, by simp [failedOperation]⟩

theorem afterGenerator_cases (cancelled : Bool) (id : String) (request : Request)
    (outcome : GeneratorOutcome) :
    (cancelled = true ∧ afterGenerator documents cancelled id request outcome = .finished) ∨
      Stage.Underway id (afterGenerator documents cancelled id request outcome) := by
  unfold afterGenerator
  split
  · exact .inr (underway_failed id _)
  split
  · rename_i isCancelled
    exact .inl ⟨isCancelled, rfl⟩
  right
  split
  · exact underway_failed id _
  · exact underway_failed id _
  · exact underway_failed id _
  · exact underway_failed id _
  · split
    · exact underway_failed id _
    · split
      · exact underway_failed id _
      · refine ⟨rfl, ?_⟩
        rintro operation ⟨⟩

theorem underway_beginPublication (id : String) (set : GeneratedSet) (requestDigest : String)
    (now : Time) :
    Stage.Underway id (beginPublication id set requestDigest now) := by
  unfold beginPublication
  split
  · exact underway_failed id _
  · exact ⟨rfl, nofun⟩

variable {request : Request} {publication : Publication}

section

variable {store left : Store} {id : String} {fault : Store.SequenceFault}
  (result : assignSequence documents settings store id request publication fault = (left, stage))

include result

/-- Everything the first loop of `publishGenerated` can do in one iteration. -/
theorem assignSequence_cases :
    (∃ failure, stage = .finishing (failedOperation id failure) ∧
      (left = store ∨ ∃ tap identity allocation,
        store.nextSequence tap identity fault = (left, allocation))) ∨
    (publication.remaining = [] ∧ left = store ∧
      stage = .storing (publicationPayload settings request publication) publication.staged) ∨
    (∃ document rest sequence canonical, publication.remaining = document :: rest ∧
      store.nextSequence document.tap.id (sourceIdentity documents document.tap) fault =
        (left, .ok sequence) ∧
      documents.canonicalTapCatalog
        { document with publishedAt := publication.publishedAt, sequence } = .ok canonical ∧
      stage = .sequencing
        { publication with
          remaining := rest
          staged := publication.staged ++ [{
            tap := document.tap.id, data := canonical, digest := documents.fromBytes canonical }]
          references := publication.references ++ [catalogReference documents settings
              { document with publishedAt := publication.publishedAt, sequence } canonical] }) := by
  unfold assignSequence at result
  split at result
  · rename_i remaining
    dsimp only at result
    split at result
    · cases result
      exact .inl ⟨_, rfl, .inl rfl⟩
    · cases result
      exact .inr (.inl ⟨remaining, rfl, rfl⟩)
  · rename_i document rest remaining
    split at result
    · rename_i allocated
      cases result
      exact .inl ⟨_, rfl, .inr ⟨_, _, _, allocated⟩⟩
    rename_i sequence allocated
    dsimp only at result
    split at result
    · cases result
      exact .inl ⟨_, rfl, .inr ⟨_, _, _, allocated⟩⟩
    · rename_i canonical isCanonical
      cases result
      exact .inr (.inr
        ⟨document, rest, sequence, canonical, remaining, allocated, isCanonical, rfl⟩)

theorem underway_assignSequence :
    Stage.Underway id stage := by
  rcases assignSequence_cases result with ⟨failure, rfl, _⟩ | ⟨_, _, rfl⟩ |
    ⟨document, rest, sequence, canonical, _, _, _, rfl⟩
  · exact underway_failed id failure
  · exact ⟨rfl, nofun⟩
  · exact ⟨rfl, nofun⟩

theorem assignSequence_frame :
    left = { store with sequences := left.sequences } := by
  rcases assignSequence_cases result with ⟨failure, _, rfl | ⟨_, _, _, allocated⟩⟩ | ⟨_, rfl, _⟩ |
    ⟨document, rest, sequence, canonical, _, allocated, _⟩
  · rfl
  · exact Store.nextSequence_frame allocated
  · rfl
  · exact Store.nextSequence_frame allocated

end

variable {payload : CatalogSetPayload} {item : StagedCatalog} {rest : List StagedCatalog}

section

variable {store left : Store} {id : String} {fault : WriteFault}
  (result : writeCatalog documents store id payload item rest fault modTime = (left, stage))

include result

/-- Everything the second loop of `publishGenerated` can do in one iteration. -/
theorem writeCatalog_cases :
    (∃ failure outcome, stage = .finishing (failedOperation id failure) ∧
      store.putCatalog documents item.data fault modTime = (left, outcome)) ∨
    (stage = .storing payload rest ∧
      store.putCatalog documents item.data fault modTime = (left, .ok item.digest)) := by
  unfold writeCatalog at result
  split at result
  · rename_i put
    cases result
    exact .inl ⟨_, _, rfl, put⟩
  rename_i persisted put
  split at result
  · cases result
    exact .inl ⟨_, _, rfl, put⟩
  · rename_i same
    cases result
    exact .inr ⟨rfl, by rw [put, not_not.mp same]⟩

theorem writeCatalog_frame :
    left = { store with catalogs := left.catalogs } := by
  rcases writeCatalog_cases result with ⟨_, _, _, put⟩ | ⟨_, put⟩
  · exact Store.putCatalog_frame put
  · exact Store.putCatalog_frame put

theorem underway_writeCatalog :
    Stage.Underway id stage := by
  rcases writeCatalog_cases result with ⟨failure, _, rfl, _⟩ | ⟨rfl, _⟩
  · exact underway_failed id failure
  · exact ⟨rfl, nofun⟩

end

theorem underway_afterSignature (id : String) (payload : CatalogSetPayload) (envelope : Bytes) :
    Stage.Underway id (afterSignature documents id payload envelope) := by
  unfold afterSignature
  split
  · exact underway_failed id _
  dsimp only
  split
  · refine ⟨rfl, ?_⟩
    rintro operation ⟨⟩
    exact ⟨rfl, by simp [completedOperation]⟩
  · exact underway_failed id _

variable {operation : Operation} {collection : CollectionFaults}

section

variable {memory kept : Memory} {store left : Store} {fault : WriteFault}
  (result : finishWorker documents settings memory store now operation fault modTime collection =
    (kept, left, stage))

include result

/-- What `finishOperation` does to memory, store and stage. -/
theorem finishWorker_cases :
    stage.settled = true ∧ left = (store.saveOperation documents operation fault modTime).1 ∧
    ((kept = { memory with terminalErrors := memory.terminalErrors.erase operation.id } ∧
        left = store.withOperation operation modTime) ∨
      (∃ message,
        kept = { memory with terminalErrors := memory.terminalErrors.insert operation.id message } ∧
        stage = .finished ∧
        ((left = store ∧ (¬ Store.Persistable documents operation ∨ fault = .unwritten)) ∨
          left = store.withOperation operation modTime))) := by
  unfold finishWorker finishOperationLocked at result
  rcases @Store.saveOperation_cases documents store operation fault modTime with
    ⟨saved, _, _⟩ | ⟨message, failed, why⟩ | ⟨message, failed, _, _⟩
  · simp only [saved] at result
    split at result
    · split at result
      · cases result
        exact ⟨rfl, by rw [saved], .inl ⟨rfl, rfl⟩⟩
      · cases result
        exact ⟨rfl, by rw [saved], .inl ⟨rfl, rfl⟩⟩
    · cases result
      exact ⟨rfl, by rw [saved], .inl ⟨rfl, rfl⟩⟩
  · simp only [failed] at result
    cases result
    exact ⟨rfl, by rw [failed], .inr ⟨message, rfl, rfl, .inl ⟨rfl, why⟩⟩⟩
  · simp only [failed] at result
    cases result
    exact ⟨rfl, by rw [failed], .inr ⟨message, rfl, rfl, .inr rfl⟩⟩

/-- `finishOperation` only touches its record and its terminal error. -/
theorem finishWorker_frame :
    (∃ errors, kept = { memory with terminalErrors := errors } ∧
      ∀ other, other ≠ operation.id → errors.lookup other = memory.terminalErrors.lookup other) ∧
    (left = store ∨ left = store.withOperation operation modTime) ∧
    left = { store with operations := left.operations } := by
  obtain ⟨_, _, ⟨rfl, rfl⟩ | ⟨message, rfl, _, ⟨rfl, _⟩ | rfl⟩⟩ := finishWorker_cases result
  · exact ⟨⟨_, rfl, fun _ => AList.lookup_erase_ne⟩, .inr rfl, rfl⟩
  · exact ⟨⟨_, rfl, fun _ => AList.lookup_insert_ne⟩, .inl rfl, rfl⟩
  · exact ⟨⟨_, rfl, fun _ => AList.lookup_insert_ne⟩, .inr rfl, rfl⟩

end

/-- The scheduler invariant of whatever process is running. -/
def Running (settings : Settings) (state : State) : Prop :=
  ∀ memory, state.process = some memory → Scheduled settings memory

section Fields

variable {memory : Memory} (scheduled : Scheduled settings memory)

include scheduled

theorem Scheduled.withHandlers (handlers : List Call) :
    Scheduled settings { memory with handlers } :=
  { scheduled with busy := scheduled.busy }

theorem Scheduled.close : Scheduled settings { memory with closed := true } :=
  { scheduled with busy := fun opened => absurd opened (by simp) }

theorem Scheduled.cancel : Scheduled settings { memory with cancelled := true } :=
  { scheduled with busy := scheduled.busy }

/-- The terminal error of an active generation may be set or cleared. -/
theorem Scheduled.withErrors {id : String} {terminalErrors : Table String String}
    (active : id ∈ memory.active)
    (same : ∀ other, other ≠ id →
      terminalErrors.lookup other = memory.terminalErrors.lookup other) :
    Scheduled settings { memory with terminalErrors } := by
  refine { scheduled with queue_clean := ?_ }
  intro other queued
  have different : other ≠ id := by
    rintro rfl
    exact scheduled.disjoint other active queued
  exact (same other different).trans (scheduled.queue_clean other queued)

/-- `finishOperation` keeps the scheduler invariant. -/
theorem Scheduled.finishWorker {index : Nat} {worker : Worker}
    {store left : Store} {fault : WriteFault} {kept : Memory}
    (found : memory.workers[index]? = some worker) (at_stage : worker.stage = .finishing operation)
    (result : finishWorker documents settings memory store now operation fault modTime collection =
      (kept, left, stage)) :
    Scheduled settings (kept.withStage index worker stage) := by
  obtain ⟨own, _⟩ :=
    scheduled.finishing worker (List.mem_of_getElem? found) operation at_stage
  have active : operation.id ∈ memory.active := own ▸ scheduled.worker_active found
  obtain ⟨settled, _⟩ := finishWorker_cases result
  obtain ⟨⟨errors, rfl, same⟩, _⟩ := finishWorker_frame result
  refine (scheduled.withErrors active same).withStage found stage ?_
  rintro finishing rfl
  cases settled

end Fields

section

variable {call : Call} {faults : HandlerFaults} {outcome : Outcome}
  (handled : HandlerEffect documents settings memory store now call faults outcome)

include handled

/-- What a handler leaves of the scheduler invariant. -/
theorem HandlerEffect.scheduled (before : Scheduled settings memory) :
    Scheduled settings outcome.memory := by
  obtain ⟨kept, left, evicted, effect⟩ := handled.effect
  have keptScheduled := evicted.scheduled before
  rcases effect with ⟨same, _⟩ | ⟨id, _, _, _, _, same, _⟩ |
    ⟨id, decoded, cloned, operation, _, _, _, _, started, _⟩
  · exact same ▸ keptScheduled
  · exact same ▸ keptScheduled
  · rw [started]
    exact keptScheduled.startLocked id decoded

/-- A handler adds at most one goroutine, which is about to call the generator, and
neither closes nor reopens the service. -/
theorem HandlerEffect.workers :
    outcome.memory.closed = memory.closed ∧
      ∃ fresh, outcome.memory.workers = memory.workers ++ fresh ∧
        ∀ worker ∈ fresh, worker.stage = .generating := by
  obtain ⟨kept, left, evicted, effect⟩ := handled.effect
  have same : kept.closed = memory.closed ∧ kept.workers = memory.workers := by
    rw [evicted.memory_eq]
    exact ⟨rfl, rfl⟩
  rw [← same.1, ← same.2]
  rcases effect with ⟨rfl, _⟩ | ⟨id, _, _, _, _, rfl, _⟩ |
    ⟨id, decoded, cloned, operation, _, _, _, _, started, _⟩
  · exact ⟨rfl, [], by simp, by simp⟩
  · exact ⟨rfl, [], by simp, by simp⟩
  · have effect := @started_startLocked documents settings kept id decoded
    rw [started]
    exact ⟨effect.closed, effect.workers⟩

end

/-! ## Restart -/

theorem Store.mem_keys_of_persistedStatus {id : String} {status : OperationStatus}
    (persisted : store.persistedStatus id = some status) :
    id ∈ store.operations.keys := by
  obtain ⟨file, found, _⟩ := Option.map_eq_some_iff.mp persisted
  rw [← AList.mem_keys, ← AList.lookup_isSome, found]
  rfl

theorem Store.listOperations_ok {fault : Bool} {ids : List String}
    (listed : store.listOperations fault = .ok ids) :
    ids = fileNames store.operations := by
  unfold Store.listOperations at listed
  split at listed
  · cases listed
  · split at listed
    · cases listed
    · cases listed
      rfl

variable {faults : ResumeFaults} {pending : List (String × Request)}

/-- One iteration of the loop of `resumePending` that does not fail. -/
theorem pendingRequests_cons_ok {id : String} {rest : List String}
    (collected : pendingRequests documents store faults (id :: rest) = .ok pending) :
    ∃ operation request later,
      store.loadOperation documents id (faults.loadOperation id) = .ok operation ∧
      store.loadRequest documents id (faults.loadRequest id) = .ok request ∧
      pendingRequests documents store faults rest = .ok later ∧
      pending = if operation.status = .pending then (id, request) :: later else later := by
  unfold pendingRequests at collected
  iterate 4
    split at collected
    · cases collected
  cases collected
  rename_i operation loaded _ request requested _ _ later isLater
  exact ⟨operation, request, later, loaded, requested, isLater, rfl⟩

/-- What the loop of `resumePending` collects. -/
theorem pendingRequests_ok {ids : List String}
    (collected : pendingRequests documents store faults ids = .ok pending) :
    (pending.map Prod.fst).Sublist ids ∧
    (∀ item ∈ pending, store.persistedStatus item.1 = some .pending ∧
      (∃ cloned, cloneRequest documents item.2 = .ok cloned) ∧
      ∃ data, store.requests.lookup item.1 = some data) ∧
    (∀ id ∈ ids, store.persistedStatus id = some .pending → id ∈ pending.map Prod.fst) := by
  induction ids generalizing pending with
  | nil =>
    cases collected
    simp
  | cons id rest ih =>
    obtain ⟨operation, request, later, loaded, requested, isLater, rfl⟩ :=
      pendingRequests_cons_ok collected
    obtain ⟨modTime, found, _⟩ := Store.loadOperation_ok loaded
    have status : store.persistedStatus id = some operation.status := by
      simp [Store.persistedStatus, found]
    obtain ⟨sublist, sound, complete⟩ := ih isLater
    by_cases isPending : operation.status = .pending
    · rw [if_pos isPending]
      refine ⟨sublist.cons_cons id, ?_, ?_⟩
      · intro item member
        rcases List.mem_cons.mp member with rfl | old
        · obtain ⟨data, stored, _⟩ := Store.loadRequest_ok requested
          exact ⟨by rw [status, isPending], ⟨request, Store.cloneRequest_of_loadRequest requested⟩,
            data, stored⟩
        · exact sound item old
      · intro other member waits
        rcases List.mem_cons.mp member with rfl | old
        · simp
        · exact List.mem_cons_of_mem _ (complete other old waits)
    · rw [if_neg isPending]
      refine ⟨sublist.cons id, sound, ?_⟩
      intro other member waits
      rcases List.mem_cons.mp member with rfl | old
      · rw [status] at waits
        exact absurd (Option.some.inj waits) isPending
      · exact complete other old waits

/-- The memory of a service that only started generations. -/
structure FreshlyStarted (settings : Settings) (memory : Memory) : Prop where
  scheduled : Scheduled settings memory
  opened : memory.closed = false
  uncancelled : memory.cancelled = false
  errors : memory.terminalErrors = ∅
  generating : ∀ worker ∈ memory.workers, worker.stage = .generating

theorem FreshlyStarted.initial : FreshlyStarted settings Memory.initial where
  scheduled := .initial
  opened := rfl
  uncancelled := rfl
  errors := rfl
  generating := by simp [Memory.initial]

/-- Starting one more generation within the admission limit. -/
theorem FreshlyStarted.startLocked (fresh : FreshlyStarted settings memory)
    {id : String} {request cloned : Request}
    (succeeded : cloneRequest documents request = .ok cloned) :
    FreshlyStarted settings (startLocked documents settings memory id request) ∧
      (startLocked documents settings memory id request).active.card +
          (startLocked documents settings memory id request).queue.length ≤
        memory.active.card + memory.queue.length + 1 := by
  have scheduled := @Scheduled.startLocked documents settings memory fresh.scheduled id request
  rcases @startLocked_cases documents settings memory id request with
    unchanged | ⟨message, failed, _, _⟩ | ⟨copy, startable, _, launched⟩ | ⟨copy, startable, _, queued⟩
  · rw [unchanged]
    exact ⟨fresh, Nat.le_succ _⟩
  · rw [succeeded] at failed
    cases failed
  · rw [launched] at scheduled ⊢
    refine ⟨⟨scheduled, fresh.opened, fresh.uncancelled, fresh.errors, ?_⟩, ?_⟩
    · intro worker member
      simp only [launchGenerationLocked, List.mem_append, List.mem_singleton] at member
      rcases member with old | rfl
      · exact fresh.generating worker old
      · rfl
    · simp only [launchGenerationLocked, Finset.card_insert_of_notMem startable.inactive]
      omega
  · rw [queued] at scheduled ⊢
    refine ⟨⟨scheduled, fresh.opened, fresh.uncancelled, fresh.errors, fresh.generating⟩, ?_⟩
    simp only [List.length_append, List.length_singleton]
    omega

/-- Below the admission limit every generation is admitted. -/
theorem Consistent.capacity (consistent : Consistent settings memory)
    (room : memory.active.card + memory.queue.length < settings.maxPending) (id : String) :
    generationCapacityAvailableLocked settings memory id = true := by
  rw [← consistent.queued_length] at room
  unfold generationCapacityAvailableLocked
  split
  · rfl
  · split
    · rfl
    · exact decide_eq_true room

/-- Starting a list of generations that fits the admission limit starts all of them. -/
theorem FreshlyStarted.startAll (fresh : FreshlyStarted settings memory)
    (pending : List (String × Request))
    (clones : ∀ item ∈ pending, ∃ cloned, cloneRequest documents item.2 = .ok cloned)
    (room : memory.active.card + memory.queue.length + pending.length ≤ settings.maxPending) :
    let target := pending.foldl
      (fun memory item => CatalogService.startLocked documents settings memory item.1 item.2) memory
    FreshlyStarted settings target ∧
      ∀ id, id ∈ memory.active ∨ id ∈ memory.queue ∨ id ∈ pending.map Prod.fst →
        id ∈ target.active ∨ id ∈ target.queue := by
  induction pending generalizing memory with
  | nil =>
    refine ⟨fresh, ?_⟩
    rintro id (active | queued | impossible)
    · exact .inl active
    · exact .inr queued
    · simp at impossible
  | cons item rest ih =>
    rw [List.length_cons] at room
    obtain ⟨cloned, succeeded⟩ := clones item (by simp)
    obtain ⟨next, card⟩ := @FreshlyStarted.startLocked memory documents settings fresh item.1 _ _
      succeeded
    have clean : memory.clean item.1 := by simp [Memory.clean, fresh.errors]
    have started := mem_startLocked fresh.scheduled.toConsistent fresh.opened clean
      (fresh.scheduled.capacity (by omega) item.1) succeeded
    have kept := @started_startLocked documents settings memory item.1 item.2
    obtain ⟨last, covered⟩ := ih next (fun other member => clones other (by simp [member]))
      (by omega)
    refine ⟨last, ?_⟩
    rintro id (active | queued | member)
    · exact covered id (.inl (kept.active.1 active))
    · exact covered id (.inr (.inl (kept.queue.1 queued)))
    · rcases List.mem_cons.mp member with rfl | later
      · rcases started with active | queued
        · exact covered _ (.inl active)
        · exact covered _ (.inr (.inl queued))
      · exact covered id (.inr (.inr later))

/-- A service that starts has every pending operation running or queued. -/
theorem resumePending_ok (resumed : resumePending documents settings store faults = .ok memory) :
    FreshlyStarted settings memory ∧
      ∀ id, store.persistedStatus id = some .pending → id ∈ memory.active ∨ id ∈ memory.queue := by
  unfold resumePending at resumed
  split at resumed
  · cases resumed
  rename_i ids listed
  obtain rfl := Store.listOperations_ok listed
  split at resumed
  · cases resumed
  rename_i pending collected
  obtain ⟨_, sound, complete⟩ := pendingRequests_ok collected
  split at resumed
  · cases resumed
  rename_i within
  cases resumed
  obtain ⟨fresh, covered⟩ := FreshlyStarted.initial.startAll pending
    (fun item member => (sound item member).2.1)
    (by simpa [Memory.initial] using Nat.not_lt.mp within)
  refine ⟨fresh, ?_⟩
  intro id waits
  have stored : id ∈ fileNames store.operations :=
    (List.mem_insertionSort _).mpr (Store.mem_keys_of_persistedStatus waits)
  exact covered id (.inr (.inr (complete id stored waits)))

/-- One step of the machine keeps the scheduler invariant. -/
theorem Running.step {source target : State} {label : Label} (running : Running settings source)
    (taken : (machine documents settings).step source label = some target) :
    Running settings target := by
  have advance : ∀ {memory index worker} (stage : Stage), source.process = some memory →
      memory.workers[index]? = some worker →
      (∀ operation, stage = .finishing operation →
        operation.id = worker.id ∧ operation.status ≠ .pending) →
      Scheduled settings (memory.withStage index worker stage) :=
    fun stage isRunning found own => (running _ isRunning).withStage found stage own
  intro memory isProcess
  cases stepped_of_step taken with
  | crash => cases isProcess
  | started stopped resumed =>
    cases isProcess
    exact (resumePending_ok resumed).1.scheduled
  | entered isRunning =>
    cases isProcess
    exact (running _ isRunning).withHandlers _
  | handled isRunning found outcome_eq =>
    cases isProcess
    exact (handled_effect outcome_eq).scheduled ((running _ isRunning).withHandlers _)
  | closed isRunning =>
    cases isProcess
    exact (running _ isRunning).close
  | cancelled isRunning =>
    cases isProcess
    exact (running _ isRunning).cancel
  | exited => cases isProcess
  | @advanced _ before index worker _ isRunning found moves =>
    cases isProcess
    refine advance _ isRunning found ?_
    rcases moves with ⟨_, outcome, _, rfl⟩ | ⟨set, requestDigest, _, _, _, rfl⟩ |
      ⟨payload, fault, _, _, rfl⟩ | ⟨now, referenced, fault, _, _, rfl⟩
    · rcases @afterGenerator_cases documents before.cancelled worker.id worker.request outcome with
        ⟨_, ended⟩ | underway
      · simp [ended]
      · exact underway.own
    · exact (underway_beginPublication _ _ _ _).own
    · exact (underway_failed _ _).own
    · simp
  | sequenced isRunning found at_stage result =>
    cases isProcess
    exact advance _ isRunning found (underway_assignSequence result).own
  | written isRunning found at_stage result =>
    cases isProcess
    exact advance _ isRunning found (underway_writeCatalog result).own
  | signed isRunning found at_stage signature =>
    cases isProcess
    exact advance _ isRunning found (underway_afterSignature _ _ _).own
  | finished isRunning found at_stage result =>
    cases isProcess
    exact (running _ isRunning).finishWorker found at_stage result
  | collected isRunning found at_stage removed next =>
    cases isProcess
    refine advance _ isRunning found ?_
    rcases next with rfl | rfl
    · simp
    · simp
  | done isRunning found at_stage released =>
    cases isProcess
    exact (running _ isRunning).generationDone found released
  | _ => exact running memory isProcess

/-- In every run, the bookkeeping of the running process is consistent. -/
theorem running_of_run {allowed : State → Label → Bool} {source state : State} {labels : List Label}
    (run : (machine documents settings).Run allowed source labels state)
    (stopped : source.process = none) :
    Running settings state := by
  refine run.preserves (fun _ _ _ running _ taken => Running.step running taken) ?_
  intro memory impossible
  rw [stopped] at impossible
  cases impossible

/-! ## Workers after a step -/

/-- A worker after a step is at a stage that retains, or it was there before. -/
def WorkersKept (retains : Stage → Prop) (source target : State) : Prop :=
  ∀ memory, target.process = some memory → ∀ worker ∈ memory.workers,
    retains worker.stage ∨ ∃ before, source.process = some before ∧ worker ∈ before.workers

variable {index : Nat} {worker : Worker} {retains : Stage → Prop} {target source : State}

/-- The workers after a worker has moved. -/
theorem workers_withStage {memory left : Memory}
    (running : source.process = some memory) (moved : target.process = some left)
    (workers : left.workers = (memory.withStage index worker stage).workers) (new : retains stage) :
    WorkersKept retains source target := by
  intro other isOther candidate member
  rw [moved] at isOther
  cases isOther
  rw [workers] at member
  rcases mem_withStage member with old | rfl
  · exact .inr ⟨memory, running, old⟩
  · exact .inl new

/-- The workers after some have gone and some have been launched. -/
theorem workers_append {memory left : Memory} {remaining fresh : List Worker}
    (running : source.process = some memory)
    (moved : target.process = some left) (sublist : remaining.Sublist memory.workers)
    (workers : left.workers = remaining ++ fresh)
    (generating : ∀ worker ∈ fresh, worker.stage = .generating) (new : retains .generating) :
    WorkersKept retains source target := by
  intro other isOther candidate member
  rw [moved] at isOther
  cases isOther
  rw [workers, List.mem_append] at member
  rcases member with old | launched
  · exact .inr ⟨memory, running, sublist.subset old⟩
  · exact .inl (generating candidate launched ▸ new)

end DalecHomebrew.CatalogService
