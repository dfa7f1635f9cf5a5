import DalecHomebrew.CatalogService.Service
import DalecHomebrew.Foundation.Transition

/-!
# The catalog service as a machine

The state is the persistent store, the wall clock and, while a process holds
the writer lock, its memory.  One label is one atomic piece of the program:

* a critical section of `s.mu` (a handler, `finishOperation`, `generationDone`,
  the gate of `ServeHTTP`, the flag of `Close`);
* one file-system step of `publishGenerated` under `publishMu`, or one
  directory entry of `removeCatalogsExcept`, which runs while `s.mu` is held
  but concurrently with publications;
* an action of the environment: the generator returns, the clock moves, the
  process crashes or is started again.

`issued` and `responses` only record what happened: the payloads in the order
they were signed and the answers in the order they were given.
-/

namespace DalecHomebrew.CatalogService

open Catalog Foundation

/-! ## Generation outcomes -/

/-- What `callGenerator` and the generation context report. -/
inductive GeneratorOutcome where
  /-- The generation context or the error reports an exceeded deadline. -/
  | timedOut
  /-- A `FailureError` with its client-safe failure. -/
  | failureError (failure : Failure)
  | otherError
  | returned (generated : Option GeneratedSet)
deriving DecidableEq

/-- The operation that `finishFailure` persists. -/
def failedOperation (id : String) (failure : Failure) : Operation where
  schemaVersion := operationSchemaVersion
  id := id
  status := .failed
  failure :=
    some (if validateFailure failure = [] then failure
      else { code := .unavailable, message := "catalog generation failed" })

def completedOperation (id : String) (result : CatalogSetResult) : Operation where
  schemaVersion := operationSchemaVersion
  id := id
  status := .completed
  result := some result

/-- `failureForError` for an error that is not a deadline. -/
def failureForError : Option Failure → Failure
  | some failure =>
    if validateFailure failure = [] then failure
    else { code := .unavailable, message := "catalog generation is unavailable" }
  | none => { code := .unavailable, message := "catalog generation is unavailable" }

/-- `runGeneration` on an `invalidGenerationError`. -/
def invalidGeneration (id : String) : Stage :=
  .finishing
    (failedOperation id { code := .policy, message := "generator returned invalid catalog data" })

/-- `runGeneration` on any other error of `publishGenerated`. -/
def publicationFailed (id : String) : Stage :=
  .finishing
    (failedOperation id
      { code := .unavailable, message := "catalog service could not publish generated data" })

section Publication

variable (documents : Documents) (settings : Settings)

/--
`runGeneration` from the return of the generator to the point where
`publishGenerated` asks for `publishMu`.
-/
def afterGenerator (cancelled : Bool) (id : String) (request : Request)
    (outcome : GeneratorOutcome) : Stage :=
  match cloneRequest documents request with
  | .error _ =>
    .finishing
      (failedOperation id { code := .policy, message := "persisted catalog request is invalid" })
  | .ok _ =>
    if cancelled then .finished
    else
      match outcome with
      | .timedOut =>
        .finishing
          (failedOperation id { code := .timeout, message := "catalog generation timed out" })
      | .failureError failure => .finishing (failedOperation id (failureForError (some failure)))
      | .otherError => .finishing (failedOperation id (failureForError none))
      | .returned none => invalidGeneration id
      | .returned (some set) =>
        match validateGeneratedSet documents request set with
        | .error _ => invalidGeneration id
        | .ok _ =>
          match documents.requestDigest request with
          | .error _ => invalidGeneration id
          | .ok requestDigest => .generated set requestDigest

/-- `publishGenerated` reads the clock under `publishMu`. -/
def beginPublication (id : String) (set : GeneratedSet) (requestDigest : String) (now : Time) :
    Stage :=
  if now = 0 then publicationFailed id
  else
    .sequencing
      { requestDigest
        publishedAt := now
        results := set.results
        remaining := set.catalogs.insertionSort fun left right => left.tap.id ≤ right.tap.id }

/-- The source identity of a tap: the digest of its serialized source. -/
def sourceIdentity (tap : TapSource) : String :=
  documents.fromBytes (documents.marshalTapSource tap)

/-- The payload that `publishGenerated` signs. -/
def publicationPayload (request : Request) (publication : Publication) : CatalogSetPayload where
  schemaVersion := catalogSetSchemaVersion
  requestDigest := publication.requestDigest
  coreSnapshotDigest := request.coreSnapshotDigest
  generatedAt := publication.publishedAt
  expiresAt := publication.publishedAt + settings.catalogSetLifetime
  catalogService := settings.catalogService
  extractor := settings.extractor
  catalogs := publication.references
  results := publication.results

/-- The signed reference to a canonical document. -/
def catalogReference (document : TapCatalog) (canonical : Bytes) : CatalogReference where
  tap := document.tap
  publishedAt := document.publishedAt
  sequence := document.sequence
  url := settings.origin ++ catalogDocumentPathPrefix ++ encoded (documents.fromBytes canonical)
  size := canonical.length
  sha256 := documents.fromBytes canonical

/-- One iteration of the first loop of `publishGenerated`, or its end. -/
def assignSequence (store : Store) (id : String) (request : Request) (publication : Publication)
    (fault : Store.SequenceFault) : Store × Stage :=
  match publication.remaining with
  | [] =>
    let payload := publicationPayload settings request publication
    match documents.validateCatalogSetPayload payload with
    | .error _ => (store, invalidGeneration id)
    | .ok _ => (store, .storing payload publication.staged)
  | document :: rest =>
    match store.nextSequence document.tap.id (sourceIdentity documents document.tap) fault with
    | (store, .error _) => (store, publicationFailed id)
    | (store, .ok sequence) =>
      let document := { document with publishedAt := publication.publishedAt, sequence }
      match documents.canonicalTapCatalog document with
      | .error _ => (store, invalidGeneration id)
      | .ok canonical =>
        (store, .sequencing { publication with
              remaining := rest
              staged := publication.staged ++ [{
                tap := document.tap.id, data := canonical, digest := documents.fromBytes canonical }]
              references := publication.references ++
                [catalogReference documents settings document canonical] })

/-- One iteration of the second loop of `publishGenerated`. -/
def writeCatalog (store : Store) (id : String) (payload : CatalogSetPayload) (item : StagedCatalog)
    (rest : List StagedCatalog) (fault : WriteFault) (modTime : Time) : Store × Stage :=
  match store.putCatalog documents item.data fault modTime with
  | (store, .error _) => (store, publicationFailed id)
  | (store, .ok persisted) =>
    if persisted ≠ item.digest then (store, publicationFailed id)
    else (store, .storing payload rest)

/-- `publishGenerated` after a successful signature. -/
def afterSignature (id : String) (payload : CatalogSetPayload) (envelope : Bytes) : Stage :=
  match documents.catalogSetPayloadDigest payload with
  | .error _ => publicationFailed id
  | .ok payloadDigest =>
    let result : CatalogSetResult :=
      { schemaVersion := resultSchemaVersion
        requestDigest := payload.requestDigest
        payloadDigest
        jws := envelope }
    if validateCatalogSetResult documents result = [] then
      .finishing (completedOperation id result)
    else publicationFailed id

end Publication

/-! ## States and labels -/

structure State where
  store : Store
  clock : Time
  process : Option Memory
  issued : List CatalogSetPayload
  responses : List Response

def State.initial : State where
  store := .empty
  clock := 0
  process := none
  issued := []
  responses := []

inductive Label where
  /-- `New` on the store. -/
  | start (faults : ResumeFaults)
  /-- The gate of `ServeHTTP`. -/
  | enter (call : Call)
  /-- The critical section of a handler in flight. -/
  | handle (index : Nat) (faults : HandlerFaults)
  /-- The generator of a worker returns. -/
  | generator (index : Nat) (outcome : GeneratorOutcome)
  /-- A worker acquires `publishMu`. -/
  | beginPublication (index : Nat)
  /-- A worker assigns one sequence, or validates the payload after the last one. -/
  | assignSequence (index : Nat) (fault : Store.SequenceFault)
  /-- A worker writes one catalog document. -/
  | writeCatalog (index : Nat) (fault : WriteFault) (modTime : Time)
  /-- A worker signs the payload and releases `publishMu`. -/
  | sign (index : Nat) (fault : Bool)
  /-- `finishOperation`, up to the directory read of the collection it may start. -/
  | finish (index : Nat) (fault : WriteFault) (modTime : Time) (collection : CollectionFaults)
  /-- One directory entry of `removeCatalogsExcept`, or its end. -/
  | collect (index : Nat) (fault : EntryFault)
  /-- `generationDone`. -/
  | done (index : Nat)
  /-- `Close` sets the flag. -/
  | close
  /-- `Close` cancels the service context. -/
  | cancel
  /-- `Close` has waited for all handlers and workers and releases the writer lock. -/
  | exit
  | crash
  | clock (time : Time)

namespace Stage

/-- The worker holds `s.mu` between two labels. -/
def holdsMu : Stage → Bool
  | .collecting _ _ _ => true
  | _ => false

/-- The worker holds `publishMu`. -/
def holdsPublishMu : Stage → Bool
  | .sequencing _ => true
  | .storing _ _ => true
  | _ => false

/-- `finishOperation` is over or was skipped; only `generationDone` is missing. -/
def settled : Stage → Bool
  | .collecting _ _ _ => true
  | .finished => true
  | _ => false

end Stage

namespace Memory

def muFree (memory : Memory) : Bool := memory.workers.all fun worker => !worker.stage.holdsMu

def publishMuFree (memory : Memory) : Bool :=
  memory.workers.all fun worker => !worker.stage.holdsPublishMu

/-- Move the worker at `index` to another stage. -/
def withStage (memory : Memory) (index : Nat) (worker : Worker) (stage : Stage) : Memory :=
  { memory with workers := memory.workers.set index { worker with stage } }

end Memory

section Machine

variable (documents : Documents) (settings : Settings)

/-- Run one handler: the part before the lock, then its critical section. -/
def handleCall (memory : Memory) (store : Store) (now : Time) (call : Call)
    (faults : HandlerFaults) : Outcome :=
  match call with
  | .catalogSet request =>
    match catalogSetRequest documents request with
    | .error response => { memory, store, response }
    | .ok (id, decoded, canonical) =>
      catalogSetLocked documents settings memory store now id decoded canonical faults
  | .operation request =>
    match operationRequest request with
    | .error response => { memory, store, response }
    | .ok id => operationLocked documents settings memory store now id faults

/-- `finishOperation`, with the start of the collection after a completed operation. -/
def finishWorker (memory : Memory) (store : Store) (now : Time) (operation : Operation)
    (fault : WriteFault) (modTime : Time) (collection : CollectionFaults) :
    Memory × Store × Stage :=
  match finishOperationLocked documents memory store operation fault modTime with
  | (memory, store, false) => (memory, store, .finished)
  | (memory, store, true) =>
    if operation.status = .completed then
      match beginCollection documents settings store now collection with
      | .error _ => (memory, store, .finished)
      | .ok (referenced, entries) => (memory, store, .collecting now referenced entries)
    else (memory, store, .finished)

/-- The labels of a running process that move one worker. -/
def workerStep (state : State) (memory : Memory) (index : Nat) (worker : Worker) :
    Label → Option State
  | .generator _ outcome =>
    match worker.stage with
    | .generating =>
      let stage := afterGenerator documents memory.cancelled worker.id worker.request outcome
      some { state with process := some (memory.withStage index worker stage) }
    | _ => none
  | .beginPublication _ =>
    match worker.stage with
    | .generated set requestDigest =>
      if memory.publishMuFree then
        let stage := beginPublication worker.id set requestDigest state.clock
        some { state with process := some (memory.withStage index worker stage) }
      else none
    | _ => none
  | .assignSequence _ fault =>
    match worker.stage with
    | .sequencing publication =>
      let (store, stage) :=
        assignSequence documents settings state.store worker.id worker.request publication fault
      some { state with store, process := some (memory.withStage index worker stage) }
    | _ => none
  | .writeCatalog _ fault modTime =>
    match worker.stage with
    | .storing payload (item :: rest) =>
      let (store, stage) :=
        writeCatalog documents state.store worker.id payload item rest fault modTime
      some { state with store, process := some (memory.withStage index worker stage) }
    | _ => none
  | .sign _ fault =>
    match worker.stage with
    | .storing payload [] =>
      if fault then
        let stage := publicationFailed worker.id
        some { state with process := some (memory.withStage index worker stage) }
      else
        match documents.sign payload settings.signingKeyID with
        | .error _ =>
          let stage := publicationFailed worker.id
          some { state with process := some (memory.withStage index worker stage) }
        | .ok envelope =>
          let stage := afterSignature documents worker.id payload envelope
          some
            { state with
              process := some (memory.withStage index worker stage)
              issued := state.issued ++ [payload] }
    | _ => none
  | .finish _ fault modTime collection =>
    match worker.stage with
    | .finishing operation =>
      if memory.muFree then
        let (memory, store, stage) :=
          finishWorker documents settings memory state.store state.clock operation fault modTime
            collection
        some { state with store, process := some (memory.withStage index worker stage) }
      else none
    | _ => none
  | .collect _ fault =>
    match worker.stage with
    | .collecting _ _ [] =>
      some { state with process := some (memory.withStage index worker .finished) }
    | .collecting now referenced (name :: rest) =>
      match removeCatalogEntry settings state.store referenced now name fault with
      | (store, .error _) =>
        some { state with store, process := some (memory.withStage index worker .finished) }
      | (store, .ok _) =>
        let stage := .collecting now referenced rest
        some { state with store, process := some (memory.withStage index worker stage) }
    | _ => none
  | .done _ =>
    match worker.stage with
    | .finished =>
      if memory.muFree then
        (generationDoneLocked settings
          { memory with workers := memory.workers.eraseIdx index } worker.id).map
          fun memory => { state with process := some memory }
      else none
    | _ => none
  | _ => none

/-- The worker that a label moves. -/
def Label.worker : Label → Option Nat
  | .generator index _ => some index
  | .beginPublication index => some index
  | .assignSequence index _ => some index
  | .writeCatalog index _ _ => some index
  | .sign index _ => some index
  | .finish index _ _ _ => some index
  | .collect index _ => some index
  | .done index => some index
  | _ => none

/-- The labels of a running process. -/
def processStep (state : State) (memory : Memory) (label : Label) : Option State :=
  match label with
  | .enter call =>
    if !memory.muFree then none
    else if memory.closed then
      some
        { state with
          responses := state.responses ++ [unavailable 503 "catalog service is shutting down"] }
    else some { state with process := some { memory with handlers := memory.handlers ++ [call] } }
  | .handle index faults =>
    match memory.handlers[index]? with
    | none => none
    | some call =>
      if memory.muFree then
        let outcome :=
          handleCall documents settings
            { memory with handlers := memory.handlers.eraseIdx index } state.store state.clock
            call faults
        some
          { state with
            store := outcome.store
            process := some outcome.memory
            responses := state.responses ++ [outcome.response] }
      else none
  | .close =>
    if memory.muFree then some { state with process := some { memory with closed := true } }
    else none
  | .cancel =>
    if memory.closed then some { state with process := some { memory with cancelled := true } }
    else none
  | .exit =>
    if memory.closed ∧ memory.cancelled ∧ memory.handlers = [] ∧ memory.workers = [] then
      some { state with process := none }
    else none
  | label =>
    match label.worker with
    | none => none
    | some index =>
      match memory.workers[index]? with
      | none => none
      | some worker => workerStep documents settings state memory index worker label

def step (state : State) : Label → Option State
  | .crash => some { state with process := none }
  | .clock time => some { state with clock := time }
  | .start faults =>
    match state.process with
    | some _ => none
    | none =>
      match resumePending documents settings state.store faults with
      | .error _ => some state
      | .ok memory => some { state with process := some memory }
  | label =>
    match state.process with
    | none => none
    | some memory => processStep documents settings state memory label

def machine : Foundation.Machine State Label where
  step := step documents settings

end Machine

/-! ## Inversion -/

section Inversion

variable (documents : Documents) (settings : Settings)

/-- Everything one step of the machine can do, one constructor for each outcome. -/
inductive Stepped (state : State) : Label → State → Prop where
  | crash : Stepped state .crash { state with process := none }
  | clock (time : Time) : Stepped state (.clock time) { state with clock := time }
  | startFailed {faults : ResumeFaults} {error : ResumeError}
      (stopped : state.process = none)
      (failed : resumePending documents settings state.store faults = .error error) :
      Stepped state (.start faults) state
  | started {faults : ResumeFaults} {memory : Memory}
      (stopped : state.process = none)
      (resumed : resumePending documents settings state.store faults = .ok memory) :
      Stepped state (.start faults) { state with process := some memory }
  | turnedAway {call : Call} {memory : Memory}
      (running : state.process = some memory)
      (closed : memory.closed = true) :
      Stepped state (.enter call)
        { state with
          responses := state.responses ++ [unavailable 503 "catalog service is shutting down"] }
  | entered {call : Call} {memory : Memory}
      (running : state.process = some memory)
      (opened : memory.closed = false) :
      Stepped state (.enter call)
        { state with process := some { memory with handlers := memory.handlers ++ [call] } }
  | handled {index : Nat} {faults : HandlerFaults} {call : Call} {memory : Memory}
      {outcome : Outcome}
      (running : state.process = some memory)
      (found : memory.handlers[index]? = some call)
      (outcome_eq : outcome = handleCall documents settings
        { memory with handlers := memory.handlers.eraseIdx index } state.store state.clock call
        faults) :
      Stepped state (.handle index faults)
        { state with
          store := outcome.store
          process := some outcome.memory
          responses := state.responses ++ [outcome.response] }
  | closed {memory : Memory}
      (running : state.process = some memory) :
      Stepped state .close { state with process := some { memory with closed := true } }
  | cancelled {memory : Memory}
      (running : state.process = some memory)
      (closed : memory.closed = true) :
      Stepped state .cancel { state with process := some { memory with cancelled := true } }
  | exited {memory : Memory}
      (running : state.process = some memory)
      (closed : memory.closed = true) :
      Stepped state .exit { state with process := none }
  /-- A worker moves without touching the store. -/
  | advanced {label : Label} {memory : Memory} {index : Nat} {worker : Worker} {stage : Stage}
      (running : state.process = some memory)
      (found : memory.workers[index]? = some worker)
      (moves : worker.stage = .generating ∧ (∃ outcome, label = .generator index outcome ∧
            stage = afterGenerator documents memory.cancelled worker.id worker.request outcome) ∨
          (∃ set requestDigest, worker.stage = .generated set requestDigest ∧
            label = .beginPublication index ∧ memory.publishMuFree = true ∧
            stage = beginPublication worker.id set requestDigest state.clock) ∨
          (∃ payload fault, worker.stage = .storing payload [] ∧ label = .sign index fault ∧
            stage = publicationFailed worker.id) ∨
          (∃ now referenced fault, worker.stage = .collecting now referenced [] ∧
            label = .collect index fault ∧ stage = .finished)) :
      Stepped state label { state with process := some (memory.withStage index worker stage) }
  | sequenced {memory : Memory} {index : Nat} {worker : Worker} {publication : Publication}
      {fault : Store.SequenceFault} {store : Store} {stage : Stage}
      (running : state.process = some memory)
      (found : memory.workers[index]? = some worker)
      (at_stage : worker.stage = .sequencing publication)
      (result : assignSequence documents settings state.store worker.id worker.request publication
        fault = (store, stage)) :
      Stepped state (.assignSequence index fault)
        { state with store, process := some (memory.withStage index worker stage) }
  | written {memory : Memory} {index : Nat} {worker : Worker} {payload : CatalogSetPayload}
      {item : StagedCatalog} {rest : List StagedCatalog} {fault : WriteFault} {modTime : Time}
      {store : Store} {stage : Stage}
      (running : state.process = some memory)
      (found : memory.workers[index]? = some worker)
      (at_stage : worker.stage = .storing payload (item :: rest))
      (result : writeCatalog documents state.store worker.id payload item rest fault modTime =
        (store, stage)) :
      Stepped state (.writeCatalog index fault modTime)
        { state with store, process := some (memory.withStage index worker stage) }
  | signed {memory : Memory} {index : Nat} {worker : Worker} {payload : CatalogSetPayload}
      {envelope : Bytes}
      (running : state.process = some memory)
      (found : memory.workers[index]? = some worker)
      (at_stage : worker.stage = .storing payload [])
      (signature : documents.sign payload settings.signingKeyID = .ok envelope) :
      Stepped state (.sign index false)
        { state with
          process := some
            (memory.withStage index worker (afterSignature documents worker.id payload envelope))
          issued := state.issued ++ [payload] }
  | finished {memory kept : Memory} {index : Nat} {worker : Worker} {operation : Operation}
      {fault : WriteFault} {modTime : Time} {collection : CollectionFaults} {store : Store}
      {stage : Stage}
      (running : state.process = some memory)
      (found : memory.workers[index]? = some worker)
      (at_stage : worker.stage = .finishing operation)
      (result : finishWorker documents settings memory state.store state.clock operation fault
        modTime collection = (kept, store, stage)) :
      Stepped state (.finish index fault modTime collection)
        { state with store, process := some (kept.withStage index worker stage) }
  | collected {memory : Memory} {index : Nat} {worker : Worker} {now : Time}
      {referenced rest : List String} {name : String} {fault : EntryFault} {store : Store}
      {result : Except String Unit} {stage : Stage}
      (running : state.process = some memory)
      (found : memory.workers[index]? = some worker)
      (at_stage : worker.stage = .collecting now referenced (name :: rest))
      (removed : removeCatalogEntry settings state.store referenced now name fault =
        (store, result))
      (next : stage = .finished ∨ stage = .collecting now referenced rest) :
      Stepped state (.collect index fault)
        { state with store, process := some (memory.withStage index worker stage) }
  | done {memory target : Memory} {index : Nat} {worker : Worker}
      (running : state.process = some memory)
      (found : memory.workers[index]? = some worker)
      (at_stage : worker.stage = .finished)
      (released : generationDoneLocked settings
        { memory with workers := memory.workers.eraseIdx index } worker.id = some target) :
      Stepped state (.done index) { state with process := some target }

end Inversion

section Inversion

variable {documents : Documents} {settings : Settings} {state target : State} {memory : Memory}
  {label : Label}

/-- A step of one worker is one of the worker constructors of `Stepped`. -/
theorem stepped_of_workerStep {index : Nat} {worker : Worker}
    (running : state.process = some memory) (found : memory.workers[index]? = some worker)
    (names : label.worker = some index)
    (taken : workerStep documents settings state memory index worker label = some target) :
    Stepped documents settings state label target := by
  cases label
  all_goals cases names
  all_goals cases stage : worker.stage
  all_goals simp only [workerStep, stage, reduceCtorEq] at taken
  -- Each label is left with the one stage that it moves.
  case generator.refl.generating outcome =>
    cases taken
    exact .advanced running found (.inl ⟨stage, outcome, rfl, rfl⟩)
  case beginPublication.refl.generated set requestDigest =>
    split at taken
    · rename_i free
      cases taken
      exact .advanced running found
        (.inr (.inl ⟨set, requestDigest, stage, rfl, free, rfl⟩))
    · cases taken
  case assignSequence.refl.sequencing =>
    cases taken
    exact .sequenced running found stage rfl
  case writeCatalog.refl.storing remaining =>
    cases remaining with
    | nil => simp at taken
    | cons item rest =>
      cases taken
      exact .written running found stage rfl
  case sign.refl.storing fault payload remaining =>
    cases remaining with
    | cons item rest => simp at taken
    | nil =>
      have failed : Stepped documents settings state (.sign index fault)
          { state with
            process := some (memory.withStage index worker (publicationFailed worker.id)) } :=
        .advanced running found (.inr (.inr (.inl ⟨payload, fault, stage, rfl, rfl⟩)))
      dsimp only at taken
      repeat' split at taken
      all_goals cases taken
      · exact failed
      · exact failed
      · rename_i unfailed _ _ signature
        obtain rfl := Bool.eq_false_iff.mpr unfailed
        exact .signed running found stage signature
  case finish.refl.finishing =>
    split at taken
    · cases taken
      exact .finished running found stage rfl
    · cases taken
  case collect.refl.collecting fault now referenced entries =>
    cases entries with
    | nil =>
      cases taken
      exact .advanced running found
        (.inr (.inr (.inr ⟨now, referenced, fault, stage, rfl, rfl⟩)))
    | cons name rest =>
      dsimp only at taken
      split at taken
      · rename_i removed
        cases taken
        exact .collected running found stage removed (.inl rfl)
      · rename_i removed
        cases taken
        exact .collected running found stage removed (.inr rfl)
  case done.refl.finished =>
    split at taken
    · obtain ⟨next, released, rfl⟩ := Option.map_eq_some_iff.mp taken
      exact .done running found stage released
    · cases taken

/-- The labels that name a worker are steps of that worker. -/
theorem stepped_of_workerLabel {index : Nat} (running : state.process = some memory)
    (names : label.worker = some index)
    (taken : (match memory.workers[index]? with
      | none => none
      | some worker => workerStep documents settings state memory index worker label) =
        some target) :
    Stepped documents settings state label target := by
  cases found : memory.workers[index]? with
  | none => simp [found] at taken
  | some worker =>
    rw [found] at taken
    exact stepped_of_workerStep running found names taken

theorem stepped_of_processStep (running : state.process = some memory)
    (taken : processStep documents settings state memory label = some target) :
    Stepped documents settings state label target := by
  cases label with
  | enter call =>
    simp only [processStep] at taken
    split at taken
    · cases taken
    split at taken
    · rename_i closed
      cases taken
      exact .turnedAway running closed
    · rename_i opened
      cases taken
      exact .entered running (by simpa using opened)
  | handle index faults =>
    simp only [processStep] at taken
    cases found : memory.handlers[index]? with
    | none => simp [found] at taken
    | some call =>
      simp only [found] at taken
      obtain ⟨_, ⟨⟩⟩ := Option.ite_none_right_eq_some.mp taken
      exact .handled running found rfl
  | close =>
    obtain ⟨_, ⟨⟩⟩ := Option.ite_none_right_eq_some.mp taken
    exact .closed running
  | cancel =>
    obtain ⟨closed, ⟨⟩⟩ := Option.ite_none_right_eq_some.mp taken
    exact .cancelled running closed
  | exit =>
    obtain ⟨ended, ⟨⟩⟩ := Option.ite_none_right_eq_some.mp taken
    exact .exited running ended.1
  | start faults | crash | clock time => simp [processStep, Label.worker] at taken
  | _ => exact stepped_of_workerLabel running rfl taken

/-- The inversion of the step function: every step is one of the listed outcomes. -/
theorem stepped_of_step (taken : (machine documents settings).step state label = some target) :
    Stepped documents settings state label target := by
  have running : ∀ label, (match state.process with
      | none => none
      | some memory => processStep documents settings state memory label) = some target →
      Stepped documents settings state label target := by
    intro label taken
    cases process : state.process with
    | none => simp [process] at taken
    | some memory =>
      rw [process] at taken
      exact stepped_of_processStep process taken
  cases label with
  | crash =>
    cases taken
    exact .crash
  | clock time =>
    cases taken
    exact .clock time
  | start faults =>
    simp only [machine, step] at taken
    cases process : state.process with
    | some memory => simp [process] at taken
    | none =>
      simp only [process] at taken
      split at taken
      · rename_i error failed
        cases taken
        exact .startFailed process failed
      · rename_i memory resumed
        cases taken
        exact .started process resumed
  | _ => exact running _ taken

end Inversion

end DalecHomebrew.CatalogService
