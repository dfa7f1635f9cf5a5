import DalecHomebrew.CatalogService.Store
import Mathlib.Data.Finset.Card

/-!
# The catalog service and its critical sections

`internal/catalogservice/service.go`.  `Memory` holds the fields of `Service`
that change while it runs, together with the handlers and the generation
goroutines in flight.  Each function whose name ends in `Locked` is the body of
one critical section of `s.mu`, as a function from memory and store to memory,
store and response.
-/

namespace DalecHomebrew.CatalogService

open Catalog Foundation Foundation.GoString

/-! ## Configuration -/

def second : Duration := 1000000000
def hour : Duration := 3600 * second

def defaultGenerationTimeout : Duration := 1800 * second
def defaultCatalogRefresh : Duration := hour
def generationAdmissionFailureMessage : String := "catalog generation capacity is exhausted"

/-- The inputs of a running service; `New` refuses others. -/
structure Settings where
  origin : String
  signingKeyID : String
  catalogService : ComponentIdentity
  extractor : ComponentIdentity
  catalogSetLifetime : Duration
  generationTimeout : Duration
  retryAfterSeconds : Int
  catalogRefresh : Duration
  maxConcurrent : Nat
  maxPending : Nat
  maxStoredOperations : Nat
  lifetime_pos : 0 < catalogSetLifetime
  lifetime_le : catalogSetLifetime ≤ maxCatalogSetLifetime
  maxConcurrent_pos : 0 < maxConcurrent
  maxPending_pos : 0 < maxPending

/-! ## Responses -/

inductive Body where
  | failure (failure : Failure)
  | operation (operation : Operation)
  | result (result : CatalogSetResult)
deriving DecidableEq

structure Response where
  status : Nat
  body : Body
  retryAfter : Option Int := none
deriving DecidableEq

/-- `writeHTTPFailure`. -/
def writeHTTPFailure (status : Nat) (code : FailureCode) (message : String) : Response where
  status := status
  body :=
    .failure
      (if validateFailure { code, message } = [] then { code, message }
        else { code := .unavailable, message := "catalog service failure" })

/-- `writePending`. -/
def writePending (status : Nat) (operation : Operation) : Response where
  status := status
  body := .operation operation
  retryAfter := some operation.retryAfterSeconds

/-! ## Generated sets and cached results -/

/-- The generator-owned portion of a completed catalog set. -/
structure GeneratedSet where
  catalogs : List TapCatalog
  results : List PlatformResult
deriving DecidableEq

section Freshness

variable (documents : Documents) (settings : Settings)

def platformKey (platform : Platform) : String := platform.os ++ "/" ++ platform.architecture

/-- The requested roots of a platform result, sorted. -/
def requestedRoots (closure : ClosureResult) : List FormulaID :=
  (match closure.requestedMappings with
  | none | some [] => closure.requested
  | some mappings => mappings.map RequestedMapping.requested).insertionSort (· ≤ ·)

/-- The loop of `validateGeneratedSet` over the platform results. -/
def validateResults (targetRoots : List (String × List FormulaID)) :
    Nat → List String → List PlatformResult → Except String Unit
  | _, _, [] => .ok ()
  | index, seen, result :: rest =>
    match documents.canonicalPlatformResult result with
    | .error message => .error ("results[" ++ decimal index ++ "]: " ++ message)
    | .ok _ =>
      let key := platformKey result.platform
      match targetRoots.lookup key with
      | none => .error ("unexpected result platform " ++ key)
      | some expectedRoots =>
        if key ∈ seen then .error ("duplicate result platform " ++ key)
        else if requestedRoots result.closure ≠ expectedRoots then
          .error ("result platform " ++ key ++ " requested roots do not match request")
        else validateResults targetRoots (index + 1) (key :: seen) rest

/-- `time.Unix(1, 0)`, counted from the Go zero time. -/
def validationTime : Time := (62135596800 + 1) * second

/-- The loop of `validateGeneratedSet` over the tap catalogs. -/
def validateCatalogs : Nat → List TapID → List TapCatalog → Except String Unit
  | _, _, [] => .ok ()
  | index, seen, value :: rest =>
    if value.tap.id.isCore then .error ("catalogs[" ++ decimal index ++ "] is homebrew/core")
    else if value.tap.id ∈ seen then .error ("duplicate tap catalog " ++ value.tap.id)
    else
      -- The service assigns both fields later; any positive value validates.
      match documents.canonicalTapCatalog
          { value with publishedAt := validationTime, sequence := 1 } with
      | .error message => .error ("catalogs[" ++ decimal index ++ "]: " ++ message)
      | .ok _ => validateCatalogs (index + 1) (value.tap.id :: seen) rest

def validateGeneratedSet (request : Request) (generated : GeneratedSet) : Except String Unit :=
  if generated.catalogs = [] then .error "catalogs must be non-empty"
  else if maxTaps < generated.catalogs.length then .error "catalog count exceeds limit"
  else
    match documents.normalizedTargets request with
    | .error message => .error ("normalize request targets: " ++ message)
    | .ok targets =>
      if generated.results.length ≠ targets.length then
        .error ("platform result count " ++ decimal generated.results.length ++
          " does not match request " ++ decimal targets.length)
      else
        let targetRoots := targets.map fun target =>
          (platformKey target.platform,
            (target.coreRoots ++ target.externalRoots.getD []).insertionSort (· ≤ ·))
        match validateResults documents targetRoots 0 [] generated.results with
        | .error message => .error message
        | .ok _ => validateCatalogs documents 0 [] generated.catalogs

/--
`catalogauth.Verify` with one required signer: signature, canonical payload,
request and snapshot bindings, validity window.
-/
def verify (envelope : Bytes) (expectedRequestDigest expectedCoreSnapshotDigest : String)
    (now : Time) : Except String CatalogSetPayload :=
  if validateSHA256Digest expectedRequestDigest ≠ [] then
    .error "expected request digest is required and must be canonical sha256"
  else if validateSHA256Digest expectedCoreSnapshotDigest ≠ [] then
    .error "expected core snapshot digest is required and must be canonical sha256"
  else
    match documents.verifyJWS envelope settings.signingKeyID with
    | .error message => .error ("verify catalog-set JWS with accepted signers: " ++ message)
    | .ok payloadRaw =>
      match documents.decodeCatalogSetPayload payloadRaw with
      | .error message => .error ("decode authenticated catalog-set payload: " ++ message)
      | .ok payload =>
        match documents.canonicalCatalogSetPayload payload with
        | .error message => .error message
        | .ok canonical =>
          if payloadRaw ≠ canonical then
            .error "authenticated catalog-set payload is not canonical"
          else if payload.requestDigest ≠ expectedRequestDigest then
            .error ("catalog-set request digest " ++ payload.requestDigest ++
              " does not match " ++ expectedRequestDigest)
          else if payload.coreSnapshotDigest ≠ expectedCoreSnapshotDigest then
            .error ("catalog-set core snapshot digest " ++ payload.coreSnapshotDigest ++
              " does not match " ++ expectedCoreSnapshotDigest)
          else if now < payload.generatedAt then .error "catalog-set is not valid yet"
          else if payload.expiresAt ≤ now then .error "catalog-set expired"
          else .ok payload

/-- Load and decode the documents a verified payload refers to. -/
def referencedCatalogs (store : Store) (fault : String → Bool) :
    List CatalogReference → Option (List TapCatalog)
  | [] => some []
  | reference :: rest =>
    let name := encoded reference.sha256
    match documents.validateCatalogReferenceOrigin reference settings.origin,
        store.loadCatalog documents name (fault name) with
    | .ok _, .ok data =>
      match documents.decodeReferencedTapCatalog reference data with
      | .ok decoded => (referencedCatalogs store fault rest).map (decoded :: ·)
      | .error _ => none
    | _, _ => none

/-- `cachedResultFresh`; `fault` tells which catalog reads fail. -/
def cachedResultFresh (store : Store) (request : Request) (result : Option CatalogSetResult)
    (now : Time) (fault : String → Bool) : Bool :=
  match result with
  | none => false
  | some result =>
    if validateCatalogSetResult documents result ≠ [] then false
    else
      match documents.requestDigest request with
      | .error _ => false
      | .ok requestDigest =>
        if result.requestDigest ≠ requestDigest then false
        else
          match verify documents settings result.jws requestDigest
              request.coreSnapshotDigest now with
          | .error _ => false
          | .ok payload =>
            if payload.catalogService ≠ settings.catalogService ∨
                payload.extractor ≠ settings.extractor then false
            else if payload.generatedAt + settings.catalogRefresh ≤ now then false
            else if documents.catalogSetPayloadDigest payload ≠ .ok result.payloadDigest then
              false
            else
              match referencedCatalogs documents settings store fault payload.catalogs with
              | none => false
              | some catalogs =>
                (validateGeneratedSet documents request
                  { catalogs, results := payload.results }).toBool

end Freshness

/-! ## Process memory -/

/-- A catalog document between its canonicalization and its write. -/
structure StagedCatalog where
  tap : TapID
  data : Bytes
  digest : String
deriving DecidableEq

/-- The locals of `publishGenerated` while it assigns sequences. -/
structure Publication where
  requestDigest : String
  publishedAt : Time
  results : List PlatformResult
  remaining : List TapCatalog
  staged : List StagedCatalog := []
  references : List CatalogReference := []
deriving DecidableEq

/-- How far one generation goroutine has come. -/
inductive Stage where
  /-- Inside `callGenerator`. -/
  | generating
  /-- The generated set is valid; the goroutine waits for `publishMu`. -/
  | generated (set : GeneratedSet) (requestDigest : String)
  /-- Holds `publishMu` and assigns sequences to the remaining catalogs. -/
  | sequencing (publication : Publication)
  /-- Holds `publishMu` and writes the remaining staged documents. -/
  | storing (payload : CatalogSetPayload) (remaining : List StagedCatalog)
  /-- About to call `finishOperation`. -/
  | finishing (operation : Operation)
  /-- Holds `s.mu` inside `gcCatalogsLocked`. -/
  | collecting (now : Time) (referenced entries : List String)
  /-- `runGeneration` returned; `generationDone` has not run. -/
  | finished
deriving DecidableEq

structure Worker where
  id : String
  request : Request
  stage : Stage
deriving DecidableEq

/-- The HTTP data that `handleCatalogSet` reads. -/
structure PostRequest where
  rawQuery : String := ""
  contentEncoding : String := ""
  /-- `mime.ParseMediaType` of the content type. -/
  mediaType : Option (String × List (String × String))
  contentLength : Int
  body : Bytes
deriving DecidableEq

/-- The HTTP data that `handleOperation` reads. -/
structure GetRequest where
  rawQuery : String := ""
  path : String
deriving DecidableEq

inductive Call where
  /-- `POST /v1/catalog-sets`. -/
  | catalogSet (request : PostRequest)
  /-- `GET /v1/operations/…`. -/
  | operation (request : GetRequest)
deriving DecidableEq

/-- The changing part of a `Service`, with its goroutines. -/
structure Memory where
  active : Finset String
  queued : Table String Request
  queue : List String
  terminalErrors : Table String String
  /-- The number of tokens in `generationSlots`. -/
  slots : Nat
  closed : Bool
  /-- `s.ctx` has been cancelled. -/
  cancelled : Bool
  /-- Handlers that passed the gate of `ServeHTTP`. -/
  handlers : List Call
  workers : List Worker

def Memory.initial : Memory where
  active := ∅
  queued := ∅
  queue := []
  terminalErrors := ∅
  slots := 0
  closed := false
  cancelled := false
  handlers := []
  workers := []

section Locked

variable (documents : Documents) (settings : Settings)

/-! ## Admission and launch -/

def generationCapacityAvailableLocked (memory : Memory) (id : String) : Bool :=
  if id ∈ memory.active then true
  else if id ∈ memory.queued.keys then true
  else memory.active.card + memory.queued.keys.length < settings.maxPending

def launchGenerationLocked (memory : Memory) (id : String) (request : Request) : Memory :=
  { memory with
    active := insert id memory.active
    workers := memory.workers ++ [{ id, request, stage := .generating }] }

/-- `cloneRequest`. -/
def cloneRequest (request : Request) : Except String Request :=
  match documents.canonicalRequest request with
  | .error message => .error message
  | .ok canonical => documents.decodeRequest canonical

def startLocked (memory : Memory) (id : String) (request : Request) : Memory :=
  if memory.closed ∨ (memory.terminalErrors.lookup id).isSome then memory
  else if id ∈ memory.active then memory
  else if id ∈ memory.queued.keys then memory
  else if !generationCapacityAvailableLocked settings memory id then memory
  else
    match cloneRequest documents request with
    | .error message =>
      { memory with terminalErrors := memory.terminalErrors.insert id message }
    | .ok cloned =>
      if memory.slots < settings.maxConcurrent then
        launchGenerationLocked { memory with slots := memory.slots + 1 } id cloned
      else
        { memory with
          queued := memory.queued.insert id cloned
          queue := memory.queue ++ [id] }

def pendingOperation (id : String) : Operation where
  schemaVersion := operationSchemaVersion
  id := id
  status := .pending
  retryAfterSeconds := settings.retryAfterSeconds

/-! ## Eviction -/

/-- The file-system outcomes of one `evictOperationsLocked` call. -/
structure EvictionFaults where
  infos : Bool := false
  load : String → Bool := fun _ => false
  remove : String → Store.RemoveFault := fun _ => .completed

/-- The eviction loop: oldest first, skipping active and unfinished operations. -/
def evictLoop (faults : EvictionFaults) (max : Nat) :
    Nat → List Store.StoredOperationInfo → Memory → Store → Memory × Store × Except String Unit
  | _, [], memory, store => (memory, store, .ok ())
  | remaining, info :: rest, memory, store =>
    if remaining ≤ max then (memory, store, .ok ())
    else if info.id ∈ memory.active then evictLoop faults max remaining rest memory store
    else
      match store.loadOperation documents info.id (faults.load info.id) with
      | .error _ => evictLoop faults max remaining rest memory store
      | .ok operation =>
        if operation.status = .pending ∧ (memory.terminalErrors.lookup info.id).isNone then
          evictLoop faults max remaining rest memory store
        else
          match store.removeOperation info.id (faults.remove info.id) with
          | (store, .error message) => (memory, store, .error message)
          | (store, .ok _) =>
            evictLoop faults max (remaining - 1) rest
              { memory with terminalErrors := memory.terminalErrors.erase info.id } store

def evictOperationsLocked (memory : Memory) (store : Store) (max : Nat) (faults : EvictionFaults) :
    Memory × Store × Except String Unit :=
  match store.operationInfos faults.infos with
  | .error message => (memory, store, .error message)
  | .ok infos =>
    if infos.length ≤ max then (memory, store, .ok ())
    else
      evictLoop documents faults max infos.length
        (infos.insertionSort fun left right => left.modTime ≤ right.modTime) memory store

/-! ## Handlers -/

/-- The file-system outcomes of one handler. -/
structure HandlerFaults where
  loadOperation : Bool := false
  loadRequest : Bool := false
  loadCatalog : String → Bool := fun _ => false
  eviction : EvictionFaults := {}
  listOperations : Bool := false
  putRequest : WriteFault := .completed
  saveOperation : WriteFault := .completed
  /-- The modification time given to a written operation file. -/
  modTime : Time := 0

/-- What a critical section leaves behind. -/
structure Outcome where
  memory : Memory
  store : Store
  response : Response

def unavailable (status : Nat) (message : String) : Response :=
  writeHTTPFailure status .unavailable message

/-- What `handleCatalogSet` computes from the request before it takes `s.mu`. -/
def catalogSetRequest (request : PostRequest) : Except Response (String × Request × Bytes) :=
  let invalid : Response := writeHTTPFailure 400 .policy "invalid catalog request"
  let tooLarge : Response := writeHTTPFailure 413 .policy "catalog request exceeds size limit"
  let mediaTypeError : Response :=
    writeHTTPFailure 415 .policy "content type must be application/json"
  if request.rawQuery ≠ "" then
    .error (writeHTTPFailure 400 .policy "queries are not supported")
  else if request.contentEncoding ≠ "" ∧ !equalFold request.contentEncoding "identity" then
    .error (writeHTTPFailure 415 .policy "content encoding is not supported")
  else
    match request.mediaType with
    | none => .error mediaTypeError
    | some (mediaType, parameters) =>
      let charset := (parameters.lookup "charset").getD ""
      if mediaType ≠ "application/json" ∨ 1 < parameters.length ∨
          (parameters.length = 1 ∧ (parameters.lookup "charset").isNone) ∨
          (charset ≠ "" ∧ !equalFold charset "utf-8") then
        .error mediaTypeError
      else if (maxRequestBytes : Int) < request.contentLength then .error tooLarge
      else if maxRequestBytes < request.body.length then .error tooLarge
      else
        match documents.decodeRequest request.body with
        | .error _ => .error invalid
        | .ok decoded =>
          match documents.canonicalRequest decoded with
          | .error _ => .error invalid
          | .ok canonical =>
            .ok (operationIDFromDigest (documents.fromBytes canonical), decoded, canonical)

/-- Save a fresh pending record and start its generation; the common end of admission. -/
def markPendingLocked (memory : Memory) (store : Store) (id : String) (decoded : Request)
    (faults : HandlerFaults) : Outcome :=
  let operation := pendingOperation settings id
  match store.saveOperation documents operation faults.saveOperation faults.modTime with
  | (store, .error _) =>
    { memory, store, response := unavailable 500 "catalog service storage is unavailable" }
  | (store, .ok _) =>
    { memory := startLocked documents settings memory id decoded
      store
      response := writePending 202 operation }

/--
The checks of `handleCatalogSet` for an operation that is not stored yet:
capacity, eviction down to one free place, quota.
-/
def reserveOperationLocked (memory : Memory) (store : Store) (id : String)
    (faults : HandlerFaults) : Except Outcome (Memory × Store) :=
  if !generationCapacityAvailableLocked settings memory id then
    .error
      { memory, store, response := unavailable 503 generationAdmissionFailureMessage }
  else
    match evictOperationsLocked documents memory store (settings.maxStoredOperations - 1)
        faults.eviction with
    | (memory, store, .error _) =>
      .error
        { memory, store, response := unavailable 500 "catalog operation storage is unavailable" }
    | (memory, store, .ok _) =>
      match store.listOperations faults.listOperations with
      | .error _ =>
        .error
          { memory, store,
            response := unavailable 500 "catalog operation storage is unavailable" }
      | .ok ids =>
        if settings.maxStoredOperations ≤ ids.length then
          .error
            { memory, store,
              response := unavailable 503 "catalog operation quota is exhausted" }
        else .ok (memory, store)

/-- The critical section of `handleCatalogSet`. -/
def catalogSetLocked (memory : Memory) (store : Store) (now : Time) (id : String)
    (decoded : Request) (canonical : Bytes) (faults : HandlerFaults) : Outcome :=
  let storageUnavailable := unavailable 500 "catalog service storage is unavailable"
  if (memory.terminalErrors.lookup id).isSome then
    { memory, store, response := unavailable 500 "catalog operation could not be persisted" }
  else
    match store.loadOperation documents id faults.loadOperation with
    | .error .notExist =>
      match reserveOperationLocked documents settings memory store id faults with
      | .error outcome => outcome
      | .ok (memory, store) =>
        match store.putRequest documents id canonical faults.putRequest with
        | (store, .error _) => { memory, store, response := storageUnavailable }
        | (store, .ok _) => markPendingLocked documents settings memory store id decoded faults
    | .error (.other _) =>
      match store.putRequest documents id canonical faults.putRequest with
      | (store, .error _) => { memory, store, response := storageUnavailable }
      | (store, .ok _) =>
        { memory, store,
          response := unavailable 500 "catalog operation state is unavailable" }
    | .ok operation =>
      match store.putRequest documents id canonical faults.putRequest with
      | (store, .error _) => { memory, store, response := storageUnavailable }
      | (store, .ok _) =>
        if operation.status = .completed ∧
            cachedResultFresh documents settings store decoded operation.result now
              faults.loadCatalog then
          { memory, store
            response :=
              { status := 200
                body := operation.result.elim (.operation operation) .result } }
        else if !generationCapacityAvailableLocked settings memory id then
          { memory, store, response := unavailable 503 generationAdmissionFailureMessage }
        else if operation.status ≠ .pending then
          markPendingLocked documents settings memory store id decoded faults
        else
          { memory := startLocked documents settings memory id decoded
            store
            response := writePending 202 operation }

/-- What `handleOperation` computes before it takes `s.mu`. -/
def operationRequest (request : GetRequest) : Except Response String :=
  if request.rawQuery ≠ "" then
    .error (writeHTTPFailure 400 .policy "queries are not supported")
  else
    let id := trimPrefix request.path "/v1/operations/"
    if !validOperationID id || containsChar id '/' then
      .error (unavailable 404 "operation not found")
    else .ok id

/-- The answer of `handleOperation` for the operation it ends with. -/
def operationResponse (operation : Operation) : Response where
  status := 200
  body := .operation operation
  retryAfter := if operation.status = .pending then some operation.retryAfterSeconds else none

/-- The end of `handleOperation`: a pending operation is started before it is answered. -/
def answerOperationLocked (memory : Memory) (store : Store) (id : String) (decoded : Request)
    (operation : Operation) : Outcome :=
  if operation.status = .pending then
    if !generationCapacityAvailableLocked settings memory id then
      { memory, store, response := unavailable 503 generationAdmissionFailureMessage }
    else
      { memory := startLocked documents settings memory id decoded
        store
        response := operationResponse operation }
  else { memory, store, response := operationResponse operation }

/-- The critical section of `handleOperation`. -/
def operationLocked (memory : Memory) (store : Store) (now : Time) (id : String)
    (faults : HandlerFaults) : Outcome :=
  let refused (status : Nat) (message : String) : Outcome :=
    { memory, store, response := unavailable status message }
  if (memory.terminalErrors.lookup id).isSome then
    refused 500 "catalog operation could not be persisted"
  else
    match store.loadOperation documents id faults.loadOperation with
    | .error .notExist => refused 404 "operation not found"
    | .error (.other _) => refused 500 "catalog operation state is unavailable"
    | .ok operation =>
      match store.loadRequest documents id faults.loadRequest with
      | .error _ => refused 500 "catalog operation request is unavailable"
      | .ok decoded =>
        if operationID documents decoded ≠ .ok id then
          refused 500 "catalog operation request is invalid"
        else if operation.status = .completed ∧
            !cachedResultFresh documents settings store decoded operation.result now
              faults.loadCatalog then
          if !generationCapacityAvailableLocked settings memory id then
            refused 503 generationAdmissionFailureMessage
          else
            match store.saveOperation documents (pendingOperation settings id)
                faults.saveOperation faults.modTime with
            | (store, .error _) =>
              { memory, store,
                response := unavailable 500 "catalog service storage is unavailable" }
            | (store, .ok _) =>
              answerOperationLocked documents settings memory store id decoded
                (pendingOperation settings id)
        else answerOperationLocked documents settings memory store id decoded operation

/-! ## Completion -/

/-- The queue loop of `generationDone`; `none` when sending the slot token blocks. -/
def launchNextLocked : List String → Memory → Option Memory
  | [], memory => some { memory with queue := [] }
  | nextID :: rest, memory =>
    let dequeued :=
      { memory with queue := rest, queued := memory.queued.erase nextID }
    match memory.queued.lookup nextID with
    | none => launchNextLocked rest dequeued
    | some request =>
      if (memory.terminalErrors.lookup nextID).isSome then launchNextLocked rest dequeued
      else if memory.slots < settings.maxConcurrent then
        some (launchGenerationLocked { dequeued with slots := memory.slots + 1 } nextID request)
      else none

/-- The critical section of `generationDone`; `none` when a channel operation blocks. -/
def generationDoneLocked (memory : Memory) (id : String) : Option Memory :=
  if memory.slots = 0 then none
  else
    let released :=
      { memory with active := memory.active.erase id, slots := memory.slots - 1 }
    if memory.closed then some released
    else launchNextLocked settings memory.queue released

/-- The save of `finishOperation`; the flag tells whether it succeeded. -/
def finishOperationLocked (memory : Memory) (store : Store) (operation : Operation)
    (fault : WriteFault) (modTime : Time) : Memory × Store × Bool :=
  match store.saveOperation documents operation fault modTime with
  | (store, .error message) =>
    ({ memory with terminalErrors := memory.terminalErrors.insert operation.id message },
      store, false)
  | (store, .ok _) =>
    ({ memory with terminalErrors := memory.terminalErrors.erase operation.id }, store, true)

/-! ## Garbage collection -/

/-- `time.Time.Sub`, which saturates at the range of `time.Duration`. -/
def timeSub (later earlier : Time) : Duration :=
  max (-(2 ^ 63)) (min (2 ^ 63 - 1) (later - earlier))

/-- The file-system outcomes of the reads of `gcCatalogsLocked`. -/
structure CollectionFaults where
  listOperations : Bool := false
  loadOperation : String → Bool := fun _ => false
  loadRequest : String → Bool := fun _ => false
  readCatalogs : Bool := false

/-- The document names that one stored operation keeps alive. -/
def referencedBy (store : Store) (now : Time) (faults : CollectionFaults) (id : String) :
    List String :=
  match store.loadOperation documents id (faults.loadOperation id) with
  | .error _ => []
  | .ok operation =>
    match operation.status, operation.result with
    | .completed, some result =>
      match store.loadRequest documents id (faults.loadRequest id) with
      | .error _ => []
      | .ok request =>
        match documents.requestDigest request with
        | .error _ => []
        | .ok requestDigest =>
          match verify documents settings result.jws requestDigest
              request.coreSnapshotDigest now with
          | .error _ => []
          | .ok payload => payload.catalogs.map fun reference => encoded reference.sha256
    | _, _ => []

/-- `gcCatalogsLocked` up to its directory read: what it keeps and what it will look at. -/
def beginCollection (store : Store) (now : Time) (faults : CollectionFaults) :
    Except String (List String × List String) :=
  match store.listOperations faults.listOperations with
  | .error message => .error message
  | .ok ids =>
    if faults.readCatalogs then .error inputOutputError
    else
      .ok (ids.flatMap (referencedBy documents settings store now faults),
        fileNames store.catalogs)

/-- The file-system outcome for one entry of `removeCatalogsExcept`. -/
inductive EntryFault where
  | completed
  /-- `entry.Info` fails. -/
  | info
  /-- `os.Remove` fails. -/
  | remove
deriving DecidableEq

/-- One iteration of `removeCatalogsExcept`. -/
def removeCatalogEntry (store : Store) (referenced : List String) (now : Time) (name : String)
    (fault : EntryFault) : Store × Except String Unit :=
  if !validSHA256Hex name then (store, .ok ())
  else if name ∈ referenced then (store, .ok ())
  else
    match store.catalogs.lookup name with
    | none => (store, .error "file does not exist")
    | some file =>
      if fault = .info then (store, .error inputOutputError)
      else if 0 < settings.catalogSetLifetime ∧
          timeSub now file.modTime < settings.catalogSetLifetime then (store, .ok ())
      else if fault = .remove then (store, .error inputOutputError)
      else ({ store with catalogs := store.catalogs.erase name }, .ok ())

/-! ## Restart -/

/-- The file-system outcomes of `resumePending`. -/
structure ResumeFaults where
  listOperations : Bool := false
  loadOperation : String → Bool := fun _ => false
  loadRequest : String → Bool := fun _ => false

/-- The errors of `resumePending`. -/
inductive ResumeError where
  | list (message : String)
  | operation (error : StoreError)
  | request (error : StoreError)
  | mismatched (id : String)
  /-- `persisted pending operation count %d exceeds admission limit %d`. -/
  | admissionLimit (count limit : Nat)
deriving DecidableEq

/-- The loop of `resumePending` over the stored operations. -/
def pendingRequests (store : Store) (faults : ResumeFaults) :
    List String → Except ResumeError (List (String × Request))
  | [] => .ok []
  | id :: rest =>
    match store.loadOperation documents id (faults.loadOperation id) with
    | .error error => .error (.operation error)
    | .ok operation =>
      match store.loadRequest documents id (faults.loadRequest id) with
      | .error error => .error (.request error)
      | .ok request =>
        if operationID documents request ≠ .ok id then .error (.mismatched id)
        else
          match pendingRequests store faults rest with
          | .error error => .error error
          | .ok pending =>
            .ok (if operation.status = .pending then (id, request) :: pending else pending)

/-- `resumePending` on the memory of a new service. -/
def resumePending (store : Store) (faults : ResumeFaults) : Except ResumeError Memory :=
  match store.listOperations faults.listOperations with
  | .error message => .error (.list message)
  | .ok ids =>
    match pendingRequests documents store faults ids with
    | .error error => .error error
    | .ok pending =>
      if settings.maxPending < pending.length then
        .error (.admissionLimit pending.length settings.maxPending)
      else
        .ok (pending.foldl
          (fun memory item => startLocked documents settings memory item.1 item.2)
          Memory.initial)

end Locked

end DalecHomebrew.CatalogService
