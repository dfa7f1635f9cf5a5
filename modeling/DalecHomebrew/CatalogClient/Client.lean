import DalecHomebrew.CatalogAuth.Verify

/-!
# The catalog client

`internal/catalogclient/client.go`: the frontend's side of the catalog-service
protocol.  `new` settles which keys and which sequence floors a client trusts, and
`resolve` submits a request, polls the operation, verifies the signed set and fetches
every catalog it refers to.  The server, the clock and the waiting between polls are an
`Environment`, so that a statement about every environment is one about every behaviour
of the server.
-/

namespace DalecHomebrew.CatalogClient

open Catalog CatalogAuth CatalogKeys
open CatalogService (Documents validateCatalogSetResult validateOperation)
open Foundation Foundation.GoString Homebrew.Metadata

def second : Duration := 1000000000
def defaultPollingDeadline : Duration := 30 * 60 * second
def maxPollingDeadline : Duration := 24 * 3600 * second
def defaultRetryAfter : Duration := 2 * second
def maxRetryAfter : Duration := 60 * second

/-- The functions of other packages that the client calls. -/
structure Library (PublicKey : Type) where
  net : NetLibrary
  documents : Documents
  signatures : SignatureLibrary PublicKey
  policies : PolicyLibrary PublicKey
  /-- `URL.String`. -/
  urlString : ParsedURL → String
  /-- The strict JSON decoder of an operation. -/
  unmarshalOperation : Bytes → Except String Operation
  /-- The strict JSON decoder of a completed result. -/
  unmarshalCatalogSetResult : Bytes → Except String CatalogSetResult

structure Config (PublicKey : Type) where
  origin : String
  keys : KeySet PublicKey
  requiredKeyID : String
  allowKeyOverlap : Bool
  keyPolicy : Option Policy
  keyPolicyDigest : String
  pollingDeadline : Duration
  minimumSequences : Table TapID UInt64

structure Client (PublicKey : Type) where
  origin : String
  keys : KeySet PublicKey
  acceptedKeyIDs : List String
  allowKeyOverlap : Bool
  keyPolicy : Option Policy
  pollingDeadline : Duration
  minimumSequence : Table TapID UInt64
deriving DecidableEq

structure Result where
  payload : CatalogSetPayload
  catalogs : Table TapID TapCatalog
  jws : Bytes
  signatures : List SignatureInfo
  minimumSequences : Table TapID UInt64
  setPayloadDigest : String
  setEnvelopeDigest : String
deriving DecidableEq

section Client

variable {PublicKey : Type} (library : Library PublicKey)

/-! ## Construction -/

/-- `catalog.ValidateServiceOrigin`. -/
def validateServiceOrigin (value : String) : Except String Unit := do
  validateHTTPSURL library.net value false
  let parsed ← library.net.parseURL value
  if parsed.path ≠ "" ∨ parsed.rawPath ≠ "" ∨ parsed.rawQuery ≠ "" ∨ parsed.forceQuery ∨
      parsed.fragment ≠ "" then
    throw "catalog service origin must not contain a path, query, or fragment"

def parseOrigin (raw : String) : Except String ParsedURL := do
  validateServiceOrigin library raw
  let parsed ← library.net.parseURL raw
  return { parsed with path := "", rawPath := "" }

/-- What a key policy, or the configuration without one, says about trust. -/
structure Trust (PublicKey : Type) where
  keys : KeySet PublicKey
  requiredKeyID : String
  acceptedKeyIDs : List String
  allowKeyOverlap : Bool
  keyPolicy : Option Policy
  floors : Table TapID UInt64

/-- The caller's floors have to reach the floor of the policy for every tap it names. -/
def checkFloors (supplied policyFloors : Table TapID UInt64) : Except String Unit :=
  policyFloors.entries.forM fun entry =>
    match supplied.lookup entry.1 with
    | some floor =>
      if floor < entry.2 then
        throw ("catalog sequence floor for " ++ entry.1 ++ " is below key-policy floor " ++
          decimal entry.2.toNat)
      else pure ()
    | none =>
      throw ("catalog sequence floor for " ++ entry.1 ++ " is below key-policy floor " ++
        decimal entry.2.toNat)

/-- The caller's floors, or those of the policy in place of none. -/
def chooseFloors (supplied policyFloors : Table TapID UInt64) :
    Except String (Table TapID UInt64) :=
  if supplied.keys = [] then .ok policyFloors
  else do
    checkFloors supplied policyFloors
    return supplied

/-- The part of `New` that reads the key policy. -/
def trustPolicy (config : Config PublicKey) (policy : Policy) : Except String (Trust PublicKey) := do
  withContext "catalog key policy" (validate library.policies policy)
  let digest ← digest library.policies policy
  if config.keyPolicyDigest ≠ "" ∧ config.keyPolicyDigest ≠ digest then
    throw ("catalog key policy digest " ++ digest ++ " does not match " ++ config.keyPolicyDigest)
  let canonicalPolicy ← canonical library.policies policy
  let snapshot ← decode library.policies canonicalPolicy
  let keys ← snapshot.keySet library.policies
  let floors ← chooseFloors config.minimumSequences snapshot.minimumSequences
  return {
    keys
    requiredKeyID := snapshot.requiredKeyID
    acceptedKeyIDs := snapshot.acceptedKeyIDs
    allowKeyOverlap := snapshot.allowUnknownOverlapSigners
    keyPolicy := some snapshot
    floors }

def trust (config : Config PublicKey) : Except String (Trust PublicKey) :=
  match config.keyPolicy with
  | some policy => trustPolicy library config policy
  | none =>
    if config.keyPolicyDigest ≠ "" then
      .error "catalog key policy digest was supplied without a policy"
    else
      .ok {
        keys := config.keys, requiredKeyID := config.requiredKeyID,
        acceptedKeyIDs := [config.requiredKeyID], allowKeyOverlap := config.allowKeyOverlap,
        keyPolicy := none, floors := config.minimumSequences }

/-- One step of the loop that copies the floors. -/
def copyFloor (floors : Table TapID UInt64) (entry : (_ : TapID) × UInt64) :
    Except String (Table TapID UInt64) :=
  if !(TapID.validate entry.1).toBool ∨ TapID.isCore entry.1 ∨ entry.2 = 0 then
    .error ("invalid catalog sequence floor " ++ quote entry.1 ++ "=" ++ decimal entry.2.toNat)
  else .ok (floors.insert entry.1 entry.2)

/-- `New`; the HTTP client, the clock and the waiting are part of the environment. -/
def new (config : Config PublicKey) : Except String (Client PublicKey) := do
  let origin ← parseOrigin library config.origin
  let trust ← trust library config
  withContext "catalog required key ID" (validateKeyID trust.requiredKeyID)
  trust.acceptedKeyIDs.forM fun keyID =>
    withContext "catalog accepted key ID" (validateKeyID keyID)
  let deadline :=
    if config.pollingDeadline = 0 then defaultPollingDeadline else config.pollingDeadline
  if deadline ≤ 0 ∨ maxPollingDeadline < deadline then
    throw "catalog polling deadline is outside 0..24h0m0s"
  let floor ← trust.floors.entries.foldlM copyFloor ∅
  return {
    origin := library.urlString origin, keys := trust.keys, acceptedKeyIDs := trust.acceptedKeyIDs,
    allowKeyOverlap := trust.allowKeyOverlap, keyPolicy := trust.keyPolicy,
    pollingDeadline := deadline, minimumSequence := floor }

/-! ## The environment -/

/-- An HTTP response; `readError` ends the body in place of the end of the stream. -/
structure Reply where
  statusCode : Nat
  contentLength : Int := -1
  retryAfter : String := ""
  body : Bytes
  readError : Option String := none
  closeError : Option String := none

/-- One round of polling: the wait, and the answer to the request after it. -/
structure PollTurn where
  sleep : Duration → Except String Unit
  reply : Except String Reply

/-- One fetch of a catalog document. -/
structure FetchTurn where
  /-- `http.NewRequestWithContext`. -/
  constructed : Except String Unit := .ok ()
  reply : Except String Reply

/--
Everything outside the client during one `Resolve`.  The rounds of polling are those
before the deadline of the context; the wait after the last of them fails.
-/
structure Environment where
  posted : Except String Reply
  polls : List PollTurn
  /-- What the configured clock answers. -/
  now : Time
  /-- What `time.Now` answers. -/
  wallClock : Time
  fetches : Nat → FetchTurn

/-! ## Operations -/

/-- A Go duration product, which wraps at 64 bits. -/
def durationProduct (value unit : Int) : Duration := (value * unit).bmod (2 ^ 64)

def parseRetryAfter (value : String) : Duration :=
  match atoi (trimSpace value) with
  | none => 0
  | some seconds => if seconds ≤ 0 then 0 else durationProduct seconds second

structure Response where
  status : Nat
  body : Bytes
  retryAfter : Duration

/-- The reading of a response in `Client.do`. -/
def readResponse (method : String) (reply : Except String Reply) : Except String Response := do
  let reply ← withContext ("catalog service " ++ method) reply
  -- Behind the limit the reader reports the end of the stream instead of an error.
  if reply.body.length ≤ maxOperationBytes ∧ reply.readError.isSome then
    throw (reply.readError.getD "")
  if maxOperationBytes < reply.body.length then throw "catalog service response exceeds limit"
  return {
    status := reply.statusCode, body := reply.body, retryAfter := parseRetryAfter reply.retryAfter }

/-- `catalog.DecodeCatalogSetResult`. -/
def decodeCatalogSetResult (data : Bytes) : Except String CatalogSetResult := do
  if maxOperationBytes < data.length then
    throw ("catalog-set result exceeds " ++ decimal maxOperationBytes ++ " bytes")
  let result ← withContext "decode catalog-set result" (library.unmarshalCatalogSetResult data)
  withContext "validate catalog-set result"
    (joinErrors (validateCatalogSetResult library.documents result))
  return result

/-- `catalog.DecodeOperation`. -/
def decodeOperation (data : Bytes) : Except String Operation := do
  if maxOperationBytes < data.length then
    throw ("catalog operation exceeds " ++ decimal maxOperationBytes ++ " bytes")
  let operation ← withContext "decode catalog operation" (library.unmarshalOperation data)
  withContext "validate catalog operation"
    (joinErrors (validateOperation library.documents operation))
  return operation

def FailureCode.text : FailureCode → String
  | .timeout => "timeout"
  | .unavailable => "unavailable"
  | .invalidTap => "invalid-tap"
  | .missingBottle => "missing-bottle"
  | .policy => "policy"
  | .signature => "signature"

/-- `OperationError.Error`. -/
def operationError (failure : Catalog.Failure) : String :=
  if failure.message = "" then "catalog operation failed: " ++ FailureCode.text failure.code
  else
    "catalog operation failed (" ++ FailureCode.text failure.code ++ "): " ++ failure.message

/-- The wait before the next poll. -/
def pollDelay (operation : Operation) (headerRetry : Duration) : Duration :=
  let requested := durationProduct operation.retryAfterSeconds second
  let delay := if requested = 0 then headerRetry else requested
  let delay := if delay ≤ 0 then defaultRetryAfter else delay
  if maxRetryAfter < delay then maxRetryAfter else delay

def deadlineExceeded (operation : Operation) (message : String) : String :=
  "catalog operation " ++ quote operation.id ++ " polling deadline: " ++ message

/-- The switch over the status of an operation; a pending one goes on. -/
def settle (operation : Operation) (next : Except String CatalogSetResult) :
    Except String CatalogSetResult :=
  match operation.status with
  | .completed =>
    -- A decoded operation that is completed has a result, and a failed one a failure.
    match operation.result with
    | some result => .ok result
    | none => .error "nil pointer dereference"
  | .failed =>
    match operation.failure with
    | some failure => .error (operationError failure)
    | none => .error "nil pointer dereference"
  | .pending => next

/-- `Client.poll`. -/
def poll : Operation → Duration → List PollTurn → Except String CatalogSetResult
  | operation, _, [] =>
    settle operation (.error (deadlineExceeded operation "context deadline exceeded"))
  | operation, headerRetry, turn :: rest =>
    settle operation do
      match turn.sleep (pollDelay operation headerRetry) with
      | .error message => throw (deadlineExceeded operation message)
      | .ok _ => pure ()
      let response ← readResponse "GET" turn.reply
      if response.status ≠ 200 then
        throw ("catalog operation " ++ quote operation.id ++ " returned HTTP " ++
          decimal response.status)
      let nextOperation ← decodeOperation library response.body
      if nextOperation.id ≠ operation.id then
        throw ("catalog operation ID changed from " ++ quote operation.id ++ " to " ++
          quote nextOperation.id)
      poll nextOperation response.retryAfter rest

/-- Submission and polling. -/
def submit (environment : Environment) : Except String CatalogSetResult := do
  let response ← readResponse "POST" environment.posted
  if response.status = 200 then decodeCatalogSetResult library response.body
  else if response.status = 202 then do
    let operation ← decodeOperation library response.body
    poll library operation response.retryAfter environment.polls
  else throw ("catalog service POST returned HTTP " ++ decimal response.status)

/-! ## Bindings -/

/-- The roots that a result was requested for. -/
def resultRoots (closure : ClosureResult) : List FormulaID :=
  match closure.requestedMappings with
  | none => closure.requested
  | some [] => closure.requested
  | some mappings => mappings.map RequestedMapping.requested

/-- `catalog.ValidateCatalogSetBinding`. -/
def validateCatalogSetBinding (payload : CatalogSetPayload) (request : Request) :
    Except String Unit := do
  withContext "catalog-set payload" (library.documents.validateCatalogSetPayload payload)
  withContext "catalog request" (validateRequest request)
  let requestDigest ← library.documents.requestDigest request
  if payload.requestDigest ≠ requestDigest then
    throw ("payload request_digest " ++ payload.requestDigest ++ " does not match request " ++
      requestDigest)
  if payload.coreSnapshotDigest ≠ request.coreSnapshotDigest then
    throw ("payload core_snapshot_digest " ++ payload.coreSnapshotDigest ++
      " does not match request " ++ request.coreSnapshotDigest)
  let targets ← normalizedRequestTargets request
  let requestedByPlatform : Table String (List FormulaID) := targets.foldl
    (fun table target => table.insert target.platform.key
      (sortByKey (fun id => id) (target.coreRoots ++ target.roots))) ∅
  if payload.results.length ≠ requestedByPlatform.keys.length then
    throw ("payload has " ++ decimal payload.results.length ++ " platform results for " ++
      decimal requestedByPlatform.keys.length ++ " requested platforms")
  payload.results.forM fun result =>
    match requestedByPlatform.lookup result.platform.key with
    | none => throw ("payload contains unrequested platform " ++ result.platform.key)
    | some requestedRoots =>
      if sortByKey (fun id => id) (resultRoots result.closure) ≠ requestedRoots then
        throw ("payload platform " ++ result.platform.key ++
          " requested roots do not match request target")
      else pure ()

/-- `catalog.VerifyCatalogReference`. -/
def verifyCatalogReference (reference : CatalogReference) (catalog : TapCatalog) :
    Except String Unit := do
  withContext "catalog reference" (validateCatalogReference library.net reference)
  withContext "tap catalog" (validateTapCatalog library.net catalog)
  if reference.tap ≠ catalog.tap then
    throw "catalog tap source does not match signed reference"
  if reference.publishedAt ≠ catalog.publishedAt then
    throw "catalog published_at does not match signed reference"
  if reference.sequence ≠ catalog.sequence then
    throw ("catalog sequence " ++ decimal catalog.sequence.toNat ++
      " does not match signed reference " ++ decimal reference.sequence.toNat)
  let data ← library.documents.canonicalTapCatalog catalog
  if (data.length : Int) ≠ reference.size then
    throw ("catalog size " ++ decimal data.length ++ " does not match signed size " ++
      decimalInt reference.size)
  if library.documents.fromBytes data ≠ reference.sha256 then
    throw ("catalog digest " ++ library.documents.fromBytes data ++
      " does not match signed digest " ++ reference.sha256)

/-! ## Documents -/

/-- The body of a catalog response, read up to one byte behind the signed size. -/
def readDocument (reference : CatalogReference) (reply : Reply) : Except String Bytes := do
  if reply.statusCode ≠ 200 then
    throw ("fetch catalog " ++ reference.tap.id ++ " returned HTTP " ++ decimal reply.statusCode)
  if 0 ≤ reply.contentLength ∧ reply.contentLength ≠ reference.size then
    throw ("catalog " ++ reference.tap.id ++ " Content-Length " ++
      decimalInt reply.contentLength ++ " does not match signed size " ++
      decimalInt reference.size)
  let data := reply.body.take (reference.size + 1).toNat
  if (reply.body.length : Int) ≤ reference.size ∧ reply.readError.isSome then
    throw (reply.readError.getD "")
  if reply.closeError.isSome then throw (reply.closeError.getD "")
  if (data.length : Int) ≠ reference.size then
    throw ("catalog " ++ reference.tap.id ++ " size " ++ decimal data.length ++
      " does not match signed size " ++ decimalInt reference.size)
  if library.documents.fromBytes data ≠ reference.sha256 then
    throw ("catalog " ++ reference.tap.id ++ " digest " ++ library.documents.fromBytes data ++
      " does not match signed digest " ++ reference.sha256)
  return data

/-- The state of the loop over the references. -/
structure FetchLoop where
  catalogs : Table TapID TapCatalog := ∅
  aggregate : Int := 0

def fetchCatalog (client : Client PublicKey) (fetches : Nat → FetchTurn) (state : FetchLoop)
    (entry : CatalogReference × Nat) :
    Except String FetchLoop := do
  let reference := entry.1
  library.documents.validateCatalogReferenceOrigin reference client.origin
  let floor := (client.minimumSequence.lookup reference.tap.id).getD 0
  if 0 < floor ∧ reference.sequence < floor then
    throw ("catalog sequence rollback for " ++ reference.tap.id ++ ": " ++
      decimal reference.sequence.toNat ++ " is below " ++ decimal floor.toNat)
  if maxAggregateCatalogBytes - reference.size < state.aggregate then
    throw "aggregate catalog bytes exceed limit"
  (fetches entry.2).constructed
  let reply ← withContext ("fetch catalog " ++ reference.tap.id) (fetches entry.2).reply
  let data ← readDocument library reference reply
  let document ← withContext ("decode catalog " ++ reference.tap.id)
    (library.documents.decodeTapCatalog data)
  verifyCatalogReference library reference document
  if (state.catalogs.lookup reference.tap.id).isSome then
    throw ("duplicate catalog " ++ reference.tap.id)
  return {
    catalogs := state.catalogs.insert reference.tap.id document
    aggregate := state.aggregate + reference.size }

/-- `Client.fetchCatalogs`. -/
def fetchCatalogs (client : Client PublicKey) (fetches : Nat → FetchTurn)
    (references : List CatalogReference) :
    Except String (Table TapID TapCatalog) := do
  let final ← references.zipIdx.foldlM (fetchCatalog library client fetches) {}
  return final.catalogs

/-! ## Resolve -/

def authorize (client : Client PublicKey) (payload : CatalogSetPayload) : Except String Unit :=
  match client.keyPolicy with
  | none => .ok ()
  | some policy =>
    withContext "authorize catalog-set components"
      (policy.authorizePayload library.policies payload)

/-- `Client.Resolve`. -/
def resolve (client : Client PublicKey) (request : Request) (environment : Environment) :
    Except String Result := do
  let requestDigest ← library.documents.requestDigest request
  let result ← submit library environment
  if result.requestDigest ≠ requestDigest then
    throw ("catalog result request digest " ++ result.requestDigest ++ " does not match " ++
      requestDigest)
  let verified ← verifyAccepted library.documents library.signatures result.jws client.keys
    client.acceptedKeyIDs requestDigest request.coreSnapshotDigest environment.now
    environment.wallClock client.allowKeyOverlap
  withContext "catalog-set request binding"
    (validateCatalogSetBinding library verified.payload request)
  let payloadDigest ← library.documents.catalogSetPayloadDigest verified.payload
  if result.payloadDigest ≠ payloadDigest then
    throw ("catalog result payload digest " ++ result.payloadDigest ++
      " does not match authenticated payload " ++ payloadDigest)
  authorize library client verified.payload
  let catalogs ← fetchCatalogs library client environment.fetches verified.payload.catalogs
  return {
    payload := verified.payload, catalogs, jws := result.jws, signatures := verified.signatures,
    minimumSequences := client.minimumSequence, setPayloadDigest := result.payloadDigest,
    setEnvelopeDigest := library.documents.fromBytes result.jws }

end Client

end DalecHomebrew.CatalogClient
