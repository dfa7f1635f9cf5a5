import DalecHomebrew.Catalog.Identity
import DalecHomebrew.Foundation.Container

/-!
# The persistent catalog store

`internal/catalogservice/store.go`.  Each directory of the store is a finite
table from file names to contents.  File contents are kept decoded where the
source writes and reads them with the same JSON types; modification times are
kept for the two directories whose times the service reads.

What the operating system decides is an argument: a write may fail before its
rename, leaving the directory as it was, or in the directory sync after it,
when the new file is already visible.
-/

namespace DalecHomebrew.CatalogService

open Catalog Foundation Foundation.GoString

/--
The functions of other packages that the service and its store call: the
strict JSON codecs and validators of `catalog`, `go-digest`, and the JWS
primitives of `catalogauth` and `metadata`.
-/
structure Documents where
  /-- `digest.FromBytes(data).String()`. -/
  fromBytes : Bytes → String
  decodeRequest : Bytes → Except String Request
  canonicalRequest : Request → Except String Bytes
  normalizedTargets : Request → Except String (List PlatformRequest)
  decodeTapCatalog : Bytes → Except String TapCatalog
  canonicalTapCatalog : TapCatalog → Except String Bytes
  canonicalPlatformResult : PlatformResult → Except String Bytes
  validateCatalogSetPayload : CatalogSetPayload → Except String Unit
  decodeCatalogSetPayload : Bytes → Except String CatalogSetPayload
  canonicalCatalogSetPayload : CatalogSetPayload → Except String Bytes
  validateCatalogReferenceOrigin : CatalogReference → String → Except String Unit
  decodeReferencedTapCatalog : CatalogReference → Bytes → Except String TapCatalog
  validateJWSShape : Bytes → Except String Unit
  /-- `json.Marshal` of an operation. -/
  marshalOperation : Operation → Bytes
  /-- `json.Marshal` of a tap source. -/
  marshalTapSource : TapSource → Bytes
  /-- `metadata.VerifyJWS` for one required key; the authenticated payload bytes. -/
  verifyJWS : Bytes → String → Except String Bytes
  /-- `catalogauth.Sign` with the service key. -/
  sign : CatalogSetPayload → String → Except String Bytes

/-- `requestDigest.String()` of `catalog.RequestDigest`. -/
def Documents.requestDigest (documents : Documents) (request : Request) : Except String String :=
  (documents.canonicalRequest request).map documents.fromBytes

/-- `catalog.CatalogSetPayloadDigest`. -/
def Documents.catalogSetPayloadDigest (documents : Documents)
    (payload : CatalogSetPayload) : Except String String :=
  (documents.canonicalCatalogSetPayload payload).map documents.fromBytes

/-! ## File contents -/

structure StoredOperation where
  operation : Operation
  modTime : Time
deriving DecidableEq

structure StoredCatalog where
  data : Bytes
  modTime : Time
deriving DecidableEq

structure SequenceState where
  schemaVersion : String
  tap : TapID
  sequence : UInt64
  sourceIdentity : String
deriving DecidableEq

/-- The four directories below the store root. -/
structure Store where
  operations : Table String StoredOperation
  requests : Table String Bytes
  catalogs : Table String StoredCatalog
  /-- `sequences/<owner>/<name>.json`. -/
  sequences : Table (String × String) SequenceState

def Store.empty : Store where
  operations := ∅
  requests := ∅
  catalogs := ∅
  sequences := ∅

/-- How one file write ends. -/
inductive WriteFault where
  /-- The write, its rename and the directory sync succeed. -/
  | completed
  /-- An error before the rename or link; the directory is unchanged. -/
  | unwritten
  /-- `syncDirectory` fails after the rename or link. -/
  | unsynced
  /-- The directory sync has no effect: the file system answers `EINVAL` or `ENOTSUP`, which
  `syncDirectory` ignores. -/
  | ignored
deriving DecidableEq

/-- An error of a store call, as far as the callers distinguish it. -/
inductive StoreError where
  | notExist
  | other (message : String)
deriving DecidableEq

def inputOutputError : String := "input/output error"

/-! ## Operation validation -/

/-- `catalog.validateOperationID`. -/
def validateOperationID (value : String) : List String :=
  if value = "" ∨ value = "." ∨ value = ".." ∨ maxOperationIDBytes < byteLength value then
    ["length " ++ decimal (byteLength value) ++ " is outside 1.." ++ decimal maxOperationIDBytes]
  else
    match value.toList.find? fun character =>
        !(character.isAlphanum || character == '-' || character == '_' || character == '.') with
    | some character => ["contains unsupported character " ++ quote (String.ofList [character])]
    | none => []

/-- `catalog.validateSHA256Digest`. -/
def validateSHA256Digest (value : String) : List String :=
  if !hasPrefix value "sha256:" then ["expected sha256:<hex>"]
  else
    let hexValue := (trimPrefix value "sha256:").toList
    if hexValue.length = 64 ∧ hexValue.all isLowerHex then []
    else ["expected 64 lowercase hexadecimal characters"]

/-- `catalog.ValidateFailure`; every value of `FailureCode` is a supported code. -/
def validateFailure (failure : Failure) : List String :=
  if maxFailureMessageBytes < byteLength failure.message ∨ failure.message.toList.any isControl then
    ["failure message is overlong or contains control characters"]
  else []

/-- `catalog.ValidateCatalogSetResult`. -/
def validateCatalogSetResult (documents : Documents) (result : CatalogSetResult) : List String :=
  (if result.schemaVersion = resultSchemaVersion then []
    else ["unsupported schema_version " ++ quote result.schemaVersion]) ++
  (validateSHA256Digest result.requestDigest).map ("request_digest: " ++ ·) ++
  (validateSHA256Digest result.payloadDigest).map ("payload_digest: " ++ ·) ++
  (if result.jws.length = 0 ∨ maxJWSBytes < result.jws.length then
    ["jws size " ++ decimal result.jws.length ++ " is outside 1.." ++ decimal maxJWSBytes]
  else
    match documents.validateJWSShape result.jws with
    | .ok _ => []
    | .error message => ["jws: " ++ message])

/-- `catalog.ValidateOperation`: the errors that `errors.Join` collects. -/
def validateOperation (documents : Documents) (operation : Operation) : List String :=
  (if operation.schemaVersion = operationSchemaVersion then []
    else ["unsupported schema_version " ++ quote operation.schemaVersion]) ++
  (validateOperationID operation.id).map ("id: " ++ ·) ++
  (match operation.status with
  | .pending =>
    (if operation.retryAfterSeconds < 0 ∨ 3600 < operation.retryAfterSeconds then
      ["pending operation retry_after_seconds must be omitted or in 1..3600"] else []) ++
    (if operation.result.isSome ∨ operation.failure.isSome then
      ["pending operation cannot contain result or failure"] else [])
  | .completed =>
    (if operation.retryAfterSeconds ≠ 0 ∨ operation.result.isNone ∨ operation.failure.isSome then
      ["completed operation must contain only result"] else []) ++
    (match operation.result with
    | some result => (validateCatalogSetResult documents result).map ("result: " ++ ·)
    | none => [])
  | .failed =>
    (if operation.retryAfterSeconds ≠ 0 ∨ operation.result.isSome ∨ operation.failure.isNone then
      ["failed operation must contain only failure"] else []) ++
    (match operation.failure with
    | some failure => (validateFailure failure).map ("failure: " ++ ·)
    | none => []))

/-! ## File names -/

def validSHA256Hex (value : String) : Bool :=
  value.toList.length == 64 && value.toList.all isLowerHex

def validOperationID (value : String) : Bool :=
  hasPrefix value "op-" && validSHA256Hex (trimPrefix value "op-")

/-- `digest.Digest.Encoded`. -/
def encoded (digest : String) : String := trimPrefix digest "sha256:"

def operationIDFromDigest (requestDigest : String) : String := "op-" ++ encoded requestDigest

/-- `OperationID`. -/
def operationID (documents : Documents) (request : Request) : Except String String :=
  (documents.requestDigest request).map operationIDFromDigest

/-- File names in the order `os.ReadDir` returns them. -/
def fileNames {Value : Type} (directory : Table String Value) : List String :=
  directory.keys.insertionSort (· ≤ ·)

namespace Store

variable (documents : Documents)

/-! ## Requests and operations -/

variable (store : Store)

/-- `putRequest`: an immutable file whose bytes decode as a request. -/
def putRequest (id : String) (data : Bytes) (fault : WriteFault) : Store × Except String Unit :=
  if !validOperationID id then (store, .error ("invalid operation ID " ++ quote id))
  else
    match documents.decodeRequest data with
    | .error message => (store, .error message)
    | .ok _ =>
      match store.requests.lookup id with
      | some existing =>
        if existing.length ≠ data.length then
          (store, .error "immutable catalog store entry already exists with a different size")
        else if existing = data then (store, .ok ())
        else (store, .error "immutable catalog store entry already exists with different bytes")
      | none =>
        let written := { store with requests := store.requests.insert id data }
        match fault with
        | .completed | .ignored => (written, .ok ())
        | .unwritten => (store, .error inputOutputError)
        | .unsynced => (written, .error inputOutputError)

/-- `loadRequest`; `fault` is a read error other than a missing file. -/
def loadRequest (id : String) (fault : Bool) : Except StoreError Request :=
  if !validOperationID id then .error (.other ("invalid operation ID " ++ quote id))
  else if fault then .error (.other inputOutputError)
  else
    match store.requests.lookup id with
    | none => .error .notExist
    | some data =>
      match documents.decodeRequest data with
      | .error message => .error (.other message)
      | .ok request =>
        match documents.canonicalRequest request with
        | .error message => .error (.other message)
        | .ok canonical =>
          if data = canonical then .ok request
          else .error (.other "persisted catalog request is not canonical")

/-- `saveOperation`: validate, encode, and replace the operation file. -/
def saveOperation (operation : Operation) (fault : WriteFault) (modTime : Time) :
    Store × Except String Unit :=
  match validateOperation documents operation with
  | message :: _ => (store, .error message)
  | [] =>
    if maxOperationBytes < (documents.marshalOperation operation).length then
      (store, .error "catalog operation exceeds persistence limit")
    else
      let written :=
        { store with
          operations := store.operations.insert operation.id { operation, modTime } }
      match fault with
      | .completed | .ignored => (written, .ok ())
      | .unwritten => (store, .error inputOutputError)
      | .unsynced => (written, .error inputOutputError)

/-- `loadOperation`; `fault` is a read error other than a missing file. -/
def loadOperation (id : String) (fault : Bool) : Except StoreError Operation :=
  if !validOperationID id then .error (.other ("invalid operation ID " ++ quote id))
  else if fault then .error (.other inputOutputError)
  else
    match store.operations.lookup id with
    | none => .error .notExist
    | some file =>
      match validateOperation documents file.operation with
      | message :: _ => .error (.other message)
      | [] =>
        if file.operation.id = id then .ok file.operation
        else .error (.other ("persisted operation ID " ++ quote file.operation.id ++
          " does not match " ++ quote id))

/-- `listOperations`; `fault` is an error of the directory read. -/
def listOperations (fault : Bool) : Except String (List String) :=
  if fault then .error inputOutputError
  else
    match (fileNames store.operations).find? fun id => !validOperationID id with
    | some id => .error ("catalog store contains invalid operation file " ++ quote (id ++ ".json"))
    | none => .ok (fileNames store.operations)

structure StoredOperationInfo where
  id : String
  modTime : Time
deriving DecidableEq

/-- `operationInfos`; `fault` is an error of the directory read or of a `stat`. -/
def operationInfos (fault : Bool) : Except String (List StoredOperationInfo) :=
  if fault then .error inputOutputError
  else
    .ok (((fileNames store.operations).filter validOperationID).filterMap fun id =>
      (store.operations.lookup id).map fun file => { id, modTime := file.modTime })

/-- Where `removeOperation` stops. -/
inductive RemoveFault where
  | completed
  /-- Removing the operation file fails. -/
  | operationKept
  /-- The operation file is gone, removing the request file fails. -/
  | requestKept
  /-- Both files are gone, a directory sync fails. -/
  | unsynced
  /-- Both files are gone, and `syncDirectory` ignores that a sync has no effect: that of the
  operations directory, that of the requests directory, or both. -/
  | ignored (operations requests : Bool)
deriving DecidableEq

/-- `removeOperation`: the operation file first, then its request file. -/
def removeOperation (id : String) (fault : RemoveFault) : Store × Except String Unit :=
  if !validOperationID id then (store, .error ("invalid operation ID " ++ quote id))
  else
    let withoutOperation := { store with operations := store.operations.erase id }
    let withoutBoth := { withoutOperation with requests := store.requests.erase id }
    match fault with
    | .completed | .ignored _ _ => (withoutBoth, .ok ())
    | .operationKept => (store, .error inputOutputError)
    | .requestKept => (withoutOperation, .error inputOutputError)
    | .unsynced => (withoutBoth, .error inputOutputError)

/-! ## Catalog documents -/

/-- `putCatalog`: a canonical document under its own digest, never overwritten. -/
def putCatalog (data : Bytes) (fault : WriteFault) (modTime : Time) :
    Store × Except String String :=
  match documents.decodeTapCatalog data with
  | .error message => (store, .error message)
  | .ok decoded =>
    match documents.canonicalTapCatalog decoded with
    | .error message => (store, .error message)
    | .ok canonical =>
      if data ≠ canonical then (store, .error "catalog document is not canonical")
      else
        let digest := documents.fromBytes data
        match store.catalogs.lookup (encoded digest) with
        | some existing =>
          if existing.data.length ≠ data.length then
            (store, .error "immutable catalog store entry already exists with a different size")
          else if existing.data = data then (store, .ok digest)
          else
            (store, .error "immutable catalog store entry already exists with different bytes")
        | none =>
          let written :=
            { store with catalogs := store.catalogs.insert (encoded digest) { data, modTime } }
          match fault with
          | .completed | .ignored => (written, .ok digest)
          | .unwritten => (store, .error inputOutputError)
          | .unsynced => (written, .error inputOutputError)

/-- `loadCatalog`; `fault` is a read error other than a missing file. -/
def loadCatalog (name : String) (fault : Bool) : Except StoreError Bytes :=
  if !validSHA256Hex name then .error .notExist
  else if fault then .error (.other inputOutputError)
  else
    match store.catalogs.lookup name with
    | none => .error .notExist
    | some file =>
      if encoded (documents.fromBytes file.data) ≠ name then
        .error (.other ("stored catalog digest " ++ documents.fromBytes file.data ++
          " does not match path sha256:" ++ name))
      else
        match documents.decodeTapCatalog file.data with
        | .error message => .error (.other ("decode stored catalog: " ++ message))
        | .ok decoded =>
          match documents.canonicalTapCatalog decoded with
          | .error message => .error (.other message)
          | .ok canonical =>
            if file.data = canonical then .ok file.data
            else .error (.other "stored catalog is not canonical")

/-! ## Tap sequences -/

def sequenceSchemaVersion : String := "dalec-homebrew-catalog-sequence/v2"

/-- How the file-system calls of `nextSequence` end. -/
inductive SequenceFault where
  | completed
  /-- The owner directory cannot be created or is not a private directory. -/
  | directory
  /-- Reading the sequence file fails. -/
  | read
  /-- The atomic write fails before its rename. -/
  | unwritten
  /-- The directory sync of the atomic write fails. -/
  | unsynced
deriving DecidableEq

/-- The end of `nextSequence`: allocate the number after `current`. -/
def advanceSequence (tap : TapID) (sourceIdentity : String) (current : UInt64)
    (fault : SequenceFault) : Store × Except String UInt64 :=
  if current = ~~~(0 : UInt64) then (store, .error "tap sequence exhausted")
  else
    let next := current + 1
    let state : SequenceState :=
      { schemaVersion := sequenceSchemaVersion, tap, sequence := next, sourceIdentity }
    let written :=
      { store with sequences := store.sequences.insert (tap.owner, tap.name) state }
    match fault with
    | .unwritten => (store, .error inputOutputError)
    | .unsynced => (written, .error inputOutputError)
    | _ => (written, .ok next)

def nextSequence (tap : TapID) (sourceIdentity : String) (fault : SequenceFault) :
    Store × Except String UInt64 :=
  match tap.validate with
  | .error message => (store, .error message)
  | .ok _ =>
    if tap.isCore then (store, .error "core tap cannot have a catalog-service sequence")
    else if validateSHA256Digest sourceIdentity ≠ [] then
      (store, .error "invalid catalog source identity")
    else if fault = .directory ∨ fault = .read then (store, .error inputOutputError)
    else
      match store.sequences.lookup (tap.owner, tap.name) with
      | none => store.advanceSequence tap sourceIdentity 0 fault
      | some state =>
        if state.schemaVersion ≠ sequenceSchemaVersion ∨ state.tap ≠ tap ∨
            state.sequence = 0 ∨ state.sourceIdentity = "" then
          (store, .error "persisted tap sequence is invalid")
        else if state.sourceIdentity = sourceIdentity then (store, .ok state.sequence)
        else store.advanceSequence tap sourceIdentity state.sequence fault

end Store

end DalecHomebrew.CatalogService
