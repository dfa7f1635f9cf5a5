import DalecHomebrew.Catalog.Types
import DalecHomebrew.Fetcher.Request
import DalecHomebrew.Foundation.Findings

/-!
# The bottle fetch loop

`Fetcher.fetch` of `internal/fetcher/fetch.go`: the loop over redirects, the checks
of a response, and the copy of its body into the destination.  The network, the
resolver and the clock are one `Turn` for each iteration of the loop, so that a
statement about every environment quantifies over every sequence of turns.  An
`Outcome` keeps the requests that were issued and the bytes that were written
beside the result.
-/

namespace DalecHomebrew.Fetcher

open Catalog (Bytes)
open Foundation Foundation.GoString

def evidenceSchemaVersion : String := "bottle-fetch-evidence/v1"
def maxRedirects : Nat := 5

/-- The library functions of the fetch loop. -/
structure FetchLibrary extends Library where
  /-- `URL.String`. -/
  urlString : ParsedURL → String
  /-- `URL.ResolveReference`. -/
  resolveReference : ParsedURL → ParsedURL → ParsedURL
  /-- The hexadecimal SHA-256 digest. -/
  sha256 : Bytes → String

/-! ## Evidence -/

structure Evidence where
  schemaVersion : String
  fetchPolicyVersion : String
  artifactID : String
  filename : String
  size : Int
  sha256 : String
  redactedHostSequence : List String
deriving DecidableEq

section Evidence

variable (library : Library)

def validateEvidence (evidence : Evidence) : Except String Unit :=
  joinErrors (
    finding (evidence.schemaVersion != evidenceSchemaVersion)
      ("unsupported evidence schema " ++ quote evidence.schemaVersion) ++
    finding (evidence.fetchPolicyVersion != fetchPolicyVersion)
      ("unsupported evidence fetch policy " ++ quote evidence.fetchPolicyVersion) ++
    reported (validateArtifactID evidence.artifactID) ++
    reported (validateFilename evidence.filename) ++
    finding (evidence.size ≤ 0 || maxBottleSize < evidence.size)
      ("evidence size " ++ decimalInt evidence.size ++ " is outside 1.." ++
        decimalInt maxBottleSize) ++
    (if byteLength evidence.sha256 ≠ 64 then ["evidence SHA-256 has invalid length"]
    else
      finding (!evidence.sha256.toList.all isLowerHex || toLower evidence.sha256 != evidence.sha256)
        "evidence SHA-256 is not canonical lowercase hex") ++
    finding (evidence.redactedHostSequence.isEmpty ||
        maxRedirects + 1 < evidence.redactedHostSequence.length)
      ("evidence host sequence length " ++ decimal evidence.redactedHostSequence.length ++
        " is invalid") ++
    evidence.redactedHostSequence.flatMap fun host =>
      match normalizeHostname library host with
      | .error _ => ["evidence host " ++ quote host ++ " is not canonical"]
      | .ok normalized => finding (normalized != host)
          ("evidence host " ++ quote host ++ " is not canonical"))

def approveHost (validated : ValidatedRequest) (host : String) : Except String Unit :=
  if host ∉ validated.allowedRedirectHosts then
    .error ("fetch evidence contains unapproved redirect host " ++ quote host)
  else .ok ()

/-- `VerifyEvidence`. -/
def verifyEvidence (evidence : Evidence) (request : Request) : Except String Unit := do
  validateEvidence library evidence
  let validated ← validateRequest library request
  if evidence.artifactID ≠ validated.request.artifactID ∨
      evidence.filename ≠ validated.request.filename ∨
      evidence.size ≠ validated.request.expectedSize ∨
      evidence.sha256 ≠ validated.request.sha256 then
    throw "fetch evidence does not match signed request"
  if evidence.redactedHostSequence.head? ≠ some validated.originHost then
    throw "fetch evidence host sequence does not start at signed origin"
  evidence.redactedHostSequence.tail.forM (approveHost validated)

end Evidence

/-! ## The environment -/

/--
One read of a body and the write that follows: the destination takes all of it, or
fails after the accepted bytes.
-/
structure Chunk where
  data : Bytes
  accepted : Nat := 0
  writeError : Option String := none

/--
A response with its body: the chunks that reads deliver, in order, and the error, if
any, that ends them instead of the end of the stream.
-/
structure Response where
  statusCode : Nat
  location : String := ""
  contentEncoding : List String := []
  contentLength : Int
  chunks : List Chunk
  readError : Option String := none
  closeError : Option String := none

inductive Reply where
  | failed (message : String)
  | noResponse
  | noBody
  | response (response : Response)

/-- One iteration of the loop, as the environment sees it. -/
structure Turn where
  /-- `ctx.Err`. -/
  cancelled : Option String := none
  /-- The lookup of the guarded resolver. -/
  lookup : Except String Unit := .ok ()
  /-- Whether `http.NewRequestWithContext` succeeds. -/
  constructs : Bool := true
  reply : Reply

/-! ## Responses -/

def isRedirectStatus (status : Nat) : Bool :=
  status == 301 || status == 302 || status == 303 || status == 307 || status == 308

def hasIdentityContentEncoding (values : List String) : Bool :=
  values.all fun value => equalFold (trimSpace value) "identity"

/-- `io.Copy` through a limited reader: what was written, and the error that ended it. -/
def copyBody : Nat → List Chunk → Option String → Bytes × Option String
  -- The reader that has used up its limit reports the end of the stream.
  | 0, _, _ => ([], none)
  | _ + 1, [], readError => ([], readError)
  | remaining + 1, chunk :: rest, readError =>
    let taken := chunk.data.take (remaining + 1)
    match chunk.writeError with
    | some message => (taken.take chunk.accepted, some message)
    | none =>
      let copied := copyBody (remaining + 1 - taken.length) rest readError
      (taken ++ copied.1, copied.2)

def networkError (operation host : String) : String :=
  operation ++ " bottle host " ++ quote host ++ ": network operation failed"

section Fetch

variable (library : FetchLibrary) (validated : ValidatedRequest)

/-- The target of a redirect response. -/
def redirectTarget (redirects : Nat) (current : ParsedURL) (response : Response) :
    Except String ParsedURL := do
  if maxRedirects ≤ redirects then
    throw ("bottle redirect limit of " ++ decimal maxRedirects ++ " exceeded")
  if response.location = "" then throw "bottle redirect is missing a Location header"
  if maxURLBytes < byteLength response.location ∨
      containsAny response.location (String.ofList ['#', Char.ofNat 0, '\r', '\n']) then
    throw "bottle redirect Location is invalid"
  match library.parseURL response.location with
  | .error _ => throw "bottle redirect Location is invalid"
  | .ok reference =>
    let next := library.resolveReference current reference
    let nextHost ← withContext "validate bottle redirect target"
      (validateEndpointURL library.toLibrary next)
    if nextHost ∉ validated.allowedRedirectHosts then
      throw ("redirect host " ++ quote nextHost ++ " is not in the signed allowlist")
    return next

/-- The header checks of a final response. -/
def checkResponse (host : String) (response : Response) : Except String Unit := do
  if response.statusCode ≠ 200 then
    throw ("bottle host " ++ quote host ++ " returned HTTP status " ++ decimal response.statusCode)
  if !hasIdentityContentEncoding response.contentEncoding then
    throw ("bottle host " ++ quote host ++ " returned unsupported Content-Encoding")
  if response.contentLength < -1 then
    throw ("bottle host " ++ quote host ++ " returned invalid Content-Length")
  if 0 ≤ response.contentLength ∧ response.contentLength ≠ validated.request.expectedSize then
    throw ("bottle Content-Length " ++ decimalInt response.contentLength ++
      " does not match expected size " ++ decimalInt validated.request.expectedSize)

/-- What is concluded from a copied body. -/
def concludeBody (verifyDigest : Bool) (host : String) (hostSequence : List String)
    (response : Response) (copied : Bytes × Option String) :
    Except String Evidence := do
  let expectedSize := validated.request.expectedSize
  if copied.2.isSome then throw (networkError "read" host)
  if response.closeError.isSome then throw (networkError "close" host)
  let written : Int := copied.1.length
  if expectedSize < written then
    throw ("bottle body exceeds expected size " ++ decimalInt expectedSize)
  if written ≠ expectedSize then
    throw ("bottle body size " ++ decimalInt written ++ " does not match expected size " ++
      decimalInt expectedSize)
  let actualDigest := library.sha256 copied.1
  if verifyDigest ∧ actualDigest ≠ validated.request.sha256 then
    throw "bottle SHA-256 does not match the signed digest"
  return {
    schemaVersion := evidenceSchemaVersion, fetchPolicyVersion := fetchPolicyVersion,
    artifactID := validated.request.artifactID, filename := validated.request.filename,
    size := written, sha256 := actualDigest, redactedHostSequence := hostSequence }

/-- The checks before a request; the result is the host that it goes to. -/
def admitTurn (turn : Turn) (redirects : Nat) (current : ParsedURL) (visited : List String) :
    Except String String := do
  if turn.cancelled.isSome then throw ("fetch bottle: " ++ turn.cancelled.getD "")
  if library.urlString current ∈ visited then throw "bottle redirect loop detected"
  let host ← withContext "validate bottle redirect target"
    (validateEndpointURL library.toLibrary current)
  if 0 < redirects ∧ host ∉ validated.allowedRedirectHosts then
    throw ("redirect host " ++ quote host ++ " is not in the signed allowlist")
  turn.lookup
  if !turn.constructs then throw "construct bottle request"
  return host

/-! ## The loop -/

/-- The requests that were issued, the bytes that were written, and the result. -/
structure Outcome where
  issued : List ParsedURL := []
  destination : Bytes := []
  result : Except String Evidence

/-- An outcome with one more request in front. -/
def Outcome.after (url : ParsedURL) (outcome : Outcome) : Outcome :=
  { outcome with issued := url :: outcome.issued }

def fetchLoop (environment : Nat → Turn) (verifyDigest : Bool) (redirects : Nat)
    (current : ParsedURL) (visited hostSequence : List String) :
    Outcome :=
  match admitTurn library validated (environment redirects) redirects current visited with
  | .error message => { result := .error message }
  | .ok host =>
    let hosts := hostSequence ++ [host]
    match (environment redirects).reply with
    | .failed _ => { issued := [current], result := .error (networkError "request" host) }
    | .noResponse =>
      { issued := [current]
        result := .error ("request bottle host " ++ quote host ++ ": empty HTTP response") }
    | .noBody =>
      { issued := [current]
        result :=
          .error ("request bottle host " ++ quote host ++ ": empty HTTP response body") }
    | .response response =>
      if isRedirectStatus response.statusCode then
        match follows : redirectTarget library validated redirects current response with
        | .error message => { issued := [current], result := .error message }
        | .ok next =>
          (fetchLoop environment verifyDigest (redirects + 1) next
            (library.urlString current :: visited) hosts).after current
      else
        match checkResponse validated host response with
        | .error message => { issued := [current], result := .error message }
        | .ok _ =>
          let copied := copyBody (validated.request.expectedSize.toNat + 1) response.chunks
            response.readError
          { issued := [current]
            destination := copied.1
            result := concludeBody library validated verifyDigest host hosts response copied }
termination_by maxRedirects - redirects
decreasing_by
  have open' : redirects < maxRedirects := by
    by_contra ended
    simp [redirectTarget, Nat.not_lt.mp ended] at follows
  omega

/-- `Fetcher.fetch`. -/
def fetch (environment : Nat → Turn) (verifyDigest : Bool) : Outcome :=
  fetchLoop library validated environment verifyDigest 0 validated.url [] []

end Fetch

end DalecHomebrew.Fetcher
