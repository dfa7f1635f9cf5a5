import DalecHomebrew.Foundation.Fold
import DalecHomebrew.Foundation.GoURL

/-!
# Bottle fetch requests

The validation of a fetch request in `internal/fetcher`: the policy, the bounds,
the origin URL and the redirect hosts.  A request that passes comes back with its
parsed URL and its normalized hosts.
-/

namespace DalecHomebrew.Fetcher

open Foundation Foundation.GoString

def requestSchemaVersion : String := "bottle-fetch-request/v1"
def fetchPolicyVersion : String := "homebrew-bottle-fetch-v1"
def maxBottleSize : Int := 2 ^ 30
def maxURLBytes : Nat := 8 * 2 ^ 10
def maxArtifactIDBytes : Nat := 512
def maxFilenameBytes : Nat := 255
def maxRedirectHostCount : Nat := 32

/-- The parsers of the standard library that the fetcher calls. -/
structure Library extends NetLibrary where
  /-- Whether `netip.ParseAddr` recognizes an address. -/
  isAddress : String → Bool

structure Request where
  schemaVersion : String
  fetchPolicyVersion : String
  artifactID : String
  url : String
  expectedSize : Int
  sha256 : String
  filename : String
  allowedRedirectHosts : List String
deriving DecidableEq

structure ValidatedRequest where
  request : Request
  url : ParsedURL
  originHost : String
  allowedRedirectHosts : List String
deriving DecidableEq

/-! ## Hosts and URLs -/

def isASCIIAlphanumeric (character : Char) : Bool :=
  ('a' ≤ character ∧ character ≤ 'z') || ('A' ≤ character ∧ character ≤ 'Z') || isDigit character

def allASCIIDigits (value : String) : Bool :=
  value != "" && value.toList.all isDigit

def validateHostnameLabel (label : String) : Except String Unit := do
  if label = "" ∨ 63 < byteLength label then
    throw "hostname contains an invalid DNS label length"
  if ¬ (label.toList.head?.any isASCIIAlphanumeric ∧
      label.toList.getLast?.any isASCIIAlphanumeric) then
    throw "hostname labels must start and end with an ASCII letter or digit"
  if ¬ (label.toList.tail.dropLast.all fun character =>
      isASCIIAlphanumeric character || character == '-') then
    throw "hostname contains a non-DNS character"

section Library

variable (library : Library)

def normalizeHostname (raw : String) : Except String String := do
  if raw = "" then throw "hostname is empty"
  if raw ≠ trimSpace raw ∨ hasSuffix raw "." then
    throw "hostname must not contain whitespace or a trailing dot"
  let host := toLower raw
  if 253 < byteLength host then throw "hostname is too long"
  if library.isAddress host then throw "IP-literal destinations are not allowed"
  let labels := splitChar host '.'
  if labels.length < 2 then throw "hostname must be a fully qualified DNS name"
  labels.forM validateHostnameLabel
  if labels.getLast?.any allASCIIDigits then throw "hostname has an all-numeric final label"
  return host

def normalizeAllowedHost (raw : String) : Except String String :=
  if raw = "" ∨ containsAny raw ":/@?#[]\\" then
    .error "redirect hosts must be DNS hostnames without a scheme, port, or path"
  else normalizeHostname library raw

def validateEndpointURL (parsed : ParsedURL) : Except String String := do
  if parsed.scheme ≠ "https" then throw "bottle URL must use HTTPS"
  if parsed.opaqueData ≠ "" ∨ parsed.host = "" then throw "bottle URL must be absolute"
  if parsed.hasUser then throw "bottle URL userinfo is not allowed"
  if parsed.fragment ≠ "" ∨ parsed.rawFragment ≠ "" then
    throw "bottle URL fragments are not allowed"
  if parsed.port ≠ "" ∧ parsed.port ≠ "443" then throw "bottle URL must use port 443"
  if hasSuffix parsed.host ":" then throw "bottle URL has an invalid empty port"
  match normalizeHostname library parsed.hostname with
  | .ok host => return host
  | .error message => throw ("invalid bottle URL host: " ++ message)

def parseBottleURL (raw : String) : Except String (ParsedURL × String) := do
  if raw = "" ∨ maxURLBytes < byteLength raw then
    throw ("bottle URL must be between 1 and " ++ decimal maxURLBytes ++ " bytes")
  if raw.toList.any fun character =>
      character == Char.ofNat 0 || character == '\r' || character == '\n' then
    throw "bottle URL contains a control character"
  if containsChar raw '#' then throw "bottle URL fragments are not allowed"
  match library.parseURL raw with
  | .error _ => throw "bottle URL is invalid"
  | .ok parsed =>
    let host ← validateEndpointURL library parsed
    return (parsed, host)

end Library

/-! ## Requests -/

/-- A Lean string is always valid UTF-8. -/
def validateArtifactID (value : String) : Except String Unit := do
  if value = "" ∨ maxArtifactIDBytes < byteLength value then
    throw ("artifact ID must be valid UTF-8 and between 1 and " ++ decimal maxArtifactIDBytes ++
      " bytes")
  if value ≠ trimSpace value then
    throw "artifact ID must not contain leading or trailing whitespace"
  if value.toList.any fun character => character.toNat < 0x21 || character.toNat == 0x7f then
    throw "artifact ID must not contain control characters or whitespace"

def validateFilename (value : String) : Except String Unit := do
  if value = "" ∨ maxFilenameBytes < byteLength value then
    throw ("filename must be valid UTF-8 and between 1 and " ++ decimal maxFilenameBytes ++
      " bytes")
  if value = "." ∨ value = ".." ∨ containsAny value "/\\" then
    throw "filename must be a single path component"
  if value.toList.any fun character => character.toNat < 0x21 || 0x7e < character.toNat then
    throw "filename must contain only visible ASCII characters"

/-- The allowlist after one more entry. -/
def allowHost (library : Library) (allowlist : List String) (raw : String) :
    Except String (List String) :=
  match normalizeAllowedHost library raw with
  | .error message => .error ("invalid redirect host allowlist entry: " ++ message)
  | .ok host =>
    if host ∈ allowlist then .error ("duplicate redirect host " ++ quote host)
    else .ok (allowlist ++ [host])

/-- The lowercase digits that pass the length check are what `hex.DecodeString` reads. -/
def validateRequest (library : Library) (request : Request) : Except String ValidatedRequest := do
  if request.schemaVersion ≠ requestSchemaVersion then
    throw ("unsupported fetch request schema " ++ quote request.schemaVersion)
  if request.fetchPolicyVersion ≠ fetchPolicyVersion then
    throw ("unsupported fetch policy " ++ quote request.fetchPolicyVersion)
  validateArtifactID request.artifactID
  validateFilename request.filename
  if request.expectedSize ≤ 0 ∨ maxBottleSize < request.expectedSize then
    throw ("expected size must be between 1 and " ++ decimalInt maxBottleSize ++ " bytes")
  if byteLength request.sha256 ≠ 64 ∨ request.sha256 ≠ toLower request.sha256 ∨
      ¬ request.sha256.toList.all isLowerHex then
    throw "SHA-256 must be 64 lowercase hexadecimal characters"
  let origin ← parseBottleURL library request.url
  if maxRedirectHostCount < request.allowedRedirectHosts.length then
    throw ("redirect host allowlist exceeds " ++ decimal maxRedirectHostCount ++ " entries")
  let allowlist ← request.allowedRedirectHosts.foldlM (allowHost library) []
  return { request, url := origin.1, originHost := origin.2, allowedRedirectHosts := allowlist }

end DalecHomebrew.Fetcher
