import DalecHomebrew.Fetcher.Fetch

/-!
# The bottle fetch contract

What a fetch does in every environment: how many requests it issues and where they
go, and what a successful fetch has written and says about it.  The two facts about
the loop are proved along its recursion; the acceptance of the evidence then needs
that a normalized hostname is its own normal form.
-/

namespace DalecHomebrew.Fetcher

open Catalog (Bytes)
open Foundation Foundation.GoString

/-! ## Hostnames -/

/-- The characters of a DNS name. -/
def isHostnameCharacter (character : Char) : Bool :=
  isASCIIAlphanumeric character || character == '-' || character == '.'

theorem isHostnameCharacter_of_label {label : String}
    (valid : validateHostnameLabel label = .ok ()) :
    ∀ character ∈ label.toList, isHostnameCharacter character = true := by
  simp only [validateHostnameLabel, throw_bind, ite_error_eq_ok, ite_throw_eq_ok, not_not] at valid
  obtain ⟨-, ⟨first, last⟩, middle⟩ := valid
  intro character member
  cases characters : label.toList with
  | nil => simp [characters] at member
  | cons head tail =>
    rw [characters] at first last middle member
    simp only [List.head?_cons, Option.any_some, List.tail_cons] at first middle
    rcases List.mem_cons.mp member with rfl | inner
    · simp [isHostnameCharacter, first]
    · by_cases final : character ∈ tail.dropLast
      · have checked := List.all_eq_true.mp middle character final
        simp only [isHostnameCharacter, checked, Bool.true_or]
      have ends : tail ≠ [] := List.ne_nil_of_mem inner
      have same : character = tail.getLast ends := by
        rw [← List.dropLast_append_getLast ends] at inner
        rcases List.mem_append.mp inner with early | late
        · exact absurd early final
        · exact List.mem_singleton.mp late
      rw [List.getLast?_cons, List.getLast?_eq_getLast_of_ne_nil ends] at last
      simp only [Option.getD_some, Option.any_some, ← same] at last
      simp [isHostnameCharacter, last]

theorem not_isSpace_of_isHostnameCharacter {character : Char}
    (valid : isHostnameCharacter character = true) : isSpace character = false := by
  have range : 45 ≤ character.toNat ∧ character.toNat ≤ 122 := by
    simp only [isHostnameCharacter, isASCIIAlphanumeric, isDigit, Bool.or_eq_true,
      decide_eq_true_eq, beq_iff_eq] at valid
    rcases valid with (((lower | upper) | digit) | rfl) | rfl
    · have bounds : 97 ≤ character.toNat ∧ character.toNat ≤ 122 := lower
      omega
    · have bounds : 65 ≤ character.toNat ∧ character.toNat ≤ 90 := upper
      omega
    · have bounds : 48 ≤ character.toNat ∧ character.toNat ≤ 57 := digit
      omega
    · decide
    · decide
  simp only [isSpace, Bool.or_eq_false_iff, Bool.and_eq_false_iff, decide_eq_false_iff_not,
    List.contains_eq_mem, List.mem_cons, List.not_mem_nil, or_false]
  omega

/-- The checks that a normalized hostname has passed. -/
structure Hostname (library : Library) (host : String) : Prop where
  short : byteLength host ≤ 253
  named : library.isAddress host = false
  several : 2 ≤ (splitChar host '.').length
  labels : ∀ label ∈ splitChar host '.', validateHostnameLabel label = .ok ()
  final : ((splitChar host '.').getLast?.any allASCIIDigits) = false

theorem normalizeHostname_eq_ok {library : Library} {raw host : String} :
    normalizeHostname library raw = .ok host ↔
      raw ≠ "" ∧ raw = trimSpace raw ∧ hasSuffix raw "." = false ∧ host = toLower raw ∧
        Hostname library host := by
  simp only [normalizeHostname, throw_bind, ite_error_eq_ok, bind_eq_ok, pure_eq_ok, not_or,
    not_not, Bool.not_eq_true, not_lt]
  constructor
  · rintro ⟨some, ⟨solid, ends⟩, short, named, several, _, labels, final, rfl⟩
    exact ⟨some, solid, ends, rfl, short, named, several, forM_eq_ok.mp labels, final⟩
  · rintro ⟨some, solid, ends, rfl, short, named, several, labels, final⟩
    exact ⟨some, ⟨solid, ends⟩, short, named, several, (), forM_eq_ok.mpr labels, final, rfl⟩

variable {host : String}

section

variable {library : Library} (valid : Hostname library host)

include valid

theorem Hostname.isHostnameCharacter :
    ∀ character ∈ host.toList, isHostnameCharacter character = true := by
  intro character member
  rcases @mem_splitChar_of_mem _ '.' _ member with rfl | ⟨label, among, inside⟩
  · rfl
  · exact isHostnameCharacter_of_label (valid.labels label among) character inside

theorem Hostname.nonempty :
    host ≠ "" := by
  rintro rfl
  have several := valid.several
  revert several
  decide

theorem Hostname.no_final_dot : hasSuffix host "." = false := by
  refine Bool.eq_false_iff.mpr fun ends => ?_
  obtain ⟨before, split⟩ := List.isSuffixOf_iff_suffix.mp ends
  have whole : String.ofList before ++ String.singleton '.' ++ "" = host := by
    apply String.toList_injective
    rw [← split]
    simp
  have empty := valid.labels "" (by
    rw [← whole, splitChar_append]
    exact List.mem_append_right _ (by decide))
  revert empty
  decide

end

/-- A normalized hostname is its own normal form. -/
theorem normalizeHostname_idem {library : Library} {raw host : String}
    (normalized : normalizeHostname library raw = .ok host) :
    normalizeHostname library host = .ok host := by
  obtain ⟨-, -, -, lower, valid⟩ := normalizeHostname_eq_ok.mp normalized
  have solid : trimSpace host = host := trimSpace_of_forall fun character member =>
    not_isSpace_of_isHostnameCharacter (valid.isHostnameCharacter character member)
  refine normalizeHostname_eq_ok.mpr
    ⟨valid.nonempty, solid.symm, valid.no_final_dot, ?_, valid⟩
  rw [lower, toLower_idem]

theorem normalizeHostname_of_endpoint {library : Library} {url : ParsedURL}
    (accepted : validateEndpointURL library url = .ok host) :
    normalizeHostname library host = .ok host := by
  simp only [validateEndpointURL, throw_bind, ite_error_eq_ok] at accepted
  obtain ⟨-, -, -, -, -, -, read⟩ := accepted
  cases normalized : normalizeHostname library url.hostname with
  | error message =>
    rw [normalized] at read
    cases read
  | ok found =>
    rw [normalized] at read
    cases read
    exact normalizeHostname_idem normalized

/-! ## The loop -/

section Loop

variable {library : FetchLibrary} {validated : ValidatedRequest}

/-- An accepted endpoint whose host the request allows redirects to. -/
def Allowed (library : FetchLibrary) (validated : ValidatedRequest) (url : ParsedURL) : Prop :=
  ∃ host, validateEndpointURL library.toLibrary url = .ok host ∧
    host ∈ validated.allowedRedirectHosts

variable {redirects : Nat} {current : ParsedURL}

theorem admit_eq_ok {turn : Turn} {visited : List String}
    (admitted : admitTurn library validated turn redirects current visited = .ok host) :
    validateEndpointURL library.toLibrary current = .ok host ∧
      (0 < redirects → host ∈ validated.allowedRedirectHosts) := by
  simp only [admitTurn, throw_bind, ite_error_eq_ok, bind_eq_ok, withContext_eq_ok, pure_eq_ok,
    not_and, not_not] at admitted
  obtain ⟨-, -, found, endpoint, allowed, _, -, -, rfl⟩ := admitted
  exact ⟨endpoint, allowed⟩

variable {current next : ParsedURL} {response : Response}

theorem allowed_of_redirectTarget
    (follows : redirectTarget library validated redirects current response = .ok next) :
    redirects < maxRedirects ∧ Allowed library validated next := by
  simp only [redirectTarget, throw_bind, ite_error_eq_ok, not_le] at follows
  obtain ⟨open', -, -, read⟩ := follows
  cases parsed : library.parseURL response.location with
  | error message =>
    rw [parsed] at read
    cases read
  | ok reference =>
    simp only [parsed, ite_error_eq_ok, bind_eq_ok, withContext_eq_ok, pure_eq_ok, not_not] at read
    obtain ⟨host, endpoint, allowed, rfl⟩ := read
    exact ⟨open', host, endpoint, allowed⟩

/-- The outcome of a final response. -/
def received (library : FetchLibrary) (validated : ValidatedRequest) (verifyDigest : Bool)
    (current : ParsedURL) (host : String) (hosts : List String) (response : Response) :
    Outcome :=
  let copied :=
    copyBody (validated.request.expectedSize.toNat + 1) response.chunks response.readError
  { issued := [current]
    destination := copied.1
    result := concludeBody library validated verifyDigest host hosts response copied }

variable {verifyDigest : Bool}

/--
What holds of every outcome: an iteration is refused, ends at once, follows a redirect
to an allowed endpoint, or receives the final response.
-/
theorem fetchLoop_rule {motive : Nat → ParsedURL → List String → Outcome → Prop}
    {environment : Nat → Turn}
    (refused : ∀ redirects current hosts message,
      motive redirects current hosts { result := .error message })
    (ended : ∀ redirects current hosts host message,
      validateEndpointURL library.toLibrary current = .ok host →
        motive redirects current hosts { issued := [current], result := .error message })
    (followed : ∀ redirects current hosts host next outcome,
      validateEndpointURL library.toLibrary current = .ok host → redirects < maxRedirects →
        Allowed library validated next → motive (redirects + 1) next (hosts ++ [host]) outcome →
          motive redirects current hosts (outcome.after current))
    (finished : ∀ redirects current hosts host response,
      validateEndpointURL library.toLibrary current = .ok host → motive redirects current hosts
          (received library validated verifyDigest current host (hosts ++ [host]) response))
    (redirects : Nat) (current : ParsedURL) (visited hosts : List String) :
    motive redirects current hosts
      (fetchLoop library validated environment verifyDigest redirects current visited hosts) := by
  fun_induction fetchLoop library validated environment verifyDigest redirects current visited hosts
  case case1 => exact refused _ _ _ _
  case case6 follows ih =>
      obtain ⟨open', allowed⟩ := allowed_of_redirectTarget follows
      exact followed _ _ _ _ _ _ (admit_eq_ok (by assumption)).1 open' allowed ih
  case case8 => exact finished _ _ _ _ _ (admit_eq_ok (by assumption)).1
  -- In the other cases the request was made and nothing followed from it.
  all_goals exact ended _ _ _ _ _ (admit_eq_ok (by assumption)).1

/-- The requests of a run: the URL it starts at, then allowed ones. -/
structure Requests (library : FetchLibrary) (validated : ValidatedRequest) (redirects : Nat)
    (current : ParsedURL) (issued : List ParsedURL) : Prop where
  bounded : redirects ≤ maxRedirects → issued.length + redirects ≤ maxRedirects + 1
  first : ∀ url ∈ issued.head?, url = current
  endpoint : ∀ url ∈ issued, ∃ host, validateEndpointURL library.toLibrary url = .ok host
  redirected : ∀ url ∈ issued.tail, Allowed library validated url

theorem requests_singleton (endpoint : validateEndpointURL library.toLibrary current = .ok host) :
    Requests library validated redirects current [current] where
  bounded := by
    intro within
    rw [List.length_singleton]
    omega
  first := by simp
  endpoint := by simpa using ⟨host, endpoint⟩
  redirected := by simp

theorem Requests.cons {redirects : Nat} {host : String}
    {issued : List ParsedURL} (endpoint : validateEndpointURL library.toLibrary current = .ok host)
    (within : redirects < maxRedirects) (allowed : Allowed library validated next)
    (later : Requests library validated (redirects + 1) next issued) :
    Requests library validated redirects current (current :: issued) where
  bounded := by
    intro _
    have bounded := later.bounded within
    rw [List.length_cons]
    omega
  first := by simp
  endpoint := by
    simp only [List.forall_mem_cons]
    exact ⟨⟨host, endpoint⟩, later.endpoint⟩
  redirected := by
    intro url member
    cases issued with
    | nil => simp at member
    | cons head rest =>
      rcases List.mem_cons.mp member with rfl | further
      · rwa [later.first url rfl]
      · exact later.redirected url further

theorem fetchLoop_requests (environment : Nat → Turn) (verifyDigest : Bool) (redirects : Nat)
    (current : ParsedURL) (visited hosts : List String) :
    Requests library validated redirects current (fetchLoop library validated environment
      verifyDigest redirects current visited hosts).issued := by
  refine fetchLoop_rule (motive := fun redirects current _ outcome =>
    Requests library validated redirects current outcome.issued) ?_ ?_ ?_ ?_ redirects current
      visited hosts
  · intro redirects current hosts message
    exact ⟨fun within => by simp; omega, by simp, by simp, by simp⟩
  · intro redirects current hosts host message endpoint
    exact requests_singleton endpoint
  · intro redirects current hosts host next outcome endpoint within allowed later
    exact later.cons endpoint within allowed
  · intro redirects current hosts host response endpoint
    exact requests_singleton endpoint

/-- What a successful run that starts at a URL has written and reports. -/
structure Delivered (library : FetchLibrary) (validated : ValidatedRequest) (verifyDigest : Bool)
    (redirects : Nat) (current : ParsedURL) (hosts : List String) (destination : Bytes)
    (evidence : Evidence) : Prop where
  schemaVersion : evidence.schemaVersion = evidenceSchemaVersion
  policy : evidence.fetchPolicyVersion = fetchPolicyVersion
  artifactID : evidence.artifactID = validated.request.artifactID
  filename : evidence.filename = validated.request.filename
  written : (destination.length : Int) = validated.request.expectedSize
  size : evidence.size = validated.request.expectedSize
  sha256 : evidence.sha256 = library.sha256 destination
  verified : verifyDigest = true → evidence.sha256 = validated.request.sha256
  sequence : ∃ host later, evidence.redactedHostSequence = hosts ++ host :: later ∧
    validateEndpointURL library.toLibrary current = .ok host ∧
    (redirects ≤ maxRedirects → later.length + redirects ≤ maxRedirects) ∧
    ∀ target ∈ later, target ∈ validated.allowedRedirectHosts ∧
      normalizeHostname library.toLibrary target = .ok target

variable {hosts : List String} {evidence : Evidence}

theorem delivered_of_received (endpoint : validateEndpointURL library.toLibrary current = .ok host)
    (success : (received library validated verifyDigest current host (hosts ++ [host])
      response).result = .ok evidence) :
    Delivered library validated verifyDigest redirects current hosts (received library validated
      verifyDigest current host (hosts ++ [host]) response).destination evidence := by
  simp only [received, concludeBody, throw_bind, ite_error_eq_ok, pure_eq_ok, not_not,
    not_and] at success
  obtain ⟨-, -, -, written, digest, rfl⟩ := success
  exact ⟨rfl, rfl, rfl, rfl, written, written, rfl, digest, host, [], rfl, endpoint,
    fun within => by simpa using within, by simp⟩

theorem Delivered.after {destination : Bytes}
    (endpoint : validateEndpointURL library.toLibrary current = .ok host)
    (within : redirects < maxRedirects) (allowed : Allowed library validated next)
    (later : Delivered library validated verifyDigest (redirects + 1) next (hosts ++ [host])
      destination evidence) :
    Delivered library validated verifyDigest redirects current hosts destination evidence := by
  obtain ⟨target, others, sequence, nextEndpoint, bounded, approved⟩ := later.sequence
  obtain ⟨found, foundEndpoint, member⟩ := allowed
  obtain rfl : found = target := Except.ok.inj (foundEndpoint.symm.trans nextEndpoint)
  refine { later with sequence := ⟨host, found :: others, ?_, endpoint, fun _ => ?_, ?_⟩ }
  · rw [sequence, List.append_assoc, List.singleton_append]
  · have bounded := bounded within
    rw [List.length_cons]
    omega
  · simp only [List.forall_mem_cons]
    exact ⟨⟨member, normalizeHostname_of_endpoint foundEndpoint⟩, approved⟩

theorem fetchLoop_delivers (environment : Nat → Turn) (verifyDigest : Bool) (redirects : Nat)
    (current : ParsedURL) (visited hosts : List String) (evidence : Evidence)
    (success : (fetchLoop library validated environment verifyDigest redirects current visited
      hosts).result = .ok evidence) :
    Delivered library validated verifyDigest redirects current hosts (fetchLoop library validated
      environment verifyDigest redirects current visited hosts).destination evidence := by
  refine fetchLoop_rule (motive := fun redirects current hosts outcome =>
    outcome.result = .ok evidence → Delivered library validated verifyDigest redirects current
      hosts outcome.destination evidence) ?_ ?_ ?_ ?_ redirects current visited hosts success
  · intro redirects current hosts message impossible
    cases impossible
  · intro redirects current hosts host message _ impossible
    cases impossible
  · intro redirects current hosts host next outcome endpoint within allowed later success
    exact (later success).after endpoint within allowed
  · intro redirects current hosts host response endpoint success
    exact delivered_of_received endpoint success

end Loop

/-! ## Evidence -/

section Evidence

variable {library : FetchLibrary} {request : Request} {validated : ValidatedRequest}

/-- The parts of a request that validation has accepted. -/
structure AcceptedRequest (library : Library) (request : Request)
    (validated : ValidatedRequest) : Prop where
  same : validated.request = request
  artifactID : validateArtifactID request.artifactID = .ok ()
  filename : validateFilename request.filename = .ok ()
  size : 0 < request.expectedSize ∧ request.expectedSize ≤ maxBottleSize
  digest : byteLength request.sha256 = 64 ∧ request.sha256 = toLower request.sha256 ∧
    request.sha256.toList.all isLowerHex = true
  origin : validateEndpointURL library validated.url = .ok validated.originHost
  hosts : ∀ host ∈ validated.allowedRedirectHosts,
    ∃ raw ∈ request.allowedRedirectHosts, normalizeAllowedHost library raw = .ok host

/-- The allowlist has no other entries than the normalized ones of the request. -/
theorem listed_of_foldlM {library : Library} {raws allowlist : List String}
    (ran : raws.foldlM (allowHost library) [] = .ok allowlist) :
    ∀ host ∈ allowlist, ∃ raw ∈ raws, normalizeAllowedHost library raw = .ok host := by
  have start : ∀ host ∈ ([] : List String), ∃ raw ∈ ([] : List String),
      normalizeAllowedHost library raw = .ok host := by simp
  refine foldlM_history (motive := fun seen allowlist => ∀ host ∈ allowlist,
    ∃ raw ∈ seen, normalizeAllowedHost library raw = .ok host) ?_ ran start
  intro seen source raw target known entered host member
  unfold allowHost at entered
  split at entered
  · cases entered
  rename_i normalized
  simp only [ite_error_eq_ok, Except.ok.injEq] at entered
  rw [← entered.2] at member
  rcases List.mem_append.mp member with earlier | last
  · obtain ⟨raw, among, found⟩ := known host earlier
    exact ⟨raw, List.mem_append_left _ among, found⟩
  · exact ⟨raw, by simp, List.mem_singleton.mp last ▸ normalized⟩

theorem acceptedRequest_of_validate {library : Library}
    (valid : validateRequest library request = .ok validated) :
    AcceptedRequest library request validated := by
  simp only [validateRequest, throw_bind, ite_error_eq_ok, bind_eq_ok, pure_eq_ok, not_or, not_not,
    not_le, not_lt] at valid
  obtain ⟨-, -, _, artifactID, _, filename, size, digest, origin, read, -, allowlist, ran, rfl⟩ :=
    valid
  refine ⟨rfl, artifactID, filename, size, digest, ?_, listed_of_foldlM ran⟩
  simp only [parseBottleURL, throw_bind, ite_error_eq_ok] at read
  obtain ⟨-, -, -, parsed⟩ := read
  cases url : library.parseURL request.url with
  | error message =>
    rw [url] at parsed
    cases parsed
  | ok found =>
    simp only [url, bind_eq_ok, pure_eq_ok] at parsed
    obtain ⟨host, endpoint, rfl⟩ := parsed
    exact endpoint

theorem verifyEvidence_of_delivered {destination : Bytes} {evidence : Evidence}
    (valid : validateRequest library.toLibrary request = .ok validated)
    (delivered : Delivered library validated true 0 validated.url [] destination evidence) :
    verifyEvidence library.toLibrary evidence request = .ok () := by
  obtain ⟨same, artifactID, filename, size, digest, origin, -⟩ := acceptedRequest_of_validate valid
  obtain ⟨host, later, sequence, endpoint, bounded, approved⟩ := delivered.sequence
  rw [List.nil_append] at sequence
  have first : host = validated.originHost := Except.ok.inj (endpoint.symm.trans origin)
  have checksum : evidence.sha256 = request.sha256 := by rw [delivered.verified rfl, same]
  have accepted : validateEvidence library.toLibrary evidence = .ok () := by
    have hosts : ∀ target ∈ host :: later, normalizeHostname library.toLibrary target = .ok target := by
      simp only [List.forall_mem_cons]
      exact ⟨normalizeHostname_of_endpoint endpoint, fun target member => (approved target member).2⟩
    simp only [validateEvidence, joinErrors_eq_ok, List.append_eq_nil_iff, finding_eq_nil,
      reported_eq_nil, delivered.schemaVersion, delivered.policy, delivered.artifactID,
      delivered.filename, delivered.size, checksum, same, sequence, List.flatMap_eq_nil_iff]
    refine ⟨⟨⟨⟨⟨⟨⟨by simp, by simp⟩, artifactID⟩, filename⟩, ?_⟩, ?_⟩, ?_⟩, ?_⟩
    · simpa using size
    · simp [digest.1, digest.2.2, ← digest.2.1]
    · have bounded := bounded (Nat.zero_le _)
      simpa using bounded
    · intro target member
      simp [hosts target member]
  refine bind_eq_ok.mpr ⟨(), accepted, bind_eq_ok.mpr ⟨validated, valid, ?_⟩⟩
  simp only [throw_bind, ite_error_eq_ok, not_or, not_not, sequence, List.head?_cons,
    List.tail_cons, forM_eq_ok]
  refine ⟨⟨delivered.artifactID, delivered.filename, delivered.size, delivered.verified rfl⟩,
    congrArg some first, fun target member => ?_⟩
  rw [approveHost, if_neg (not_not.mpr (approved target member).1)]

/--
The contract of a bottle fetch, for every environment: at most one request more than
the redirects that are allowed, redirects only to accepted endpoints on the allowlist,
and, when the digest is verified, a success has written exactly the expected bytes and
reports them in evidence that `VerifyEvidence` accepts for the same request.
-/
theorem fetch_contract (library : FetchLibrary) (request : Request) (validated : ValidatedRequest)
    (valid : validateRequest library.toLibrary request = .ok validated) (environment : Nat → Turn)
    (verifyDigest : Bool) :
    (fetch library validated environment verifyDigest).issued.length ≤ maxRedirects + 1 ∧
    (∀ url ∈ (fetch library validated environment verifyDigest).issued,
      ∃ host, validateEndpointURL library.toLibrary url = .ok host) ∧
    (∀ url ∈ (fetch library validated environment verifyDigest).issued.tail,
      ∃ host, validateEndpointURL library.toLibrary url = .ok host ∧
        ∃ raw ∈ request.allowedRedirectHosts,
          normalizeAllowedHost library.toLibrary raw = .ok host) ∧
    ∀ evidence, (fetch library validated environment true).result = .ok evidence →
      ((fetch library validated environment true).destination.length : Int) = request.expectedSize ∧
        library.sha256 (fetch library validated environment true).destination = request.sha256 ∧
        verifyEvidence library.toLibrary evidence request = .ok () := by
  have requests : Requests library validated 0 validated.url
      (fetch library validated environment verifyDigest).issued :=
    fetchLoop_requests environment verifyDigest 0 validated.url [] []
  obtain ⟨same, -, -, -, -, -, hosts⟩ := acceptedRequest_of_validate valid
  refine ⟨requests.bounded (Nat.zero_le _), requests.endpoint, fun url member => ?_, ?_⟩
  · obtain ⟨host, endpoint, allowed⟩ := requests.redirected url member
    exact ⟨host, endpoint, hosts host allowed⟩
  intro evidence success
  have delivered := fetchLoop_delivers environment true 0 validated.url [] [] evidence success
  refine ⟨same ▸ delivered.written, ?_, verifyEvidence_of_delivered valid delivered⟩
  rw [← same, ← delivered.verified rfl, delivered.sha256, fetch]

end Evidence

namespace Sample

/-- The library functions, as they answer on the URLs and on the one-byte body below. -/
def library : FetchLibrary where
  parseURL := fun raw =>
    let rest := splitChar (trimPrefix raw "https://") '/'
    .ok {
      scheme := "https", host := rest.headD "", hostname := rest.headD "",
      path := "/" ++ join rest.tail "/" }
  isIP := fun _ => false
  isAddress := fun _ => false
  urlString := fun url => "https://" ++ url.host ++ url.path
  resolveReference := fun _ reference => reference
  sha256 := fun _ => "ca978112ca1bbdcafac231b39a23dc4da786eff8147c4e72b9807785afee48bb"

def request : Request where
  schemaVersion := requestSchemaVersion
  fetchPolicyVersion := fetchPolicyVersion
  artifactID := "acme/tools/app"
  url := "https://acme.dev/app"
  expectedSize := 1
  sha256 := "ca978112ca1bbdcafac231b39a23dc4da786eff8147c4e72b9807785afee48bb"
  filename := "app"
  allowedRedirectHosts := ["cdn.acme.dev"]

def validated : ValidatedRequest where
  request := request
  url := { scheme := "https", host := "acme.dev", hostname := "acme.dev", path := "/app" }
  originHost := "acme.dev"
  allowedRedirectHosts := ["cdn.acme.dev"]

/-- A redirect, then the body in one read. -/
def environment : Nat → Turn
  | 0 =>
    { reply := .response {
        statusCode := 302, location := "https://cdn.acme.dev/app", contentLength := 0,
        chunks := [] } }
  | _ =>
    { reply := .response { statusCode := 200, contentLength := -1, chunks := [{ data := [97] }] } }

def evidence : Evidence where
  schemaVersion := evidenceSchemaVersion
  fetchPolicyVersion := fetchPolicyVersion
  artifactID := "acme/tools/app"
  filename := "app"
  size := 1
  sha256 := "ca978112ca1bbdcafac231b39a23dc4da786eff8147c4e72b9807785afee48bb"
  redactedHostSequence := ["acme.dev", "cdn.acme.dev"]

theorem request_valid : validateRequest library.toLibrary request = .ok validated := by
  decide +kernel

theorem fetched : (fetch library validated environment true).result = .ok evidence := by
  decide +kernel

end Sample

theorem fetch_contract_redirected :
    (fetch Sample.library Sample.validated Sample.environment true).issued.length ≤ 6 ∧
      (fetch Sample.library Sample.validated Sample.environment true).destination.length = (1 : Int) ∧
      verifyEvidence Sample.library.toLibrary Sample.evidence Sample.request = .ok () := by
  obtain ⟨bounded, -, -, success⟩ := fetch_contract Sample.library Sample.request Sample.validated
    Sample.request_valid Sample.environment true
  obtain ⟨written, -, verified⟩ := success Sample.evidence Sample.fetched
  exact ⟨bounded, written, verified⟩

end DalecHomebrew.Fetcher
