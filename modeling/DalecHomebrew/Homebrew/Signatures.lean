import DalecHomebrew.Foundation.Findings
import DalecHomebrew.Homebrew.Metadata

/-!
# Signed metadata envelopes

`VerifyJWS` of `internal/homebrew/metadata/jws.go`: flattened or general JSON
serialization, unencoded payload, RSA-PSS with SHA-512.  JSON, base64, the hashes
and the signature primitive are library functions.  What a verified envelope
establishes is that the required signer's key accepts a signature over a protected
header and the payload that is returned.
-/

namespace DalecHomebrew.Homebrew.Metadata

open DalecHomebrew.Catalog (Bytes)
open Foundation Foundation.GoString

def defaultRequiredKeyID : String := "homebrew-1"
def jwsAlgorithmPS512 : String := "PS512"

def errInvalidJWS : String := "invalid JWS"
def errUnknownSigner : String := "unknown JWS signer"
def errSignatureMismatch : String := "JWS signature mismatch"
def errRequiredSignatureMissing : String := "required JWS signature missing"

/-- The members of a JSON object with their raw values. -/
abbrev RawObject := Table String Bytes

/-- A set of verification keys under their `kid`. -/
abbrev KeySet (PublicKey : Type) := Table String PublicKey

/-- The library functions that the verification of an envelope calls. -/
structure SignatureLibrary (PublicKey : Type) where
  /-- The one JSON object that a text holds, without duplicate members at any level. -/
  decodeJSONObject : Bytes → Except String RawObject
  /-- `json.Unmarshal` into a string. -/
  unmarshalString : Bytes → Except String String
  /-- `json.Unmarshal` into a slice of raw messages. -/
  unmarshalArray : Bytes → Except String (List Bytes)
  /-- `json.Unmarshal` into a slice of strings. -/
  unmarshalStrings : Bytes → Except String (List String)
  /-- `json.Unmarshal` into a pointer to a boolean. -/
  unmarshalBool : Bytes → Except String (Option Bool)
  /-- `json.Marshal` of an object. -/
  marshalObject : RawObject → Except String Bytes
  /-- `base64.URLEncoding.Strict().DecodeString`. -/
  decodePaddedURL : String → Except String Bytes
  /-- `base64.RawURLEncoding.Strict().DecodeString`. -/
  decodeRawURL : String → Except String Bytes
  /-- The bytes of a string. -/
  utf8 : String → Bytes
  sha512 : Bytes → Bytes
  /-- The SHA-256 digest as `sha256:<hex>`. -/
  digestBytes : Bytes → String
  /-- `rsa.VerifyPSS` with SHA-512 and a salt of the length of the hash. -/
  verifyPSS : PublicKey → Bytes → Bytes → Except String Unit
  /-- `DefaultKeySet`. -/
  defaultKeySet : Except String (KeySet PublicKey)

/-- What is done with a signature whose `kid` is not in the key set. -/
inductive UnknownSignaturePolicy where
  | reject
  | ignore
deriving DecidableEq

structure VerificationPolicy where
  requiredKeyID : String
  unknownSignatures : UnknownSignaturePolicy
deriving DecidableEq

structure VerifiedJWS where
  payload : Bytes
  envelopeDigest : String
  payloadDigest : String
  signatures : List SignatureInfo
deriving DecidableEq

/-- `VerificationPolicy.normalized`; the enumeration has no invalid value. -/
def VerificationPolicy.normalized (policy : VerificationPolicy) :
    Except String VerificationPolicy := do
  let requiredKeyID :=
    if policy.requiredKeyID = "" then defaultRequiredKeyID else policy.requiredKeyID
  if trimSpace requiredKeyID = "" then throw "required JWS kid is empty"
  return { policy with requiredKeyID }

/-! ## Signature objects -/

structure ParsedJWSSignature where
  kid : String
  protectedText : String
  protectedJSON : Bytes
  signature : Bytes

section Verification

variable {PublicKey : Type} (library : SignatureLibrary PublicKey)

def decodeString (raw : Bytes) (field : String) : Except String String := do
  if raw = [] then throw ("missing " ++ field)
  withContext (field ++ " must be a string") (library.unmarshalString raw)

def decodeBase64URL (value : String) : Except String Bytes := do
  if containsAny value "+/\r\n\t " then throw "not strict base64url"
  if containsChar value '=' then library.decodePaddedURL value else library.decodeRawURL value

/-- One critical header name; `seen` are the names before it. -/
def checkCritical (header : RawObject) (seen : List String) (name : String) :
    Except String (List String) := do
  if name = "" then throw "protected crit contains an empty name"
  if name ∈ seen then throw ("protected crit contains duplicate " ++ quote name)
  if (header.lookup name).isNone then
    throw ("critical header " ++ quote name ++ " is not protected")
  if name ≠ "b64" then throw ("unsupported critical header " ++ quote name)
  return name :: seen

/-- The checks of the protected header. -/
def checkProtected (header : RawObject) : Except String Unit := do
  let algorithm ← decodeString library (header.slice "alg") "protected alg"
  if algorithm ≠ jwsAlgorithmPS512 then
    throw ("protected alg must be " ++ quote jwsAlgorithmPS512 ++ ", got " ++ quote algorithm)
  if header.slice "b64" = [] then throw "protected b64 is required"
  let encodedPayload ← withContext "protected b64 must be a boolean"
    (library.unmarshalBool (header.slice "b64"))
  if encodedPayload = none then throw "protected b64 must be a boolean: value is null"
  if encodedPayload = some true then throw "protected b64 must be false"
  if header.slice "crit" = [] then throw "protected crit is required"
  let critical ← withContext "protected crit must be a string array"
    (library.unmarshalStrings (header.slice "crit"))
  if critical = [] then throw "protected crit is empty"
  let seen ← critical.foldlM (checkCritical header) []
  if "b64" ∉ seen then throw "protected crit must contain b64"

def parseJWSSignature (raw : Bytes) : Except String ParsedJWSSignature := do
  let object ← library.decodeJSONObject raw
  object.keys.forM fun field =>
    if field ≠ "protected" ∧ field ≠ "header" ∧ field ≠ "signature" then
      throw ("unsupported signature member " ++ quote field)
    else pure ()
  let protectedEncoded ← decodeString library (object.slice "protected") "protected"
  if protectedEncoded = "" then throw "protected header is empty"
  let protectedJSON ← withContext "decode protected header"
    (decodeBase64URL library protectedEncoded)
  let protectedHeader ← withContext "protected header" (library.decodeJSONObject protectedJSON)
  let unprotected ←
    if object.slice "header" = [] then pure ∅
    else withContext "unprotected header" (library.decodeJSONObject (object.slice "header"))
  protectedHeader.keys.forM fun name =>
    if (unprotected.lookup name).isSome then
      throw ("header parameter " ++ quote name ++ " appears in protected and unprotected headers")
    else pure ()
  checkProtected library protectedHeader
  let kidRaw := ((protectedHeader.lookup "kid").or (unprotected.lookup "kid")).getD []
  let kid ← decodeString library kidRaw "kid"
  if trimSpace kid = "" then throw "kid is empty"
  let signatureEncoded ← decodeString library (object.slice "signature") "signature"
  if signatureEncoded = "" then throw "signature is empty"
  let signature ← withContext "decode signature" (decodeBase64URL library signatureEncoded)
  return { kid, protectedText := protectedEncoded, protectedJSON, signature }

/-! ## Envelopes -/

/-- What a signature of an unencoded payload is about. -/
def signingInput (protectedText : String) (payload : Bytes) : Bytes :=
  library.utf8 protectedText ++ [46] ++ payload

def verifyPS512 (key : PublicKey) (protectedText : String) (payload signature : Bytes) :
    Except String Unit :=
  withContext errSignatureMismatch
    (library.verifyPSS key (library.sha512 (signingInput library protectedText payload)) signature)

/-- The state of the loop over the signatures. -/
structure SignatureLoop where
  seenKids : List String := []
  verified : List SignatureInfo := []
  requiredVerified : Bool := false

def verifySignature (keys : KeySet PublicKey) (policy : VerificationPolicy) (payload : Bytes)
    (state : SignatureLoop) (entry : Bytes × Nat) :
    Except String SignatureLoop := do
  let signature ← withContext (errInvalidJWS ++ ": signature " ++ decimal entry.2)
    (parseJWSSignature library entry.1)
  if signature.kid ∈ state.seenKids then
    throw (errInvalidJWS ++ ": duplicate signature kid " ++ quote signature.kid)
  let state := { state with seenKids := signature.kid :: state.seenKids }
  match keys.lookup signature.kid with
  | none =>
    if policy.unknownSignatures = .ignore then return state
    throw (errUnknownSigner ++ " " ++ quote signature.kid)
  | some key =>
    withContext ("signature kid " ++ quote signature.kid)
      (verifyPS512 library key signature.protectedText payload signature.signature)
    return {
      seenKids := state.seenKids
      verified := state.verified ++ [{
        keyID := signature.kid, algorithm := jwsAlgorithmPS512, verified := true,
        protectedDigest := library.digestBytes signature.protectedJSON,
        signatureDigest := library.digestBytes signature.signature }]
      requiredVerified :=
        state.requiredVerified || signature.kid == policy.requiredKeyID }

/-- The signature objects of an envelope: its array, or the envelope's own members. -/
def signatureObjects (envelope : RawObject) : Except String (List Bytes) := do
  let hasGeneral := envelope.slice "signatures" ≠ []
  let hasFlattened := envelope.slice "protected" ≠ [] ∨ envelope.slice "header" ≠ [] ∨
    envelope.slice "signature" ≠ []
  if hasGeneral ↔ hasFlattened then
    throw (errInvalidJWS ++ ": envelope must use exactly one of flattened or general serialization")
  if hasGeneral then
    let signatures ← withContext (errInvalidJWS ++ ": signatures must be an array")
      (library.unmarshalArray (envelope.slice "signatures"))
    if signatures = [] then throw (errInvalidJWS ++ ": signatures array is empty")
    return signatures
  else
    let flattened := ["protected", "header", "signature"].foldl
      (fun (members : RawObject) field =>
        if envelope.slice field = [] then members else members.insert field (envelope.slice field))
      ∅
    let raw ← library.marshalObject flattened
    return [raw]

/-- The key set that verifies: the default one in place of an empty one. -/
def effectiveKeys (keys : KeySet PublicKey) : Except String (KeySet PublicKey) :=
  if keys.keys = [] then library.defaultKeySet else .ok keys

/-- `VerifyJWS`. -/
def verifyJWS (data : Bytes) (keys : KeySet PublicKey) (policy : VerificationPolicy) :
    Except String VerifiedJWS := do
  let keys ← effectiveKeys library keys
  let policy ← policy.normalized
  let envelope ← withContext (errInvalidJWS ++ ": envelope") (library.decodeJSONObject data)
  envelope.keys.forM fun field =>
    if field ∉ ["payload", "signatures", "protected", "header", "signature"] then
      throw (errInvalidJWS ++ ": unsupported envelope member " ++ quote field)
    else pure ()
  let payloadString ← withContext errInvalidJWS
    (decodeString library (envelope.slice "payload") "payload")
  let payload := library.utf8 payloadString
  let signatures ← signatureObjects library envelope
  let final ← signatures.zipIdx.foldlM (verifySignature library keys policy payload) {}
  if !final.requiredVerified then
    throw (errRequiredSignatureMissing ++ " for kid " ++ quote policy.requiredKeyID)
  return {
    payload, envelopeDigest := library.digestBytes data,
    payloadDigest := library.digestBytes payload,
    signatures := sortByKey (fun info => [info.keyID, info.signatureDigest]) final.verified }

/-! ## What verification establishes -/

/-- A key that accepts a signature over some protected header and the payload. -/
def Authenticates (key : PublicKey) (payload : Bytes) : Prop :=
  ∃ protectedText signature,
    library.verifyPSS key (library.sha512 (signingInput library protectedText payload)) signature =
      .ok ()

/-- Signatures with different key ids, where the key of each one that has a key accepts it over
the protected header, a full stop and the payload. -/
structure Verifies (keys : KeySet PublicKey) (payload : Bytes)
    (signatures : List ParsedJWSSignature) : Prop where
  distinct : (signatures.map (·.kid)).Nodup
  verified : ∀ signature ∈ signatures, ∀ key, keys.lookup signature.kid = some key →
    library.verifyPSS key
      (library.sha512 (library.utf8 signature.protectedText ++ [46] ++ payload))
      signature.signature = .ok ()

/-- What the loop knows after the signatures `parsed`. -/
structure SignatureLoop.Knows (keys : KeySet PublicKey) (required : String) (payload : Bytes)
    (parsed : List ParsedJWSSignature) (state : SignatureLoop) : Prop
    extends Verifies library keys payload parsed where
  seen : ∀ kid, kid ∈ state.seenKids ↔ kid ∈ parsed.map (·.kid)
  required : state.requiredVerified = true →
    required ∈ parsed.map (·.kid) ∧ (keys.lookup required).isSome

/-- The bytes that a base64url text stands for, with or without padding. -/
def StandsFor (text : String) (bytes : Bytes) : Prop :=
  library.decodePaddedURL text = .ok bytes ∨ library.decodeRawURL text = .ok bytes

/-- The members of a signature object that its values are read from: the protected header, the
key id in either header and the signature. -/
structure ReadFrom (raw : Bytes) (signature : ParsedJWSSignature) : Prop where
  accepted : parseJWSSignature library raw = .ok signature
  members : ∃ object, library.decodeJSONObject raw = .ok object ∧
    library.unmarshalString (object.slice "protected") = .ok signature.protectedText ∧
    StandsFor library signature.protectedText signature.protectedJSON ∧
    (∃ encoded, library.unmarshalString (object.slice "signature") = .ok encoded ∧
      StandsFor library encoded signature.signature) ∧
    ∃ header kid, library.unmarshalString kid = .ok signature.kid ∧
      header.lookup "kid" = some kid ∧
      (library.decodeJSONObject signature.protectedJSON = .ok header ∨
        library.decodeJSONObject (object.slice "header") = .ok header)

/-- The signature objects of an envelope: the elements of its array, or one object with the
envelope's own members. -/
def CarriesSignatures (envelope : RawObject) (raws : List Bytes) : Prop :=
  library.unmarshalArray (envelope.slice "signatures") = .ok raws ∨
    ∃ members raw, raws = [raw] ∧ library.marshalObject members = .ok raw ∧
      ∀ name ∈ ["protected", "header", "signature"], members.slice name = envelope.slice name

/-- The payload and the signatures of an envelope, one of which is the required one. -/
structure MeetsPolicy (keys : KeySet PublicKey) (required : String) (data payload : Bytes)
    (signatures : List ParsedJWSSignature) : Prop
    extends Verifies library keys payload signatures where
  read : ∃ envelope text raws, library.decodeJSONObject data = .ok envelope ∧
    library.unmarshalString (envelope.slice "payload") = .ok text ∧ payload = library.utf8 text ∧
    CarriesSignatures library envelope raws ∧ List.Forall₂ (ReadFrom library) raws signatures
  once : (signatures.map (·.kid)).count required = 1
  required : ∃ signature ∈ signatures, ∃ key, signature.kid = required ∧
    keys.lookup required = some key ∧
    library.verifyPSS key
      (library.sha512 (library.utf8 signature.protectedText ++ [46] ++ payload))
      signature.signature = .ok ()

variable {library} {keys : KeySet PublicKey} {policy : VerificationPolicy} {payload data : Bytes}

theorem standsFor_of_decodeBase64URL {text : String} {bytes : Bytes}
    (decodes : decodeBase64URL library text = .ok bytes) : StandsFor library text bytes := by
  simp only [decodeBase64URL, throw_bind, ite_error_eq_ok] at decodes
  obtain ⟨-, decodes⟩ := decodes
  split at decodes
  · exact .inl decodes
  · exact .inr decodes

theorem decodeString_eq_ok {raw : Bytes} {field text : String} :
    decodeString library raw field = .ok text ↔
      raw ≠ [] ∧ library.unmarshalString raw = .ok text := by
  simp only [decodeString, throw_bind, ite_error_eq_ok, withContext_eq_ok, ne_eq]

theorem ite_bind_eq_ok {Error Value Result : Type} {condition : Prop} [Decidable condition]
    {first second : Except Error Value} {next : Value → Except Error Result} {result : Result} :
    (if condition then first >>= next else second >>= next) = .ok result ↔
      ∃ value, (if condition then first else second) = .ok value ∧ next value = .ok result := by
  rw [← bind_eq_ok]
  split <;> rfl

theorem readFrom_of_parseJWSSignature {raw : Bytes} {signature : ParsedJWSSignature}
    (parses : parseJWSSignature library raw = .ok signature) : ReadFrom library raw signature := by
  refine ⟨parses, ?_⟩
  simp only [parseJWSSignature, throw_bind, ite_error_eq_ok, bind_eq_ok, withContext_eq_ok,
    ite_bind_eq_ok, decodeString_eq_ok, pure_eq_ok] at parses
  obtain ⟨object, decodes, ⟨⟩, -, text, ⟨-, protects⟩, -, protectedJSON, encoded, header, decoded,
    unprotected, separate, ⟨⟩, -, ⟨⟩, -, kid, ⟨present, named⟩, -, signed, ⟨-, signs⟩, -, bytes,
    unsigned, rfl⟩ := parses
  refine ⟨object, decodes, protects, standsFor_of_decodeBase64URL encoded,
    ⟨signed, signs, standsFor_of_decodeBase64URL unsigned⟩, ?_⟩
  cases found : header.lookup "kid" with
  | some raw =>
    rw [found] at named
    exact ⟨header, raw, named, found, .inl decoded⟩
  | none =>
    rw [found, Option.none_or] at named present
    -- an empty unprotected header has no key id
    cases also : unprotected.lookup "kid" with
    | none => exact absurd (by rw [also]; rfl) present
    | some raw =>
      rw [also] at named
      refine ⟨unprotected, raw, named, also, .inr ?_⟩
      split at separate
      · cases separate
        cases also
      · exact withContext_eq_ok.mp separate

theorem carriesSignatures_of_signatureObjects {envelope : RawObject} {raws : List Bytes}
    (objects : signatureObjects library envelope = .ok raws) :
    CarriesSignatures library envelope raws := by
  simp only [signatureObjects, throw_bind, ite_error_eq_ok] at objects
  obtain ⟨-, objects⟩ := objects
  split at objects
  · simp only [bind_eq_ok, withContext_eq_ok, ite_error_eq_ok, pure_eq_ok] at objects
    obtain ⟨signatures, array, -, rfl⟩ := objects
    exact .inl array
  · simp only [bind_eq_ok, pure_eq_ok] at objects
    obtain ⟨raw, marshals, rfl⟩ := objects
    refine .inr ⟨_, raw, rfl, marshals, ?_⟩
    simp only [List.foldl_cons, List.foldl_nil, List.forall_mem_cons]
    generalize envelope.slice "protected" = protects
    generalize envelope.slice "header" = heads
    generalize envelope.slice "signature" = signs
    by_cases first : protects = [] <;> by_cases second : heads = [] <;>
      by_cases third : signs = [] <;> simp [first, second, third, Table.slice, -AList.insert_empty]

theorem Verifies.append {signatures : List ParsedJWSSignature} {signature : ParsedJWSSignature}
    (verifies : Verifies library keys payload signatures)
    (fresh : signature.kid ∉ signatures.map (·.kid))
    (accepted : ∀ key, keys.lookup signature.kid = some key →
      verifyPS512 library key signature.protectedText payload signature.signature = .ok ()) :
    Verifies library keys payload (signatures ++ [signature]) where
  distinct := by
    rw [List.map_append, List.map_singleton, ← List.concat_eq_append]
    exact verifies.distinct.concat fresh
  verified other member := by
    rcases List.mem_append.mp member with before | last
    · exact verifies.verified other before
    · rw [List.mem_singleton.mp last]
      exact fun key held => withContext_eq_ok.mp (accepted key held)

theorem SignatureLoop.Knows.step {parsed : List ParsedJWSSignature} {source target : SignatureLoop}
    {entry : Bytes × Nat} (knows : source.Knows library keys policy.requiredKeyID payload parsed)
    (step : verifySignature library keys policy payload source entry = .ok target) :
    ∃ signature, parseJWSSignature library entry.1 = .ok signature ∧
      target.Knows library keys policy.requiredKeyID payload (parsed ++ [signature]) := by
  simp only [verifySignature, throw_bind, ite_error_eq_ok, bind_eq_ok, withContext_eq_ok] at step
  obtain ⟨signature, parses, unseen, step⟩ := step
  have fresh := mt (knows.seen signature.kid).mpr unseen
  have seen : ∀ kid, kid ∈ signature.kid :: source.seenKids ↔
      kid ∈ (parsed ++ [signature]).map (·.kid) := by
    simp [knows.seen, or_comm]
  have kept : source.requiredVerified = true →
      policy.requiredKeyID ∈ (parsed ++ [signature]).map (·.kid) ∧
        (keys.lookup policy.requiredKeyID).isSome := fun before =>
    ⟨(seen _).mp (List.mem_cons_of_mem _ ((knows.seen _).mpr (knows.required before).1)),
      (knows.required before).2⟩
  refine ⟨signature, parses, ?_⟩
  cases found : keys.lookup signature.kid with
  | none =>
    have extended := knows.append fresh (fun key held => by rw [found] at held; cases held)
    rw [found] at step
    by_cases ignored : policy.unknownSignatures = .ignore
    · simp only [ignored, if_true, pure_eq_ok] at step
      subst step
      exact ⟨extended, seen, kept⟩
    · simp only [ignored, if_false, throw, throwThe, MonadExceptOf.throw, reduceCtorEq] at step
  | some key =>
    rw [found] at step
    simp only [bind_eq_ok, withContext_eq_ok, pure_eq_ok] at step
    obtain ⟨⟨⟩, accepted, rfl⟩ := step
    refine ⟨knows.append fresh fun other held => ?_, seen, fun set => ?_⟩
    · rw [found] at held
      exact Option.some.inj held ▸ accepted
    · rcases (Bool.or_eq_true _ _).mp set with before | same
      · exact kept before
      · rw [← eq_of_beq same]
        exact ⟨(seen _).mp List.mem_cons_self, by rw [found]; rfl⟩

/-- A verified envelope. -/
theorem meetsPolicy_of_verifyJWS {verified : VerifiedJWS}
    (accepted : verifyJWS library data keys policy = .ok verified) :
    ∃ effective normalized signatures, effectiveKeys library keys = .ok effective ∧
      policy.normalized = .ok normalized ∧
      MeetsPolicy library effective normalized.requiredKeyID data verified.payload signatures := by
  simp only [verifyJWS, throw_bind, ite_error_eq_ok, bind_eq_ok, withContext_eq_ok,
    pure_eq_ok] at accepted
  obtain ⟨effective, chosen, normalized, checked, envelope, decodes, -, -, payloadString, text,
    raws, objects, final, loop, required, rfl⟩ := accepted
  let motive (seen : List (Bytes × Nat)) (state : SignatureLoop) := ∃ signatures,
    List.Forall₂ (ReadFrom library) (seen.map Prod.fst) signatures ∧
      state.Knows library effective normalized.requiredKeyID (library.utf8 payloadString) signatures
  have start : motive [] {} := ⟨[], .nil, ⟨.nil, fun _ impossible => by cases impossible⟩,
    fun _ => Iff.rfl, fun started => by cases started⟩
  obtain ⟨signatures, parsed, knows⟩ : motive ([] ++ raws.zipIdx) final := by
    refine foldlM_history ?_ loop start
    rintro seen source entry target ⟨signatures, parsed, knows⟩ step
    obtain ⟨signature, parses, knows⟩ := knows.step step
    refine ⟨_, ?_, knows⟩
    rw [List.map_append]
    exact List.rel_append parsed (.cons (readFrom_of_parseJWSSignature parses) .nil)
  obtain ⟨among, known⟩ := knows.required (by simpa using required)
  obtain ⟨signature, member, same⟩ := List.mem_map.mp among
  obtain ⟨key, held⟩ := Option.isSome_iff_exists.mp known
  refine ⟨effective, normalized, signatures, chosen, checked, knows.toVerifies,
    ⟨envelope, payloadString, raws, decodes, (decodeString_eq_ok.mp text).2, rfl,
      carriesSignatures_of_signatureObjects objects, ?_⟩,
    List.count_eq_one_of_mem knows.distinct among,
    signature, member, key, same, held, knows.verified signature member key (same ▸ held)⟩
  simpa only [List.nil_append, List.zipIdx_map_fst] using parsed

/-- A verified envelope: the required signer's key authenticates the returned payload. -/
theorem authenticates_of_verifyJWS {verified : VerifiedJWS} (nonempty : policy.requiredKeyID ≠ "")
    (accepted : verifyJWS library data keys policy = .ok verified) :
    ∃ effective key, effectiveKeys library keys = .ok effective ∧
      effective.lookup policy.requiredKeyID = some key ∧
      Authenticates library key verified.payload := by
  obtain ⟨effective, normalized, signatures, chosen, checked, meets⟩ :=
    meetsPolicy_of_verifyJWS accepted
  simp only [VerificationPolicy.normalized, nonempty, if_false, throw_bind, ite_error_eq_ok,
    pure_eq_ok] at checked
  obtain ⟨-, rfl⟩ := checked
  obtain ⟨signature, -, key, -, held, verifies⟩ := meets.required
  exact ⟨effective, key, chosen, held, _, _, verifies⟩

end Verification

end DalecHomebrew.Homebrew.Metadata
