import DalecHomebrew.Homebrew.Signatures

/-!
# The two serializations of an envelope

A flattened envelope and the general one with its single signature are parsed by
the same code.  The raw members of the two need not be the same bytes: marshalling
the flattened members compacts and escapes them.  They stand for the same JSON
values, and that is all the verification depends on.
-/

namespace DalecHomebrew.Homebrew.Metadata

open DalecHomebrew.Catalog (Bytes)
open Foundation

variable {PublicKey : Type} {library : SignatureLibrary PublicKey} {alike : Bytes → Bytes → Prop}

/-- The members of two objects stand for the same JSON values. -/
def SameMembers (alike : Bytes → Bytes → Prop) (members others : RawObject) : Prop :=
  ∀ name, Option.Rel alike (members.lookup name) (others.lookup name)

/-- Raw texts of one JSON value, whatever their white space and escapes: what is decoded from
one of them is decoded from the other, and marshalling keeps the values of the members. -/
structure SignatureLibrary.Respects (library : SignatureLibrary PublicKey)
    (alike : Bytes → Bytes → Prop) : Prop where
  symm : ∀ left right, alike left right → alike right left
  trans : ∀ left middle right, alike left middle → alike middle right → alike left right
  nonempty : ∀ left right, alike left right → right ≠ []
  string : ∀ left right text, alike left right → library.unmarshalString left = .ok text →
    library.unmarshalString right = .ok text
  object : ∀ left right members, alike left right → library.decodeJSONObject left = .ok members →
    ∃ others, library.decodeJSONObject right = .ok others ∧ SameMembers alike members others
  members : ∀ text object name value, library.decodeJSONObject text = .ok object →
    object.lookup name = some value → value ≠ []
  marshal : ∀ text object members, library.decodeJSONObject text = .ok object →
    (∀ name, members.lookup name = (object.erase "payload").lookup name) →
    ∃ raw others, library.marshalObject members = .ok raw ∧
      library.decodeJSONObject raw = .ok others ∧
      SameMembers alike (object.erase "payload") others

section

variable (json : library.Respects alike) {members others envelope whole : RawObject}
  {data general single : Bytes} {keys : KeySet PublicKey} {policy : VerificationPolicy}

include json

variable {left right : Option Bytes}

theorem rel_symm (same : Option.Rel alike left right) : Option.Rel alike right left := by
  cases same with
  | none => exact .none
  | some same => exact .some (json.symm _ _ same)

theorem rel_of_common {common : Option Bytes}
    (one : Option.Rel alike common left) (other : Option.Rel alike common right) :
    Option.Rel alike left right := by
  cases one with
  | none => exact other
  | some one =>
    cases other with
    | some other => exact .some (json.trans _ _ _ (json.symm _ _ one) other)

theorem decodeString_of_rel {field text : String} (same : Option.Rel alike left right)
    (decodes : decodeString library (left.getD []) field = .ok text) :
    decodeString library (right.getD []) field = .ok text := by
  cases same with
  | none => exact decodes
  | some same =>
    rw [Option.getD_some, decodeString_eq_ok] at decodes ⊢
    exact ⟨json.nonempty _ _ same, json.string _ _ _ same decodes.2⟩

omit json in
theorem isSome_of_rel (same : Option.Rel alike left right) : right.isSome = left.isSome := by
  cases same <;> rfl

omit json in
theorem mem_keys_of_rel {name : String}
    (same : Option.Rel alike (members.lookup name) (others.lookup name)) :
    name ∈ others.keys ↔ name ∈ members.keys := by
  rw [← AList.mem_keys, ← AList.mem_keys, ← AList.lookup_isSome, ← AList.lookup_isSome,
    isSome_of_rel same]

theorem unprotected_of_rel (same : Option.Rel alike left right)
    (decodes : (if left.getD [] = [] then pure ∅
      else withContext "unprotected header" (library.decodeJSONObject (left.getD []))) =
      .ok members) :
    ∃ others : RawObject, (if right.getD [] = [] then pure ∅
        else withContext "unprotected header" (library.decodeJSONObject (right.getD []))) =
        .ok others ∧
      SameMembers alike members others := by
  cases same with
  | none =>
    cases decodes
    exact ⟨∅, rfl, fun name => .none⟩
  | some same =>
    rw [Option.getD_some, if_neg (json.nonempty _ _ (json.symm _ _ same)), withContext_eq_ok]
      at decodes
    simp only [Option.getD_some, if_neg (json.nonempty _ _ same), withContext_eq_ok]
    exact json.object _ _ _ same decodes

/-- A signature object is parsed as its JSON value says. -/
theorem parseJWSSignature_of_same {left right : Bytes} {signature : ParsedJWSSignature}
    (decodes : library.decodeJSONObject left = .ok members)
    (also : library.decodeJSONObject right = .ok others) (same : SameMembers alike members others)
    (parses : parseJWSSignature library left = .ok signature) :
    parseJWSSignature library right = .ok signature := by
  simp only [parseJWSSignature, throw_bind, ite_error_eq_ok, bind_eq_ok, withContext_eq_ok,
    ite_bind_eq_ok, decodes, also, Except.ok.injEq, exists_eq_left'] at parses ⊢
  obtain ⟨⟨⟩, fields, text, protects, present, protectedJSON, encoded, header,
    decoded, unprotected, separate, ⟨⟩, disjoint, ⟨⟩, checked, kid, named, nonempty, signed,
    signs, written, bytes, unsigned, made⟩ := parses
  obtain ⟨unprotected', separate', headers⟩ := unprotected_of_rel json (same "header") separate
  simp only [forM_eq_ok, ite_throw_eq_ok] at fields disjoint
  refine ⟨⟨⟩, ?_, text, decodeString_of_rel json (same _) protects, present,
    protectedJSON, encoded, header, decoded, unprotected', separate', ⟨⟩, ?_, ⟨⟩, checked, kid, ?_,
    nonempty, signed, decodeString_of_rel json (same _) signs,
    written, bytes, unsigned, made⟩
  · simp only [forM_eq_ok, ite_throw_eq_ok]
    exact fun name member => fields name ((mem_keys_of_rel (same name)).mp member)
  · simp only [forM_eq_ok, ite_throw_eq_ok]
    exact fun name member => isSome_of_rel (headers name) ▸ disjoint name member
  · cases found : header.lookup "kid" with
    | none =>
      rw [found] at named
      exact decodeString_of_rel json (headers "kid") named
    | some raw =>
      rw [found] at named
      exact named

/-! ## Flattened and general envelopes -/

/-- `general` is the general serialization of the flattened envelope `data`: the same payload, and
one signature object with the other members of `data`. -/
def GeneralOf (library : SignatureLibrary PublicKey) (alike : Bytes → Bytes → Prop)
    (data general : Bytes) : Prop :=
  ∃ envelope whole single object, library.decodeJSONObject data = .ok envelope ∧
    library.decodeJSONObject general = .ok whole ∧
    (∀ name ∈ envelope.keys, name ∈ ["payload", "protected", "header", "signature"]) ∧
    (∃ name ∈ envelope.keys, name ≠ "payload") ∧
    whole.keys.Perm ["payload", "signatures"] ∧
    Option.Rel alike (envelope.lookup "payload") (whole.lookup "payload") ∧
    library.unmarshalArray (whole.slice "signatures") = .ok [single] ∧
    library.decodeJSONObject single = .ok object ∧
    SameMembers alike (envelope.erase "payload") object

omit json in
/-- The loop that collects the members of a flattened envelope. -/
theorem lookup_foldl_members {name : String}
    (nonempty : ∀ value, envelope.lookup name = some value → value ≠ []) (fields : List String) :
    ∀ members : RawObject, (fields.foldl (fun (members : RawObject) field =>
        if envelope.slice field = [] then members
        else members.insert field (envelope.slice field)) members).lookup name =
      if name ∈ fields then (envelope.lookup name).or (members.lookup name)
      else members.lookup name := by
  induction fields with
  | nil => exact fun members => rfl
  | cons field rest ih =>
    intro members
    rw [List.foldl_cons, ih]
    by_cases here : name = field
    · subst here
      cases found : envelope.lookup name with
      | none => simp [Table.slice, found]
      | some value => simp [Table.slice, found, nonempty value found]
    · by_cases empty : envelope.slice field = [] <;>
        simp [here, empty, AList.lookup_insert_ne here]

theorem slice_eq_nil {text : Bytes} {object : RawObject}
    {name : String} (decodes : library.decodeJSONObject text = .ok object) :
    object.slice name = [] ↔ name ∉ object.keys := by
  cases found : object.lookup name with
  | none => simp [Table.slice, Table.mem_keys_iff, found]
  | some value =>
    simp [Table.slice, Table.mem_keys_iff, found, json.members _ _ _ _ decodes found]

theorem signatureObjects_flattened (decodes : library.decodeJSONObject data = .ok envelope)
    (members : ∀ name ∈ envelope.keys, name ∈ ["payload", "protected", "header", "signature"])
    (signed : ∃ name ∈ envelope.keys, name ≠ "payload") :
    ∃ raw object, signatureObjects library envelope = .ok [raw] ∧
      library.decodeJSONObject raw = .ok object ∧
      SameMembers alike (envelope.erase "payload") object := by
  have general : envelope.slice "signatures" = [] :=
    (slice_eq_nil json decodes).mpr fun member => by simpa using members _ member
  have flattened : envelope.slice "protected" ≠ [] ∨ envelope.slice "header" ≠ [] ∨
      envelope.slice "signature" ≠ [] := by
    obtain ⟨name, member, other⟩ := signed
    have known := members name member
    simp only [ne_eq, slice_eq_nil json decodes, not_not]
    simp only [List.mem_cons, List.not_mem_nil, or_false] at known
    rcases known with rfl | rfl | rfl | rfl
    · exact absurd rfl other
    · exact .inl member
    · exact .inr (.inl member)
    · exact .inr (.inr member)
  have collected : ∀ name, (["protected", "header", "signature"].foldl
      (fun (members : RawObject) field =>
        if envelope.slice field = [] then members else members.insert field (envelope.slice field))
      ∅).lookup name = (envelope.erase "payload").lookup name := by
    intro name
    rw [lookup_foldl_members (json.members _ _ _ · decodes)]
    by_cases payload : name = "payload"
    · subst payload
      simp
    rw [AList.lookup_erase_ne payload]
    split
    · simp
    case isFalse absent =>
      have missing : name ∉ envelope := fun member => absent <| by
        simpa [payload] using members name member
      rw [AList.lookup_eq_none.mpr missing]
      rfl
  obtain ⟨raw, object, marshals, also, same⟩ := json.marshal data envelope _ decodes
    collected
  refine ⟨raw, object, ?_, also, same⟩
  simp only [signatureObjects, general, flattened, ne_eq, not_true_eq_false, iff_true, if_false,
    marshals, pure, Except.pure, bind, Except.bind]

theorem signatureObjects_general (decodes : library.decodeJSONObject general = .ok whole)
    (members : whole.keys.Perm ["payload", "signatures"])
    (array : library.unmarshalArray (whole.slice "signatures") = .ok [single]) :
    signatureObjects library whole = .ok [single] := by
  simp [signatureObjects, slice_eq_nil json decodes, members.mem_iff, array, withContext, pure,
    Except.pure, bind, Except.bind]

/-- Envelopes that stand for the same payload and the same single signature. -/
theorem verifyJWS_of_same {left right : Bytes} {envelope others : RawObject}
    {raw single : Bytes} {verified : VerifiedJWS}
    (decodes : library.decodeJSONObject left = .ok envelope)
    (also : library.decodeJSONObject right = .ok others)
    (payload : Option.Rel alike (envelope.lookup "payload") (others.lookup "payload"))
    (one : signatureObjects library envelope = .ok [raw])
    (other : signatureObjects library others = .ok [single])
    (same : ∀ signature, parseJWSSignature library raw = .ok signature →
      parseJWSSignature library single = .ok signature)
    (members : ∀ name ∈ others.keys,
      name ∈ ["payload", "signatures", "protected", "header", "signature"])
    (accepted : verifyJWS library left keys policy = .ok verified) :
    verifyJWS library right keys policy =
      .ok { verified with envelopeDigest := library.digestBytes right } := by
  simp only [verifyJWS, throw_bind, ite_error_eq_ok, bind_eq_ok, withContext_eq_ok, decodes, also,
    one, other, Except.ok.injEq, exists_eq_left'] at accepted ⊢
  obtain ⟨effective, chosen, normalized, checked, ⟨⟩, -, text, decoded, final, loop, required,
    made⟩ := accepted
  cases made
  simp only [List.zipIdx_singleton, foldlM_cons_eq_ok, foldlM_nil_eq_ok, exists_eq_right] at loop
  refine ⟨effective, chosen, normalized, checked, ⟨⟩, ?_, text,
    decodeString_of_rel json payload decoded, final, ?_, required, rfl⟩
  · simp only [forM_eq_ok, ite_throw_eq_ok, not_not]
    exact members
  · simp only [List.zipIdx_singleton, foldlM_cons_eq_ok, foldlM_nil_eq_ok, exists_eq_right]
    simp only [verifySignature, bind_eq_ok, withContext_eq_ok] at loop ⊢
    obtain ⟨signature, parses, step⟩ := loop
    exact ⟨signature, same signature parses, step⟩

end

/--
A verified envelope has signatures with different key ids, exactly one of which
is the required one, and those that have a key verify over the payload that is the
text of its own `payload` member.  A
flattened envelope and the general one with its signature are both verified, with
the same payload and evidence, or both rejected; only the digest of the envelope's
own bytes differs.
-/
theorem verifyJWS_policy (json : library.Respects alike) (data : Bytes) (keys : KeySet PublicKey)
    (policy : VerificationPolicy) :
    (∀ verified, verifyJWS library data keys policy = .ok verified →
      ∃ effective normalized signatures, effectiveKeys library keys = .ok effective ∧
        policy.normalized = .ok normalized ∧
        MeetsPolicy library effective normalized.requiredKeyID data verified.payload signatures) ∧
      ∀ general, GeneralOf library alike data general →
        (verifyJWS library data keys policy).toOption.map ({ · with envelopeDigest := "" }) =
          (verifyJWS library general keys policy).toOption.map
            ({ · with envelopeDigest := "" }) := by
  refine ⟨fun verified => meetsPolicy_of_verifyJWS, ?_⟩
  rintro general ⟨envelope, whole, single, object, decodes, also, flat, signed, members, payload,
    array, parsed, same⟩
  obtain ⟨raw, marshalled, one, read, kept⟩ := signatureObjects_flattened json decodes flat signed
  have other := signatureObjects_general json also members array
  have forth : ∀ verified, verifyJWS library data keys policy = .ok verified →
      verifyJWS library general keys policy =
        .ok { verified with envelopeDigest := library.digestBytes general } := fun _ =>
    verifyJWS_of_same json decodes also payload one other
      (fun _ => parseJWSSignature_of_same json read parsed
        fun name => rel_of_common json (kept name) (same name))
      fun name member => List.mem_of_mem_take (i := 2) (members.mem_iff.mp member)
  have back : ∀ verified, verifyJWS library general keys policy = .ok verified →
      verifyJWS library data keys policy =
        .ok { verified with envelopeDigest := library.digestBytes data } := fun _ =>
    verifyJWS_of_same json also decodes (rel_symm json payload) other one
      (fun _ => parseJWSSignature_of_same json parsed read
        fun name => rel_of_common json (same name) (kept name))
      fun name member => by
        have known := flat name member
        simp only [List.mem_cons] at known ⊢
        exact known.imp_right .inr
  cases result : verifyJWS library data keys policy with
  | ok verified =>
    rw [forth verified result]
    rfl
  | error message =>
    cases reverse : verifyJWS library general keys policy with
    | ok verified =>
      rw [back verified reverse] at result
      cases result
    | error message => rfl

namespace Sample

def table (members : List (String × Bytes)) : RawObject :=
  members.foldr (fun member object => object.insert member.1 member.2) ∅

def flattened : RawObject := table [("payload", [10]), ("protected", [11]), ("signature", [12])]

/-- The flattened envelope with another payload under the same signature. -/
def tampered : RawObject := table [("payload", [18]), ("protected", [11]), ("signature", [12])]

def whole : RawObject := table [("payload", [10]), ("signatures", [13])]

/-- The objects that the texts of a small library stand for. -/
def texts : List (Bytes × RawObject) :=
  [([0], flattened), ([1], whole), ([2], flattened.erase "payload"),
    ([3], table [("alg", [14]), ("b64", [15]), ("crit", [16]), ("kid", [17])]),
    ([4], table [("signatures", [13])]), ([5], tampered)]

/-- The UTF-8 bytes of a text. -/
def bytes (text : String) : Bytes := text.toByteArray.data.toList

/-- A library for these texts, whose one key accepts one signature over `header.text`. -/
def tiny : SignatureLibrary Unit where
  decodeJSONObject text := ((texts.lookup text).map .ok).getD (.error "not an object")
  unmarshalString text := (([([10], "text"), ([11], "header"), ([12], "proof"), ([14], "PS512"),
    ([17], "homebrew-1"), ([18], "other")].lookup text).map .ok).getD (.error "not a string")
  unmarshalArray _ := .ok [[2]]
  unmarshalStrings _ := .ok ["b64"]
  unmarshalBool _ := .ok (some false)
  marshalObject members :=
    .ok (if (members.lookup "alg").isSome then [3]
      else if (members.lookup "signatures").isSome then [4] else [2])
  decodePaddedURL _ := .error "not padded"
  decodeRawURL text :=
    (([("header", [3]), ("proof", [4])].lookup text).map .ok).getD (.error "illegal base64 data")
  utf8 := bytes
  sha512 := id
  digestBytes _ := "digest"
  verifyPSS _ digest signature :=
    if digest = bytes "header.text" ∧ signature = [4] then .ok ()
    else .error "crypto/rsa: verification error"
  defaultKeySet := .ok (AList.singleton "homebrew-1" ())

/-- Texts stand for the same value if they are the same. -/
def same (left right : Bytes) : Prop := left = right ∧ left ≠ []

theorem tiny_decodes {text : Bytes} {object : RawObject}
    (decodes : tiny.decodeJSONObject text = .ok object) :
    (∀ value ∈ object.values, value ≠ []) ∧
      ∃ raw, tiny.marshalObject (object.erase "payload") = .ok raw ∧
        tiny.decodeJSONObject raw = .ok (object.erase "payload") := by
  have checked : ∀ entry ∈ texts, (∀ value ∈ entry.2.values, value ≠ []) ∧
      ∃ raw ∈ [[2], [3], [4]], tiny.marshalObject (entry.2.erase "payload") = .ok raw ∧
        tiny.decodeJSONObject raw = .ok (entry.2.erase "payload") := by
    decide
  simp only [tiny] at decodes
  cases found : texts.lookup text with
  | none =>
    rw [found] at decodes
    cases decodes
  | some members =>
    rw [found] at decodes
    cases decodes
    obtain ⟨before, after, split, -⟩ := List.lookup_eq_some_iff.mp found
    obtain ⟨values, raw, -, marshals⟩ := checked (text, object) (by simp [split])
    exact ⟨values, raw, marshals⟩

theorem sameMembers_refl {object : RawObject} (values : ∀ value ∈ object.values, value ≠ []) :
    SameMembers same object object := by
  intro name
  cases found : object.lookup name with
  | none => exact .none
  | some value => exact .some ⟨rfl, values value (Table.mem_values.mpr ⟨name, found⟩)⟩

theorem respects : tiny.Respects same := by
  refine ⟨?_, ?_, ?_, ?_, ?_, ?_, ?_⟩
  · rintro left _ ⟨rfl, nonempty⟩
    exact ⟨rfl, nonempty⟩
  · rintro left _ _ ⟨rfl, nonempty⟩ ⟨rfl, -⟩
    exact ⟨rfl, nonempty⟩
  · rintro left _ ⟨rfl, nonempty⟩
    exact nonempty
  · rintro left _ text ⟨rfl, -⟩ decodes
    exact decodes
  · rintro left _ object ⟨rfl, -⟩ decodes
    exact ⟨object, decodes, sameMembers_refl (tiny_decodes decodes).1⟩
  · intro text object name value decodes found
    exact (tiny_decodes decodes).1 value (Table.mem_values.mpr ⟨name, found⟩)
  · intro text object members decodes looked
    obtain ⟨-, raw, marshals, again⟩ := tiny_decodes decodes
    refine ⟨raw, _, ?_, again, sameMembers_refl (tiny_decodes again).1⟩
    simpa only [tiny, looked] using marshals

end Sample

/-- Both serializations of an envelope are verified with the bytes of its payload, and the
envelope with another payload is not. -/
theorem verifyJWS_policy_tiny :
    GeneralOf Sample.tiny Sample.same [0] [1] ∧
      (∃ verified effective normalized signatures,
        verifyJWS Sample.tiny [0] ∅ ⟨"", .reject⟩ = .ok verified ∧
        verified.payload = Sample.bytes "text" ∧
        MeetsPolicy Sample.tiny effective normalized [0] verified.payload signatures) ∧
      (verifyJWS Sample.tiny [1] ∅ ⟨"", .reject⟩).toBool = true ∧
      (verifyJWS Sample.tiny [5] ∅ ⟨"", .reject⟩).toBool = false := by
  have general : GeneralOf Sample.tiny Sample.same [0] [1] := by
    refine ⟨Sample.flattened, Sample.whole, [2], _, rfl, rfl, by decide,
      by decide, by decide, ?_, rfl, rfl, ?_⟩
    · rw [show Sample.flattened.lookup "payload" = some [10] by decide,
        show Sample.whole.lookup "payload" = some [10] by decide]
      exact .some ⟨rfl, by decide⟩
    · exact Sample.sameMembers_refl (by decide)
  have accepted : (verifyJWS Sample.tiny [0] ∅ ⟨"", .reject⟩).toOption.map (·.payload) =
      some (Sample.bytes "text") := by decide
  obtain ⟨policy, alike⟩ := verifyJWS_policy Sample.respects [0] ∅ ⟨"", .reject⟩
  have same := alike [1] general
  cases result : verifyJWS Sample.tiny [0] ∅ ⟨"", .reject⟩ with
  | error message =>
    rw [result] at accepted
    cases accepted
  | ok verified =>
    rw [result] at accepted same
    obtain ⟨effective, normalized, signatures, -, -, meets⟩ := policy verified result
    refine ⟨general, ⟨verified, effective, _, signatures, rfl, Option.some.inj accepted, meets⟩,
      ?_, by decide⟩
    cases other : verifyJWS Sample.tiny [1] ∅ ⟨"", .reject⟩ with
    | error message =>
      rw [other] at same
      cases same
    | ok => rfl

end DalecHomebrew.Homebrew.Metadata
