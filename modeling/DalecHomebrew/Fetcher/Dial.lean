import DalecHomebrew.Fetcher.Contract

/-!
# Dialling public addresses

The default transport of `internal/fetcher/network.go`: every dial looks its host
up again, refuses the whole answer when one address in it is not public, and
connects to the addresses of this answer only.
-/

namespace DalecHomebrew.Fetcher

open Foundation Foundation.GoString

/-! ## Addresses -/

/-- `netip.Addr`. -/
inductive Address where
  | zero
  | v4 (bits : BitVec 32)
  | v6 (bits : BitVec 128) (zone : String)
deriving DecidableEq

namespace Address

def zone : Address → String
  | .v6 _ zone => zone
  | _ => ""

/-- An IPv4-mapped address loses its zone, too. -/
def unmap : Address → Address
  | .v6 bits zone => if bits >>> 32 = 0xffff then .v4 (bits.setWidth 32) else .v6 bits zone
  | address => address

variable (address : Address)

def is4 : Bool := address matches .v4 _

def is6 : Bool := address matches .v6 _ _

/-- `netip.Prefix.Contains` for a prefix of IPv4 addresses, and for one of IPv6 addresses. -/
def within (v4 : List (BitVec 32 × Nat)) (v6 : List (BitVec 128 × Nat)) : Address → Bool
  | .zero => false
  | .v4 bits => v4.any fun (start, length) => bits >>> (32 - length) = start >>> (32 - length)
  | .v6 bits zone => zone = "" ∧
    v6.any fun (start, length) => bits >>> (128 - length) = start >>> (128 - length)

def isUnspecified : Bool := address = .v4 0 ∨ address = .v6 0 ""

def isLoopback : Address → Bool
  | .v6 bits _ => bits = 1
  | address => address.within [(0x7f000000, 8)] []

-- the methods of `netip.Addr` look at the bits and ignore the zone
def withoutZone : Address → Address
  | .v6 bits _ => .v6 bits ""
  | address => address

def isMulticast : Bool :=
  address.withoutZone.within [(0xe0000000, 4)] [(0xff <<< 120, 8)]

def isLinkLocalUnicast : Bool :=
  address.withoutZone.within [(0xa9fe0000, 16)] [(0xfe80 <<< 112, 10)]

def isLinkLocalMulticast : Address → Bool
  | .v6 bits _ => (bits >>> 112) &&& 0xff0f = 0xff02
  | address => address.within [(0xe0000000, 24)] []

def isPrivate : Bool :=
  address.withoutZone.within [(0x0a000000, 8), (0xac100000, 12), (0xc0a80000, 16)]
    [(0xfc <<< 120, 7)]

def isGlobalUnicast : Bool :=
  address ≠ .zero ∧ address ≠ .v4 0 ∧ address ≠ .v4 0xffffffff ∧ address ≠ .v6 0 "" ∧
    !address.isLoopback ∧ !address.isMulticast ∧ !address.isLinkLocalUnicast

end Address

def nonPublicPrefixes4 : List (BitVec 32 × Nat) :=
  [(0x00000000, 8), (0x0a000000, 8), (0x64400000, 10), (0x7f000000, 8), (0xa9fe0000, 16),
    (0xac100000, 12), (0xc0000000, 24), (0xc0000200, 24), (0xc0586300, 24), (0xc0a80000, 16),
    (0xc6120000, 15), (0xc6336400, 24), (0xcb007100, 24), (0xe0000000, 4), (0xf0000000, 4)]

def nonPublicPrefixes6 : List (BitVec 128 × Nat) :=
  [(0, 96), (1, 128), (0x0064ff9b <<< 96, 96), (0x0064ff9b0001 <<< 80, 48), (0x0100 <<< 112, 64),
    (0x2001 <<< 112, 23), (0x20010db8 <<< 96, 32), (0x2002 <<< 112, 16), (0x3fff <<< 112, 20),
    (0x5f00 <<< 112, 16), (0xfc00 <<< 112, 7), (0xfec0 <<< 112, 10), (0xfe80 <<< 112, 10),
    (0xff00 <<< 112, 8)]

def isPublicIP (address : Address) : Bool :=
  if address = .zero ∨ address.zone ≠ "" then false
  else
    let address := address.unmap
    if !address.isGlobalUnicast || address.isPrivate || address.isLoopback ||
        address.isLinkLocalUnicast || address.isLinkLocalMulticast || address.isMulticast ||
        address.isUnspecified then false
    else !address.within nonPublicPrefixes4 nonPublicPrefixes6

/-! ## Lookups and dials -/

inductive DialError where
  | invalidAddress (message : String)
  | port (port : String)
  | literal
  | hostname (message : String)
  | resolve (host message : String)
  | noAddresses (host : String)
  | notPublic (host : String) (address : Address)
  | noPublicAddress (network : String)
  | connect (host : String) (failures : List String)
deriving DecidableEq

/-- One more answer of a lookup; an address that was seen is left out. -/
def addAnswer (host : String) (result : List Address) (answer : Address) :
    Except DialError (List Address) :=
  let address := answer.unmap
  if !isPublicIP address then .error (.notPublic host address)
  else if address ∈ result then .ok result
  else .ok (result ++ [address])

/-- `publicResolver.lookup`; the branch without a unique address is never reached. -/
def lookup (host : String) (answers : Except String (List Address)) :
    Except DialError (List Address) :=
  match answers with
  | .error message => .error (.resolve host message)
  | .ok [] => .error (.noAddresses host)
  | .ok answers => answers.foldlM (addAnswer host) []

/-- A call of the dialer below: a connection to a port of an address. -/
structure Attempt where
  network : String
  address : Address
  port : String
deriving DecidableEq

/-- One dial: what is asked, and what resolver and dialer answer while it lasts. -/
structure Dial where
  network : String
  address : String
  lookupNetIP : String → Except String (List Address)
  connect : Attempt → Except String Unit

/-- The loop over the addresses of a lookup, with the attempts that it makes. -/
def dialAddresses (dial : Dial) (host port : String) (failures : List String) :
    List Address → List Attempt × Except DialError Attempt
  | [] =>
    ([], .error (if failures = [] then .noPublicAddress dial.network else .connect host failures))
  | candidate :: rest =>
    if (dial.network = "tcp4" ∧ !candidate.is4) ∨ (dial.network = "tcp6" ∧ !candidate.is6) then
      dialAddresses dial host port failures rest
    else
      let attempt := { network := dial.network, address := candidate, port }
      match dial.connect attempt with
      | .ok _ => ([attempt], .ok attempt)
      | .error message =>
        let later := dialAddresses dial host port (failures ++ [message]) rest
        (attempt :: later.1, later.2)

def isBracket (character : Char) : Bool := character = '[' ∨ character = ']'

/-- `strings.Trim` of square brackets. -/
def trimBrackets (value : String) : String :=
  String.ofList (((value.toList.dropWhile isBracket).reverse.dropWhile isBracket).reverse)

/-- `publicDialer.DialContext` with the connection attempts that it makes. -/
def dialContext (library : Library) (splitHostPort : String → Except String (String × String))
    (dial : Dial) : List Attempt × Except DialError Attempt :=
  match splitHostPort dial.address with
  | .error message => ([], .error (.invalidAddress message))
  | .ok (host, port) =>
    if port ≠ "443" then ([], .error (.port port))
    else if library.isAddress (trimBrackets host) then ([], .error .literal)
    else
      match normalizeHostname library host with
      | .error message => ([], .error (.hostname message))
      | .ok normalized =>
        match lookup normalized (dial.lookupNetIP normalized) with
        | .error error => ([], .error error)
        | .ok addresses => dialAddresses dial normalized port [] addresses

/-! ## Safety -/

/-- What the loop has passed is public, and what it has collected comes from there. -/
def Passed (passed result : List Address) : Prop :=
  (∀ answer ∈ passed, isPublicIP answer.unmap = true) ∧
    ∀ address ∈ result, ∃ answer ∈ passed, answer.unmap = address

variable {host : String} {answer : Address}

theorem passed_of_addAnswer {passed result target : List Address} (before : Passed passed result)
    (added : addAnswer host result answer = .ok target) : Passed (passed ++ [answer]) target := by
  simp only [addAnswer, ite_error_eq_ok] at added
  obtain ⟨accepted, added⟩ := added
  have origin : ∀ address ∈ target, address ∈ result ∨ address = answer.unmap := by
    split at added
    all_goals cases added
    · exact fun _ => .inl
    · simp
  refine ⟨List.forall_mem_append.mpr ⟨before.1, by simpa using accepted⟩, ?_⟩
  intro address member
  rcases origin address member with old | rfl
  · obtain ⟨other, among, same⟩ := before.2 address old
    exact ⟨other, List.mem_append_left _ among, same⟩
  · exact ⟨answer, by simp, rfl⟩

variable {addresses : List Address}

theorem lookup_ok {answers : Except String (List Address)}
    (found : lookup host answers = .ok addresses) :
    ∃ listed, answers = .ok listed ∧ Passed listed addresses := by
  unfold lookup at found
  split at found
  · cases found
  · cases found
  have start : Passed [] [] := by simp [Passed]
  exact ⟨_, rfl, foldlM_history (fun _ _ _ _ => passed_of_addAnswer) found start⟩

theorem address_of_dialAddresses {dial : Dial} {port : String} {failures : List String}
    {attempt : Attempt} (member : attempt ∈ (dialAddresses dial host port failures addresses).1) :
    attempt.port = port ∧ attempt.address ∈ addresses := by
  induction addresses generalizing failures with
  | nil => cases member
  | cons candidate rest ih =>
    rw [dialAddresses] at member
    split at member
    · exact (ih member).imp_right (List.mem_cons_of_mem _)
    dsimp only at member
    split at member
    · rw [List.mem_singleton.mp member]
      exact ⟨rfl, List.mem_cons_self⟩
    · rcases List.mem_cons.mp member with rfl | later
      · exact ⟨rfl, List.mem_cons_self⟩
      · exact (ih later).imp_right (List.mem_cons_of_mem _)

/-- A DNS answer, which has no zone, is public exactly when its unmapped address is. -/
theorem isPublicIP_unmap (unzoned : answer.zone = "") :
    isPublicIP answer.unmap = isPublicIP answer := by
  cases answer with
  | zero | v4 bits => rfl
  | v6 bits zone =>
    obtain rfl : zone = "" := unzoned
    simp only [Address.unmap]
    split
    · simp [isPublicIP, Address.zone, Address.unmap, *]
    · rfl

/-- The connection attempts of a sequence of dials. -/
def connectionAttempts (library : Library)
    (splitHostPort : String → Except String (String × String)) (dials : List Dial) :
    List (Dial × Attempt) :=
  dials.flatMap fun dial => (dialContext library splitHostPort dial).1.map (dial, ·)

/--
Over every sequence of dials and answers: an attempt goes to port 443 of an address
that passes `isPublicIP` and that the lookup of the same dial returned (unmapped, as
`lookup` returns it), and then every answer of that lookup is public.
-/
theorem dial_safety (library : Library)
    (splitHostPort : String → Except String (String × String)) (dials : List Dial) :
    ∀ entry ∈ connectionAttempts library splitHostPort dials,
      entry.2.port = "443" ∧ isPublicIP entry.2.address = true ∧
        ∃ host normalized answers, splitHostPort entry.1.address = .ok (host, "443") ∧
          normalizeHostname library host = .ok normalized ∧
          entry.1.lookupNetIP normalized = .ok answers ∧
          (∃ answer ∈ answers, answer.unmap = entry.2.address) ∧
          ∀ answer ∈ answers, isPublicIP answer.unmap = true ∧
            (answer.zone = "" → isPublicIP answer = true) := by
  intro entry listed
  obtain ⟨dial, _, made⟩ := List.mem_flatMap.mp listed
  obtain ⟨attempt, member, rfl⟩ := List.mem_map.mp made
  unfold dialContext at member
  -- every branch but the last makes no attempt
  repeat' split at member
  any_goals cases member
  rename_i host port split isPort _ _ normalized named _ addresses found
  obtain rfl : port = "443" := not_not.mp isPort
  obtain ⟨answers, looked, isPublic, origin⟩ := lookup_ok found
  obtain ⟨samePort, among⟩ := address_of_dialAddresses member
  obtain ⟨answer, answered, unmapped⟩ := origin attempt.address among
  refine ⟨samePort, unmapped ▸ isPublic answer answered, host, normalized, answers, split, named,
    looked, ⟨answer, answered, unmapped⟩, fun other answered => ⟨isPublic other answered, ?_⟩⟩
  intro unzoned
  exact (isPublicIP_unmap unzoned).symm.trans (isPublic other answered)

def sampleDial : Dial where
  network := "tcp"
  address := "ghcr.io:443"
  lookupNetIP := fun _ => .ok [.v6 0xffff8c522179 ""]
  connect := fun _ => .error "refused"

theorem dial_safety_mapped :
    isPublicIP (.v4 0x8c522179) = true ∧ ∃ answers, sampleDial.lookupNetIP "ghcr.io" = .ok answers ∧
        ∀ answer ∈ answers, isPublicIP answer.unmap = true := by
  have safe := dial_safety Sample.library.toLibrary (fun _ => .ok ("ghcr.io", "443")) [sampleDial]
    (sampleDial, { network := "tcp", address := .v4 0x8c522179, port := "443" })
    (List.mem_of_mem_head? (by rfl))
  obtain ⟨-, isPublic, _, _, answers, _, _, looked, _, all⟩ := safe
  exact ⟨isPublic, answers, looked, fun answer listed => (all answer listed).1⟩

end DalecHomebrew.Fetcher
