import DalecHomebrew.CatalogService.Sequences
import DalecHomebrew.Foundation.Durable

/-!
# Tap sequences on a device

`nextSequence` as file-system calls: the directory of an owner is an entry of
`sequences`, and the counter of a tap is an entry of the directory of its
owner.  `atomicWrite` syncs the directory of the owner, and nothing syncs
`sequences`: a number is lost with the directory of its owner unless the entry
of that directory was durable before.
-/

namespace DalecHomebrew.CatalogService

open Catalog Foundation

/-! ## The device -/

/-- One file-system call of `nextSequence`. -/
inductive SequenceWrite where
  | mkdir (owner : String)
  | rename (key : String × String) (state : SequenceState)
  | syncOwner (owner : String)

/-- The directory `sequences` and, by owner and tap name, the files below it. -/
structure SequenceDisk where
  owners : Directory String Unit
  counters : Directory (String × String) SequenceState

/-- One call of `nextSequence` with what the operating system answers. -/
structure SequenceCall where
  tap : TapID
  sourceIdentity : String
  fault : Store.SequenceFault := .completed
  /-- The sync is not refused with `EINVAL` or `ENOTSUP`, which `syncDirectory` ignores. -/
  synced : Bool := true

namespace SequenceCall

/-- The name of the counter below `sequences`. -/
def key (call : SequenceCall) : String × String := (call.tap.owner, call.tap.name)

/-- The call reaches the directory of the owner. -/
def admitted (call : SequenceCall) : Bool :=
  call.tap.validate.isOk && !call.tap.isCore &&
    decide (validateSHA256Digest call.sourceIdentity = [])

end SequenceCall

namespace SequenceDisk

variable (disk : SequenceDisk)

/-- The store that `nextSequence` sees; it reads no other directory. -/
def store : Store :=
  { Store.empty with sequences := disk.counters.current }

/-- `nextSequence` on the files that are visible. -/
def nextSequence (call : SequenceCall) : Store × Except String UInt64 :=
  disk.store.nextSequence call.tap call.sourceIdentity call.fault

theorem nextSequence_spec (call : SequenceCall) : Advances disk.store (disk.nextSequence call).1 ∧
      ∀ sequence, (disk.nextSequence call).2 = .ok sequence →
        Allocated (disk.nextSequence call).1 call.tap call.sourceIdentity sequence :=
  Store.nextSequence_spec rfl

def write : SequenceWrite → SequenceDisk
  | .mkdir owner => { disk with owners := disk.owners.record (.put owner ()) }
  | .rename key state => { disk with counters := disk.counters.record (.put key state) }
  | .syncOwner owner => { disk with counters := disk.counters.syncWhere (·.1 = owner) }

/-- The file-system calls of `nextSequence`, in their order. -/
def writes (call : SequenceCall) : List SequenceWrite :=
  let made :=
    if call.admitted ∧ disk.owners.current.lookup call.tap.owner = none ∧
        call.fault ≠ .directory then
      [.mkdir call.tap.owner]
    else []
  made ++
    match (disk.nextSequence call).1.sequences.lookup call.key with
    | none => []
    | some state =>
      if disk.counters.current.lookup call.key = some state then []
      else
        match (disk.nextSequence call).2 with
        | .error _ => [.rename call.key state]
        | .ok _ =>
          .rename call.key state ::
            if call.synced then [.syncOwner call.tap.owner] else []

def writeAll (writes : List SequenceWrite) : SequenceDisk :=
  writes.foldl write disk

/-- What a power loss leaves: the files of an owner are lost with its directory. -/
def survive (owners counters : List Bool) : SequenceDisk :=
  let left := disk.owners.survive owners
  let files := (disk.counters.survive counters).durable
  { owners := left
    counters :=
      { durable := Update.applyAll
          ((files.keys.filter fun key => left.durable.lookup key.1 = none).map .remove) files
        pending := [] } }

/-- Whatever a power loss leaves, the counter of the tap is at least `sequence`. -/
def Keeps (tap : TapID) (sequence : UInt64) : Prop :=
  disk.owners.Holds tap.owner () ∧
    disk.counters.Keeps (tap.owner, tap.name) fun state => sequence ≤ state.sequence

variable {disk : SequenceDisk} {tap : TapID} {sequence : UInt64}

/-- A write is harmless for a number: it makes no durable directory, and no counter below it. -/
def Harmless (tap : TapID) (sequence : UInt64) : SequenceWrite → Prop
  | .mkdir owner => owner ≠ tap.owner
  | .rename key state => key = (tap.owner, tap.name) → sequence ≤ state.sequence
  | .syncOwner _ => True

section

variable (keeps : disk.Keeps tap sequence)

include keeps

theorem Keeps.write {write : SequenceWrite}
    (harmless : Harmless tap sequence write) : (disk.write write).Keeps tap sequence := by
  cases write with
  | mkdir owner => exact ⟨keeps.1.record harmless, keeps.2⟩
  | rename key state =>
    refine ⟨keeps.1, keeps.2.record fun same => ?_⟩
    obtain rfl : key = (tap.owner, tap.name) := same
    exact ⟨state, rfl, harmless rfl⟩
  | syncOwner owner => exact ⟨keeps.1, keeps.2.syncWhere _⟩

theorem Keeps.writeAll {writes : List SequenceWrite}
    (harmless : ∀ write ∈ writes, Harmless tap sequence write) :
    (disk.writeAll writes).Keeps tap sequence := by
  induction writes generalizing disk with
  | nil => exact keeps
  | cons first rest ih =>
    rw [List.forall_mem_cons] at harmless
    exact ih (keeps.write harmless.1) harmless.2

theorem Keeps.survive (owners counters : List Bool) :
    (disk.survive owners counters).Keeps tap sequence := by
  have owned := keeps.1.survive owners
  obtain ⟨state, found, reached⟩ := (keeps.2.survive counters).1
  refine ⟨owned, ⟨state, ?_, reached⟩, by simp [SequenceDisk.survive]⟩
  -- no file of an owner whose directory survives is removed
  refine (Update.lookup_applyAll_untouched ?_ _).trans found
  intro update member same
  obtain ⟨key, removed, rfl⟩ := List.mem_map.mp member
  obtain rfl : key = (tap.owner, tap.name) := same
  simp [owned.1] at removed

/-- The calls of `nextSequence` are harmless for every number that is kept. -/
theorem Keeps.harmless (call : SequenceCall) :
    ∀ write ∈ disk.writes call, Harmless tap sequence write := by
  obtain ⟨advances, -⟩ := disk.nextSequence_spec call
  obtain ⟨before, visible, reached⟩ := keeps.2.lookup_current
  intro write member
  rcases List.mem_append.mp member with made | written
  · split at made
    · rename_i missing
      rw [List.mem_singleton.mp made]
      intro same
      rw [same, keeps.1.lookup_current] at missing
      simp at missing
    · cases made
  · have renamed : ∀ state, (disk.nextSequence call).1.sequences.lookup call.key = some state →
        Harmless tap sequence (.rename call.key state) := by
      intro state found same
      obtain ⟨after, isAfter, successor⟩ := advances _ before visible
      rw [← same, found] at isAfter
      obtain rfl := Option.some.inj isAfter
      rcases successor with rfl | ⟨_, next⟩
      · exact reached
      · rw [UInt64.le_iff_toNat_le] at reached ⊢
        omega
    split at written
    · cases written
    rename_i state found
    repeat' split at written
    all_goals simp only [List.mem_cons, List.not_mem_nil, or_false] at written
    · rw [written]
      exact renamed state found
    · rcases written with rfl | rfl
      · exact renamed state found
      · trivial
    · rw [written]
      exact renamed state found

end

end SequenceDisk

/-! ## Runs -/

/-- The device and every number that `nextSequence` has returned. -/
structure SequenceRun where
  disk : SequenceDisk
  returned : List (TapID × UInt64) := []

inductive SequenceLabel where
  /-- A call that nothing interrupts. -/
  | call (call : SequenceCall)
  /-- The power fails after some file-system calls of a call; the lists choose what survives. -/
  | powerLoss (call : SequenceCall) (writes : Nat) (owners counters : List Bool)

def sequenceStep (source : SequenceRun) : SequenceLabel → SequenceRun
  | .call call =>
    { disk := source.disk.writeAll (source.disk.writes call)
      returned :=
        match (source.disk.nextSequence call).2 with
        | .ok sequence => (call.tap, sequence) :: source.returned
        | .error _ => source.returned }
  | .powerLoss call writes owners counters =>
    { source with
      disk := (source.disk.writeAll ((source.disk.writes call).take writes)).survive
        owners counters }

def sequenceMachine : Foundation.Machine SequenceRun SequenceLabel where
  step := fun source label => some (sequenceStep source label)

/--
A call finds the entry of the owner directory durable, and so is the counter if
it already has the source identity of the call; a sync of the owner directory
is not ignored.
-/
def ownerDurable (source : SequenceRun) : SequenceLabel → Bool
  | .call call =>
    source.disk.owners.Holds call.tap.owner () ∧ call.synced ∧
      ((source.disk.counters.current.lookup call.key).any (·.sourceIdentity = call.sourceIdentity) →
        ∀ update ∈ source.disk.counters.pending, update.key ≠ call.key)
  | .powerLoss .. => true

/-- Every number returned so far survives every power loss. -/
def SequenceRun.Lasting (state : SequenceRun) : Prop :=
  ∀ item ∈ state.returned, state.disk.Keeps item.1 item.2

/-- Under the condition the number that a call returns survives every power loss. -/
theorem keeps_of_returned {source : SequenceRun} {call : SequenceCall} {sequence : UInt64}
    (durable : ownerDurable source (.call call) = true)
    (returned : (source.disk.nextSequence call).2 = .ok sequence) :
    (source.disk.writeAll (source.disk.writes call)).Keeps call.tap sequence := by
  simp only [ownerDurable, decide_eq_true_eq] at durable
  obtain ⟨owned, synced, settled⟩ := durable
  obtain ⟨after, found, _, rfl, identity⟩ :=
    (source.disk.nextSequence_spec call).2 sequence returned
  change (source.disk.nextSequence call).1.sequences.lookup call.key = some after at found
  simp only [SequenceDisk.writes, owned.lookup_current, found, returned, synced]
  by_cases same : source.disk.counters.current.lookup call.key = some after
  · -- the counter is found with this source identity: nothing is written
    have untouched := settled (by simpa [same] using identity)
    have held : source.disk.counters.durable.lookup call.key = some after :=
      (Update.lookup_applyAll_untouched untouched _).symm.trans same
    have keeps : source.disk.Keeps call.tap after.sequence :=
      ⟨owned, Directory.Holds.keeps ⟨held, untouched⟩ (UInt64.le_refl _)⟩
    simpa [same, SequenceDisk.writeAll] using keeps
  · have held := @Directory.holds_syncWhere_record _ _ _ source.disk.counters call.key after
      (·.1 = call.tap.owner) (by simp [SequenceCall.key])
    have keeps : ((source.disk.write (.rename call.key after)).write
        (.syncOwner call.tap.owner)).Keeps call.tap after.sequence :=
      ⟨owned, held.keeps (UInt64.le_refl _)⟩
    simpa [same, SequenceDisk.writeAll] using keeps

theorem SequenceRun.Lasting.step {source : SequenceRun} (lasting : source.Lasting)
    {label : SequenceLabel} (durable : ownerDurable source label = true) :
    (sequenceStep source label).Lasting := by
  cases label with
  | call call =>
    have old : ∀ item ∈ source.returned,
        (source.disk.writeAll (source.disk.writes call)).Keeps item.1 item.2 :=
      fun item member => (lasting item member).writeAll ((lasting item member).harmless call)
    cases returned : (source.disk.nextSequence call).2 with
    | error message => simpa [SequenceRun.Lasting, sequenceStep, returned] using old
    | ok sequence =>
      simp only [SequenceRun.Lasting, sequenceStep, returned, List.forall_mem_cons]
      exact ⟨keeps_of_returned durable returned, old⟩
  | powerLoss call writes owners counters =>
    intro item member
    have keeps := lasting item member
    exact (keeps.writeAll fun write among =>
      keeps.harmless call write (List.mem_of_mem_take among)).survive owners counters

/--
In every run of calls and power losses from any device in which the owner
directory of each call is durable, the counter of every tap is at least every
number that `nextSequence` has returned for it.
-/
theorem sequences_durable {initial : SequenceDisk} {labels : List SequenceLabel}
    {target : SequenceRun}
    (run : sequenceMachine.Run ownerDurable { disk := initial } labels target) :
    ∀ tap sequence, (tap, sequence) ∈ target.returned →
      ∃ state, target.disk.counters.current.lookup (tap.owner, tap.name) = some state ∧
        sequence ≤ state.sequence := by
  have lasting : target.Lasting := by
    refine run.preserves (fun source label middle holds permitted taken => ?_)
      (by simp [SequenceRun.Lasting])
    cases taken
    exact holds.step permitted
  intro tap sequence member
  exact (lasting (tap, sequence) member).2.lookup_current

namespace Sample

/-- The first catalog of a tap, and a power loss after the call. -/
def firstSequence : List SequenceLabel :=
  let call : SequenceCall := { tap := "acme/tools", sourceIdentity := "sha256:" ++ alphaHex }
  [.call call, .powerLoss call 0 [] []]

/-- A device with a durable directory of one owner. -/
def knownOwner : SequenceDisk where
  owners := { durable := AList.insert "acme" () ∅, pending := [] }
  counters := .empty

end Sample

/-- The directory of the owner was durable before: its first counter survives the power loss. -/
theorem sequences_durable_known_owner : ∃ labels target,
    sequenceMachine.Run ownerDurable { disk := Sample.knownOwner } labels target ∧
      ("acme/tools", 1) ∈ target.returned ∧
      ∃ state, target.disk.counters.current.lookup ("acme", "tools") = some state ∧
        1 ≤ state.sequence := by
  have reached : ∃ labels target,
      sequenceMachine.Run ownerDurable { disk := Sample.knownOwner } labels target ∧
        ("acme/tools", 1) ∈ target.returned :=
    Foundation.Machine.exists_run _ Sample.firstSequence (by decide +kernel)
  obtain ⟨labels, target, run, returned⟩ := reached
  exact ⟨labels, target, run, returned, sequences_durable run "acme/tools" 1 returned⟩

/-- The first tap of a new owner: the number is returned, and no counter survives the power loss. -/
theorem sequences_lost_new_owner : ∃ labels target, sequenceMachine.Run Foundation.Machine.unguarded
      { disk := { owners := .empty, counters := .empty } } labels target ∧
    ("acme/tools", 1) ∈ target.returned ∧
    target.disk.counters.current.lookup ("acme", "tools") = none := by
  exact Foundation.Machine.exists_run _ Sample.firstSequence (by decide +kernel)

end DalecHomebrew.CatalogService
