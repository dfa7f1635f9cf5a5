import DalecHomebrew.CatalogService.Handlers
import DalecHomebrew.Foundation.Durable

/-!
# The operation store on a device

`putRequest`, `saveOperation` and `removeOperation` as sequences of
file-system calls on two directories, `operations` and `requests`.  A call is
visible at once; it is durable when the sync of its directory has completed.

Both write functions sync the content of a temporary file before they link or
rename it to its final name, so an entry never has half a content.  The
temporary files do not have names that the store reads and are left out.
-/

namespace DalecHomebrew.CatalogService

open Catalog Foundation

variable {documents : Documents} {settings : Settings}

/-! ## Calls of the store and their file-system calls -/

/-- One file-system call on the two directories. -/
inductive Write where
  | operation (update : Update String StoredOperation)
  | request (update : Update String Bytes)
  | syncOperations
  | syncRequests

/-- One call of the store that may write, with what the operating system answers. -/
inductive StoreCall where
  | putRequest (id : String) (data : Bytes) (fault : WriteFault)
  | saveOperation (operation : Operation) (fault : WriteFault) (modTime : Time)
  | removeOperation (id : String) (fault : Store.RemoveFault)

namespace StoreCall

variable (documents : Documents)

/-- The store after the call. -/
def apply (store : Store) : StoreCall → Store
  | .putRequest id data fault => (store.putRequest documents id data fault).1
  | .saveOperation operation fault modTime =>
    (store.saveOperation documents operation fault modTime).1
  | .removeOperation id fault => (store.removeOperation id fault).1

/-- The file-system calls of the call, in their order. -/
def writes (store : Store) : StoreCall → List Write
  | .putRequest id data fault =>
    if !validOperationID id then []
    else
      match documents.decodeRequest data with
      | .error _ => []
      | .ok _ =>
        match store.requests.lookup id with
        | some _ => []
        | none =>
          match fault with
          | .completed => [.request (.put id data), .syncRequests]
          | .unwritten => []
          | .unsynced | .ignored => [.request (.put id data)]
  | .saveOperation operation fault modTime =>
    match validateOperation documents operation with
    | _ :: _ => []
    | [] =>
      if maxOperationBytes < (documents.marshalOperation operation).length then []
      else
        match fault with
        | .completed =>
          [.operation (.put operation.id { operation, modTime }), .syncOperations]
        | .unwritten => []
        | .unsynced | .ignored => [.operation (.put operation.id { operation, modTime })]
  | .removeOperation id fault =>
    if !validOperationID id then []
    else
      match fault with
      | .completed =>
        [.operation (.remove id), .request (.remove id), .syncOperations, .syncRequests]
      | .operationKept => []
      | .requestKept => [.operation (.remove id)]
      | .unsynced => [.operation (.remove id), .request (.remove id)]
      | .ignored operations requests =>
        [.operation (.remove id), .request (.remove id)] ++
          (if operations then [] else [.syncOperations]) ++
          if requests then [] else [.syncRequests]

/-- The call does not end with a change that its directory sync failed to make durable, whether
or not the failure is reported. -/
def synced : StoreCall → Bool
  | .putRequest _ _ fault => fault ≠ .unsynced ∧ fault ≠ .ignored
  | .saveOperation _ _ _ => true
  | .removeOperation _ fault =>
    match fault with
    | .unsynced | .ignored _ _ => false
    | _ => true

end StoreCall

/-! ## The device -/

/-- The two directories whose files refer to each other. -/
structure Disk where
  operations : Directory String StoredOperation
  requests : Directory String Bytes

namespace Disk

def empty : Disk where
  operations := .empty
  requests := .empty

def write (disk : Disk) : Write → Disk
  | .operation update => { disk with operations := disk.operations.record update }
  | .request update => { disk with requests := disk.requests.record update }
  | .syncOperations => { disk with operations := disk.operations.sync }
  | .syncRequests => { disk with requests := disk.requests.sync }

def writeAll (disk : Disk) (writes : List Write) : Disk := writes.foldl write disk

/-- What a power loss leaves; the two directories lose updates independently. -/
def survive (disk : Disk) (operations requests : List Bool) : Disk where
  operations := disk.operations.survive operations
  requests := disk.requests.survive requests

/-- The store that readers of the device see. -/
def Shows (disk : Disk) (store : Store) : Prop :=
  disk.operations.current = store.operations ∧ disk.requests.current = store.requests

end Disk

/-- The digest of the request bytes gives the operation ID. -/
def Names (documents : Documents) (id : String) (data : Bytes) : Prop :=
  operationIDFromDigest (documents.fromBytes data) = id

/-- Whatever a power loss leaves, every operation file has its request file. -/
structure Disk.Recoverable (documents : Documents) (disk : Disk) : Prop where
  named : ∀ id data, disk.requests.MayHold id data → Names documents id data
  backed : ∀ id file, disk.operations.MayHold id file → ∃ data, disk.requests.Holds id data

/-- Between two calls of the store, every visible request is durable as well. -/
structure Disk.Intact (documents : Documents) (disk : Disk) : Prop
    extends Disk.Recoverable documents disk where
  settled : ∀ id data, disk.requests.current.lookup id = some data → disk.requests.Holds id data

namespace Disk

variable {disk : Disk} {store : Store}

theorem intact_empty : Intact documents empty where
  named := by simp [empty, Directory.MayHold, Directory.empty]
  backed := by simp [empty, Directory.MayHold, Directory.empty]
  settled := by simp [empty, Directory.current, Directory.empty, Update.applyAll]

/-- A power loss at a recoverable point leaves an intact device. -/
theorem Recoverable.survive (recoverable : Recoverable documents disk)
    (operations requests : List Bool) :
    Intact documents (disk.survive operations requests) where
  named := fun id data may => recoverable.named id data (Directory.mayHold_of_survive may)
  backed := by
    intro id file may
    obtain ⟨data, holds⟩ := recoverable.backed id file (Directory.mayHold_of_survive may)
    exact ⟨data, holds.survive requests⟩
  settled := by
    intro id data found
    exact Directory.holds_of_settled rfl (Directory.mayHold_of_current found)

/-- On an intact device every operation file in sight has its request file in sight. -/
theorem Intact.request_of_operation (intact : Intact documents disk) (shows : disk.Shows store)
    {id : String} {file : StoredOperation} (found : store.operations.lookup id = some file) :
    ∃ data, store.requests.lookup id = some data ∧ Names documents id data := by
  rw [← shows.1] at found
  obtain ⟨data, holds⟩ := intact.backed id file (Directory.mayHold_of_current found)
  rw [← shows.2]
  exact ⟨data, holds.lookup_current, intact.named id data holds.mayHold⟩

/-! ### Single file-system calls -/

/-- An unsynced change of the operation directory that adds no unbacked operation. -/
theorem Intact.operation (intact : Intact documents disk) {update : Update String StoredOperation}
    (backed : ∀ id file, update = .put id file → ∃ data, disk.requests.Holds id data) :
    Intact documents (disk.write (.operation update)) where
  named := intact.named
  backed := by
    intro id file may
    rcases Directory.mayHold_record.mp may with old | added
    · exact intact.backed id file old
    · exact backed id file added
  settled := intact.settled

theorem Recoverable.syncOperations (recoverable : Recoverable documents disk) :
    Recoverable documents (disk.write .syncOperations) where
  named := recoverable.named
  backed := fun id file may =>
    recoverable.backed id file (Directory.mayHold_of_current (Directory.mayHold_sync.mp may))

theorem Intact.syncOperations (intact : Intact documents disk) :
    Intact documents (disk.write .syncOperations) where
  toRecoverable := intact.toRecoverable.syncOperations
  settled := intact.settled

/-- A sync of the request directory settles it. -/
theorem Recoverable.syncRequests (recoverable : Recoverable documents disk) :
    Intact documents (disk.write .syncRequests) where
  named := by
    intro id data may
    exact recoverable.named id data (Directory.mayHold_of_current (Directory.mayHold_sync.mp may))
  backed := by
    intro id file may
    obtain ⟨data, holds⟩ := recoverable.backed id file may
    exact ⟨data, Directory.holds_sync.mpr holds.lookup_current⟩
  settled := fun id data found => Directory.holds_sync.mpr found

/-- A new request is linked: no operation file can be waiting for it. -/
theorem Intact.linkRequest (intact : Intact documents disk) {id : String} {data : Bytes}
    (absent : disk.requests.current.lookup id = none) (names : Names documents id data) :
    Recoverable documents (disk.write (.request (.put id data))) where
  named := by
    intro other bytes may
    rcases Directory.mayHold_record.mp may with old | added
    · exact intact.named other bytes old
    · cases added
      exact names
  backed := by
    intro other file may
    obtain ⟨bytes, holds⟩ := intact.backed other file may
    refine ⟨bytes, holds.record ?_⟩
    rintro rfl
    have found := holds.lookup_current
    rw [Update.key, absent] at found
    cases found

/--
The removal of a request becomes safe with the sync that makes the removal of
its operation durable.
-/
theorem Intact.removeBoth (intact : Intact documents disk) (id : String) :
    Recoverable documents
      (((disk.write (.operation (.remove id))).write (.request (.remove id))).write
        .syncOperations) where
  named := by
    intro other data may
    rcases Directory.mayHold_record.mp may with old | impossible
    · exact intact.named other data old
    · cases impossible
  backed := by
    intro other file may
    have visible := Directory.mayHold_sync.mp may
    rw [write, write, Directory.current_record] at visible
    have different : id ≠ other := by
      rintro rfl
      rw [Update.apply, AList.lookup_erase] at visible
      cases visible
    rw [Update.lookup_apply_ne _ _ (by exact different)] at visible
    obtain ⟨data, holds⟩ := intact.backed other file (Directory.mayHold_of_current visible)
    exact ⟨data, holds.record different⟩

end Disk

/-! ## Whole calls -/

/-- Everything a call of the store can do: its file-system calls and the store after it. -/
inductive StoreCall.Performed (store : Store) : StoreCall → List Write → Store → Prop where
  | refused (call : StoreCall) : Performed store call [] store
  | linked {id : String} {data : Bytes} (absent : store.requests.lookup id = none) :
      Performed store (.putRequest id data .completed)
        [.request (.put id data), .syncRequests]
        { store with requests := store.requests.insert id data }
  | linkedUnsynced {id : String} {data : Bytes} {fault : WriteFault}
      (unsynced : fault = .unsynced ∨ fault = .ignored)
      (absent : store.requests.lookup id = none) :
      Performed store (.putRequest id data fault)
        [.request (.put id data)]
        { store with requests := store.requests.insert id data }
  | saved (operation : Operation) (modTime : Time) :
      Performed store (.saveOperation operation .completed modTime)
        [.operation (.put operation.id { operation, modTime }), .syncOperations]
        (store.withOperation operation modTime)
  | savedUnsynced (operation : Operation) (fault : WriteFault) (modTime : Time) :
      Performed store (.saveOperation operation fault modTime)
        [.operation (.put operation.id { operation, modTime })]
        (store.withOperation operation modTime)
  | removed (id : String) :
      Performed store (.removeOperation id .completed)
        [.operation (.remove id), .request (.remove id), .syncOperations, .syncRequests]
        { store with operations := store.operations.erase id, requests := store.requests.erase id }
  | requestKept (id : String) :
      Performed store (.removeOperation id .requestKept)
        [.operation (.remove id)]
        { store with operations := store.operations.erase id }
  | removedUnsynced (id : String) :
      Performed store (.removeOperation id .unsynced)
        [.operation (.remove id), .request (.remove id)]
        { store with operations := store.operations.erase id, requests := store.requests.erase id }
  | removedIgnored (id : String) (operations requests : Bool) :
      Performed store (.removeOperation id (.ignored operations requests))
        ([.operation (.remove id), .request (.remove id)] ++
          (if operations then [] else [.syncOperations]) ++
          if requests then [] else [.syncRequests])
        { store with operations := store.operations.erase id, requests := store.requests.erase id }

theorem StoreCall.performed (store : Store) (call : StoreCall) :
    Performed store call (call.writes documents store) (call.apply documents store) := by
  cases call with
  | putRequest id data fault =>
    simp only [writes, apply, Store.putRequest]
    by_cases invalid : (!validOperationID id) = true
    · simp only [if_pos invalid]
      exact .refused _
    simp only [if_neg invalid]
    cases documents.decodeRequest data with
    | error message => exact .refused _
    | ok request =>
      cases found : store.requests.lookup id with
      | some existing =>
        simp only
        split
        · exact .refused _
        · split <;> exact .refused _
      | none =>
        cases fault with
        | completed => exact .linked found
        | unwritten => exact .refused _
        | unsynced => exact .linkedUnsynced (.inl rfl) found
        | ignored => exact .linkedUnsynced (.inr rfl) found
  | saveOperation operation fault modTime =>
    simp only [writes, apply, Store.saveOperation]
    cases validateOperation documents operation with
    | cons message rest => exact .refused _
    | nil =>
      by_cases large : maxOperationBytes < (documents.marshalOperation operation).length
      · simp only [if_pos large]
        exact .refused _
      · simp only [if_neg large]
        cases fault with
        | completed => exact .saved operation modTime
        | unwritten => exact .refused _
        | unsynced | ignored => exact .savedUnsynced operation _ modTime
  | removeOperation id fault =>
    simp only [writes, apply, Store.removeOperation]
    by_cases invalid : (!validOperationID id) = true
    · simp only [if_pos invalid]
      exact .refused _
    simp only [if_neg invalid]
    cases fault with
    | completed => exact .removed id
    | operationKept => exact .refused _
    | requestKept => exact .requestKept id
    | unsynced => exact .removedUnsynced id
    | ignored operations requests => exact .removedIgnored id operations requests

/--
What the service observes when it calls the store: a request is put under the
ID that its digest gives, an operation is saved only beside its request, and no
operation is removed whose request is still needed.
-/
def StoreCall.Allowed (documents : Documents) (needed : String → Prop) (store : Store) :
    StoreCall → Prop
  | .putRequest id data _ => Names documents id data
  | .saveOperation operation _ _ => ∃ data, store.requests.lookup operation.id = some data
  | .removeOperation id _ => ¬ needed id

/-- The call removes a request file. -/
def Write.removesRequest : Write → Bool
  | .request (.remove _) => true
  | _ => false

/-- The call syncs the operations directory. -/
def Write.syncsOperations : Write → Bool
  | .syncOperations => true
  | _ => false

/-- The file-system calls removed a request file and did not sync the operations directory. -/
def interrupted (writes : List Write) : Bool :=
  writes.any Write.removesRequest && !writes.any Write.syncsOperations

section Calls

variable {disk : Disk} {store after : Store} {needed : String → Prop} {call : StoreCall}
  {writes : List Write}

/-- The file-system calls do to the visible store what the call does. -/
theorem StoreCall.Performed.shows (performed : Performed store call writes after)
    (shows : disk.Shows store) : (disk.writeAll writes).Shows after := by
  obtain ⟨operations, requests⟩ := shows
  cases performed with
  | removedIgnored id first second =>
    cases first <;> cases second <;>
      simp [Disk.Shows, Disk.writeAll, Disk.write, operations, requests, Update.apply]
  | _ =>
    simp [Disk.Shows, Disk.writeAll, Disk.write, operations, requests, Update.apply,
      Store.withOperation]

/-- A call keeps every request that is needed. -/
theorem StoreCall.Performed.keeps (performed : Performed store call writes after)
    (allowed : call.Allowed documents needed store) {id : String} {data : Bytes}
    (isNeeded : needed id) (found : store.requests.lookup id = some data) :
    after.requests.lookup id = some data := by
  have inserted : ∀ {other : String} (bytes : Bytes), store.requests.lookup other = none →
      (store.requests.insert other bytes).lookup id = some data := by
    intro other bytes absent
    have different : id ≠ other := by
      rintro rfl
      rw [absent] at found
      cases found
    rw [AList.lookup_insert_ne different, found]
  have erased : ∀ {other : String}, ¬ needed other →
      (store.requests.erase other).lookup id = some data := by
    intro other unneeded
    have different : id ≠ other := by
      rintro rfl
      exact unneeded isNeeded
    rw [AList.lookup_erase_ne different, found]
  cases performed with
  | linked absent | linkedUnsynced _ absent => exact inserted _ absent
  | removed | removedUnsynced | removedIgnored => exact erased allowed
  | _ => exact found

/-- The update that `saveOperation` makes is backed by the request it needs. -/
theorem Disk.Intact.saveOperation (intact : disk.Intact documents) (shows : disk.Shows store)
    {operation : Operation} (modTime : Time)
    (requested : ∃ data, store.requests.lookup operation.id = some data) :
    (disk.write (.operation (.put operation.id { operation, modTime }))).Intact documents := by
  refine intact.operation ?_
  rintro id file ⟨⟩
  obtain ⟨data, found⟩ := requested
  rw [← shows.2] at found
  exact ⟨data, intact.settled operation.id data found⟩

theorem Disk.Intact.removeOperation (intact : disk.Intact documents) (id : String) :
    (disk.write (.operation (.remove id))).Intact documents := by
  refine intact.operation ?_
  rintro _ _ ⟨⟩

/-- A whole call whose directory syncs do not fail keeps the device intact. -/
theorem StoreCall.Performed.intact (performed : Performed store call writes after)
    (intact : disk.Intact documents) (shows : disk.Shows store)
    (allowed : call.Allowed documents needed store) (synced : call.synced = true) :
    (disk.writeAll writes).Intact documents := by
  cases performed with
  | refused => exact intact
  | linked absent =>
    exact (intact.linkRequest (by rw [shows.2, absent]) allowed).syncRequests
  | linkedUnsynced unsynced =>
    rcases unsynced with rfl | rfl <;> simp [StoreCall.synced] at synced
  | saved _ modTime => exact (intact.saveOperation shows modTime allowed).syncOperations
  | savedUnsynced _ _ modTime => exact intact.saveOperation shows modTime allowed
  | removed id => exact (intact.removeBoth id).syncRequests
  | requestKept id => exact intact.removeOperation id
  | removedUnsynced | removedIgnored => simp [StoreCall.synced] at synced

/-- A power loss during a call, except between the removal of a request file and the sync of
the operations directory. -/
theorem StoreCall.Performed.recoverable (performed : Performed store call writes after)
    (intact : disk.Intact documents) (shows : disk.Shows store)
    (allowed : call.Allowed documents needed store) (count : Nat)
    (between : interrupted (writes.take count) = false) :
    (disk.writeAll (writes.take count)).Recoverable documents := by
  have untouched := intact.toRecoverable
  cases performed with
  | refused =>
    rw [List.take_nil]
    exact untouched
  | linked absent =>
    have link := intact.linkRequest (by rw [shows.2, absent]) allowed
    rcases count with _ | _ | count
    · exact untouched
    · exact link
    · simp only [List.take_succ_cons, List.take_nil]
      exact link.syncRequests.toRecoverable
  | linkedUnsynced _ absent =>
    rcases count with _ | count
    · exact untouched
    · simp only [List.take_succ_cons, List.take_nil]
      exact intact.linkRequest (by rw [shows.2, absent]) allowed
  | saved _ modTime =>
    have save := intact.saveOperation shows modTime allowed
    rcases count with _ | _ | count
    · exact untouched
    · exact save.toRecoverable
    · simp only [List.take_succ_cons, List.take_nil]
      exact save.syncOperations.toRecoverable
  | savedUnsynced _ _ modTime =>
    rcases count with _ | count
    · exact untouched
    · simp only [List.take_succ_cons, List.take_nil]
      exact (intact.saveOperation shows modTime allowed).toRecoverable
  | removed id =>
    have both := intact.removeBoth id
    rcases count with _ | _ | _ | _ | count
    · exact untouched
    · exact (intact.removeOperation id).toRecoverable
    · cases between
    · exact both
    · simp only [List.take_succ_cons, List.take_nil]
      exact both.syncRequests.toRecoverable
  | requestKept id =>
    rcases count with _ | count
    · exact untouched
    · simp only [List.take_succ_cons, List.take_nil]
      exact (intact.removeOperation id).toRecoverable
  | removedUnsynced id =>
    rcases count with _ | _ | count
    · exact untouched
    · exact (intact.removeOperation id).toRecoverable
    · simp [interrupted, Write.removesRequest, Write.syncsOperations] at between
  | removedIgnored id operations requests =>
    rcases count with _ | _ | count
    · exact untouched
    · exact (intact.removeOperation id).toRecoverable
    · have both := intact.removeBoth id
      cases operations with
      | true =>
        cases requests <;> rcases count with _ | count <;>
          simp [interrupted, Write.removesRequest, Write.syncsOperations] at between
      | false =>
        rcases count with _ | _ | count
        · simp [interrupted, Write.removesRequest, Write.syncsOperations] at between
        · cases requests <;> exact both
        · cases requests
          · rw [List.take_of_length_le (by simp)]
            exact both.syncRequests.toRecoverable
          · rw [List.take_of_length_le (by simp)]
            exact both

end Calls

/-! ## Sequences of calls -/

/-- The store after some calls. -/
def applyCalls (documents : Documents) (store : Store) (calls : List StoreCall) : Store :=
  calls.foldl (StoreCall.apply documents) store

/-- The device after some calls. -/
def writeCalls (documents : Documents) : Disk → Store → List StoreCall → Disk
  | disk, _, [] => disk
  | disk, store, call :: rest =>
    writeCalls documents (disk.writeAll (call.writes documents store))
      (call.apply documents store) rest

/-- Each call is allowed in the store that it finds. -/
def AllAllowed (documents : Documents) (needed : String → Prop) : Store → List StoreCall → Prop
  | _, [] => True
  | store, call :: rest =>
    call.Allowed documents needed store ∧
      AllAllowed documents needed (call.apply documents store) rest

section Sequences

variable {disk : Disk} {store : Store} {needed : String → Prop} {calls : List StoreCall}

theorem allAllowed_append {first second : List StoreCall} :
    AllAllowed documents needed store (first ++ second) ↔ AllAllowed documents needed store first ∧
        AllAllowed documents needed (applyCalls documents store first) second := by
  induction first generalizing store with
  | nil => simp [AllAllowed, applyCalls]
  | cons call rest ih => simp [AllAllowed, applyCalls, ih, and_assoc]

/-- What is allowed beside more needed requests is allowed beside fewer. -/
theorem AllAllowed.weaken {fewer : String → Prop}
    (allowed : AllAllowed documents needed store calls) (less : ∀ id, fewer id → needed id) :
    AllAllowed documents fewer store calls := by
  induction calls generalizing store with
  | nil => trivial
  | cons call rest ih =>
    refine ⟨?_, ih allowed.2⟩
    cases call with
    | putRequest | saveOperation => exact allowed.1
    | removeOperation id => exact fun isNeeded => allowed.1 (less id isNeeded)

section

variable (allowed : AllAllowed documents needed store calls)

include allowed

theorem AllAllowed.take (count : Nat) :
    AllAllowed documents needed store (calls.take count) := by
  rw [← List.take_append_drop count calls, allAllowed_append] at allowed
  exact allowed.1

theorem AllAllowed.get {index : Nat} {call : StoreCall} (found : calls[index]? = some call) :
    call.Allowed documents needed (applyCalls documents store (calls.take index)) := by
  induction calls generalizing store index with
  | nil => simp at found
  | cons head rest ih =>
    cases index with
    | zero =>
      obtain rfl : head = call := by simpa using found
      exact allowed.1
    | succ later => exact ih allowed.2 (by simpa using found)

theorem AllAllowed.keeps {id : String}
    {data : Bytes} (isNeeded : needed id) (found : store.requests.lookup id = some data) :
    (applyCalls documents store calls).requests.lookup id = some data := by
  induction calls generalizing store with
  | nil => exact found
  | cons call rest ih =>
    exact ih allowed.2 ((StoreCall.performed store call).keeps allowed.1 isNeeded found)

end

/-- Whole calls keep the device intact and in step with the store. -/
theorem Disk.Intact.writeCalls (intact : disk.Intact documents) (shows : disk.Shows store)
    (allowed : AllAllowed documents needed store calls)
    (synced : ∀ call ∈ calls, call.synced = true) :
    (CatalogService.writeCalls documents disk store calls).Intact documents ∧
      (CatalogService.writeCalls documents disk store calls).Shows
        (applyCalls documents store calls) := by
  induction calls generalizing disk store with
  | nil => exact ⟨intact, shows⟩
  | cons call rest ih =>
    have performed := @StoreCall.performed documents store call
    exact ih (performed.intact intact shows allowed.1 (synced call List.mem_cons_self))
      (performed.shows shows) allowed.2
      (fun other member => synced other (List.mem_cons_of_mem _ member))

end Sequences

end DalecHomebrew.CatalogService
