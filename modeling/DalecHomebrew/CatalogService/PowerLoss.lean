import DalecHomebrew.CatalogService.Admission
import DalecHomebrew.CatalogService.StoreCalls

/-!
# Power losses of a running service

The machine of the service on a device.  The power may fail between any two
file-system calls of a step.  The process is then gone, and `New` starts again
on what the two directories kept.

`removeOperation` removes both files before it syncs either directory.  In that
window the operation file may survive without its request file; everywhere
else every surviving operation file has the request that its name is the digest
of.
-/

namespace DalecHomebrew.CatalogService

open Catalog Foundation

variable {documents : Documents} {settings : Settings}

/-! ## The service on a device -/

/-- The service and what its device holds of the two directories. -/
structure Powered where
  service : State
  disk : Disk

/-- A first start on an empty store, whose two directories are themselves durable. -/
def Powered.initial : Powered where
  service := .initial
  disk := .empty

inductive PoweredLabel where
  /-- A step of the service that nothing interrupts. -/
  | step (label : Label)
  /--
  The power fails during a step: after `calls` of its store calls and `writes`
  file-system calls of the next one.  The lists choose the unsynced updates
  that survive; the other two directories may come back in any state.
  -/
  | powerLoss (label : Label) (calls writes : Nat) (operations requests : List Bool)
      (catalogs : Table String StoredCatalog)
      (sequences : Table (String × String) SequenceState)

section Powered

variable (documents : Documents) (settings : Settings)

/-- The file-system calls of the store call that a power loss interrupts. -/
def unfinishedWrites (state : State) (label : Label) (calls writes : Nat) : List Write :=
  match (stepCalls documents settings state label)[calls]? with
  | none => []
  | some call =>
    (call.writes documents (applyCalls documents state.store
        ((stepCalls documents settings state label).take calls))).take writes

def poweredStep (source : Powered) : PoweredLabel → Option Powered
  | .step label =>
    (step documents settings source.service label).map fun service =>
      { service
        disk := writeCalls documents source.disk source.service.store
          (stepCalls documents settings source.service label) }
  | .powerLoss label calls writes operations requests catalogs sequences =>
    (step documents settings source.service label).map fun _ =>
      let performed := writeCalls documents source.disk source.service.store
        ((stepCalls documents settings source.service label).take calls)
      let disk :=
        (performed.writeAll
          (unfinishedWrites documents settings source.service label calls writes)).survive
          operations requests
      { service :=
          { source.service with
            store :=
              { operations := disk.operations.durable
                requests := disk.requests.durable
                catalogs
                sequences }
            process := none }
        disk }

def poweredMachine : Foundation.Machine Powered PoweredLabel where
  step := poweredStep documents settings

/--
The completed store calls of the step end with directory syncs that took effect, and
the power does not fail between the removal of a request file and the sync of the
operations directory.
-/
def steady (source : Powered) : PoweredLabel → Bool
  | .step label => (stepCalls documents settings source.service label).all StoreCall.synced
  | .powerLoss label calls writes _ _ _ _ =>
    ((stepCalls documents settings source.service label).take calls).all StoreCall.synced &&
      !interrupted (unfinishedWrites documents settings source.service label calls writes)

end Powered

/-- The invariant of steady runs. -/
structure Powered.Sound (documents : Documents) (settings : Settings) (state : Powered) :
    Prop where
  intact : state.disk.Intact documents
  shows : state.disk.Shows state.service.store
  running : Running settings state.service
  holding : Holding state.service

theorem Powered.Sound.initial : Powered.Sound documents settings Powered.initial where
  intact := Disk.intact_empty
  shows := ⟨rfl, rfl⟩
  running := nofun
  holding := nofun

/-- The device during a step: after some of its calls and a part of the next one. -/
theorem Powered.Sound.recoverable {state : Powered} (sound : Sound documents settings state)
    {label : Label} {calls writes : Nat}
    (allowed : AllAllowed documents
      (fun id => ∃ memory, state.service.process = some memory ∧ memory.Needs id)
      state.service.store (stepCalls documents settings state.service label))
    (synced : ((stepCalls documents settings state.service label).take calls).all
      StoreCall.synced = true)
    (between : interrupted
      (unfinishedWrites documents settings state.service label calls writes) = false) :
    ((writeCalls documents state.disk state.service.store
      ((stepCalls documents settings state.service label).take calls)).writeAll
        (unfinishedWrites documents settings state.service label calls writes)).Recoverable
      documents := by
  obtain ⟨intact, shows⟩ :=
    sound.intact.writeCalls sound.shows (allowed.take calls) (List.all_eq_true.mp synced)
  unfold unfinishedWrites at between ⊢
  cases next : (stepCalls documents settings state.service label)[calls]? with
  | none => exact intact.toRecoverable
  | some call =>
    simp only [next] at between ⊢
    exact (StoreCall.performed _ call).recoverable intact shows (allowed.get next) writes between

/-- One steady step keeps the invariant. -/
theorem Powered.Sound.step {source target : Powered} {label : PoweredLabel}
    (sound : Sound documents settings source)
    (permitted : steady documents settings source label = true)
    (taken : (poweredMachine documents settings).step source label = some target) :
    Sound documents settings target := by
  cases label with
  | step label =>
    obtain ⟨service, stepped, rfl⟩ := Option.map_eq_some_iff.mp taken
    have traced := stepTraced stepped sound.running sound.holding
    obtain ⟨intact, shows⟩ :=
      sound.intact.writeCalls sound.shows traced.allowed (List.all_eq_true.mp permitted)
    exact
      { intact
        shows := ⟨shows.1.trans traced.operations_eq.symm, shows.2.trans traced.requests_eq.symm⟩
        running := Running.step sound.running stepped
        holding := traced.holding }
  | powerLoss label calls writes operations requests catalogs sequences =>
    obtain ⟨service, stepped, rfl⟩ := Option.map_eq_some_iff.mp taken
    have traced := stepTraced stepped sound.running sound.holding
    simp only [steady, Bool.and_eq_true, Bool.not_eq_true'] at permitted
    have recoverable := sound.recoverable traced.allowed permitted.1 permitted.2
    exact
      { intact := recoverable.survive operations requests
        shows := ⟨rfl, rfl⟩
        running := nofun
        holding := nofun }

/-- With all requests in place the loop of `resumePending` does not miss one. -/
theorem pendingRequests_of_backed {store : Store} {faults : ResumeFaults} {ids : List String}
    {error : ResumeError}
    (backed : ∀ id file, store.operations.lookup id = some file →
      ∃ data, store.requests.lookup id = some data ∧ Names documents id data)
    (failed : pendingRequests documents store faults ids = .error error) :
    error ≠ .request .notExist ∧ ∀ id, error ≠ .mismatched id := by
  induction ids with
  | nil => cases failed
  | cons id rest ih =>
    unfold pendingRequests at failed
    split at failed
    · cases failed
      exact ⟨by simp, by simp⟩
    rename_i operation loaded
    obtain ⟨modTime, found, _⟩ := Store.loadOperation_ok loaded
    obtain ⟨data, stored, names⟩ := backed id _ found
    split at failed
    · rename_i reason missing
      cases failed
      refine ⟨?_, by simp⟩
      rintro ⟨⟩
      unfold Store.loadRequest at missing
      split at missing
      · cases missing
      · split at missing
        · cases missing
        · simp only [stored] at missing
          repeat' split at missing
          all_goals cases missing
    · rename_i request requested
      have identified : operationID documents request = .ok id := by
        obtain ⟨bytes, again, -, canonical⟩ := Store.loadRequest_ok requested
        obtain rfl : data = bytes := Option.some.inj (stored.symm.trans again)
        simp only [operationID, Documents.requestDigest, canonical, Except.map]
        exact congrArg Except.ok names
      split at failed
      · rename_i different
        exact absurd identified different
      · split at failed
        · rename_i reason later
          cases failed
          exact ih later
        · cases failed

/-! ## An eviction that the power interrupts -/

/-- A failed generation that is over, and another request that has passed the gate. -/
def crowdedRun (post other : PostRequest) : List Label :=
  (.start {} :: requestRun post) ++ [.generator 0 .otherError, .finish 0 .completed 0 {}] ++
    [.done 0, .enter (.catalogSet other)]

/-! ## Recovery after every power loss -/

/--
In every steady run on a device, whatever power losses it contains, every
operation file has a request file whose digest gives its ID, and `New` is never
refused for a missing or mismatched request.
-/
theorem operations_recoverable (documents : Documents) (settings : Settings) {state : Powered}
    {labels : List PoweredLabel}
    (run : (poweredMachine documents settings).Run (steady documents settings) Powered.initial
      labels state) :
    (∀ id file, state.service.store.operations.lookup id = some file →
      ∃ data, state.service.store.requests.lookup id = some data ∧
        operationIDFromDigest (documents.fromBytes data) = id) ∧
    ∀ faults error, resumePending documents settings state.service.store faults = .error error →
      error ≠ .request .notExist ∧ ∀ id, error ≠ .mismatched id := by
  have sound : Powered.Sound documents settings state :=
    run.preserves (fun _ _ _ sound permitted taken => sound.step permitted taken) .initial
  have backed : ∀ id file, state.service.store.operations.lookup id = some file →
      ∃ data, state.service.store.requests.lookup id = some data ∧ Names documents id data :=
    fun _ _ found => sound.intact.request_of_operation sound.shows found
  refine ⟨backed, ?_⟩
  intro faults error refused
  unfold resumePending at refused
  split at refused
  · cases refused
    exact ⟨by simp, by simp⟩
  split at refused
  · rename_i reason failed
    cases refused
    exact pendingRequests_of_backed backed failed
  · split at refused
    · cases refused
      exact ⟨by simp, by simp⟩
    · cases refused

/-- An admitted operation and its request are both there after a later power loss. -/
theorem operations_recoverable_admitted :
    ∃ data, (admittedStore Sample.limits .empty ("op-" ++ Sample.alphaHex)
        (Sample.body "alpha")).requests.lookup ("op-" ++ Sample.alphaHex) = some data ∧
      operationIDFromDigest (Sample.codecs.fromBytes data) = "op-" ++ Sample.alphaHex := by
  obtain ⟨labels, state, run, kept⟩ :
      ∃ labels state, (poweredMachine Sample.codecs Sample.limits).Run
          (steady Sample.codecs Sample.limits) Powered.initial labels state ∧
        state.service.store =
          admittedStore Sample.limits .empty ("op-" ++ Sample.alphaHex) (Sample.body "alpha") :=
    Foundation.Machine.exists_run _
      ((.start {} :: requestRun (Sample.post "alpha")).map .step ++
        [.powerLoss (.clock 0) 0 0 [] [] ∅ ∅])
      (by decide +kernel)
  have recoverable := (operations_recoverable Sample.codecs Sample.limits run).1
  rw [kept] at recoverable
  exact recoverable _ _ (AList.lookup_insert _)

/--
With room for one operation, a power loss during an eviction leaves an
operation without its request, and the service does not start again.
-/
theorem operation_without_request :
    ∃ labels state, (poweredMachine Sample.codecs Sample.narrow).Run Foundation.Machine.unguarded
        Powered.initial labels state ∧
      state.service.process = none ∧
      (state.service.store.operations.lookup ("op-" ++ Sample.alphaHex)).isSome ∧
      state.service.store.requests.lookup ("op-" ++ Sample.alphaHex) = none ∧
      resumePending Sample.codecs Sample.narrow state.service.store {} =
        .error (.request .notExist) := by
  -- The power fails between the second removal and the first sync of the eviction.
  exact Machine.exists_run Powered.initial
    ((crowdedRun (Sample.post "alpha") (Sample.post "beta")).map .step ++
      [.powerLoss (.handle 0 {}) 0 2 [] [true] ∅ ∅])
    (by decide +kernel)

end DalecHomebrew.CatalogService
