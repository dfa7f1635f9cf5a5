import DalecHomebrew.CatalogService.Retention
import Mathlib.Data.UInt

/-!
# Tap sequences

A published catalog carries a number for its tap.  The persisted counter only
moves forward, by one and with a new source identity, and a number that is in
a signed payload or in a publication under way is never above the counter, and
equal to it only with the counter's source identity (`Recorded`).  Since a
publication holds `publishMu` from its first allocation to its signature, the
numbers of signed payloads follow the counter, whatever fails or crashes in
between.
-/

namespace DalecHomebrew.CatalogService

open Catalog Foundation

variable {stage : Stage} {memory : Memory} {index : Nat} {worker : Worker} {documents : Documents}
  {settings : Settings}

/-! ## The persisted counter -/

/-- How the counter of one tap may change: not at all, or to the next number. -/
def Successor (before after : SequenceState) : Prop :=
  after = before ∨ (after.tap = before.tap ∧ after.sequence.toNat = before.sequence.toNat + 1)

/-- No counter is lost, goes back or wraps. -/
def Advances (store left : Store) : Prop :=
  ∀ key before, store.sequences.lookup key = some before →
    ∃ after, left.sequences.lookup key = some after ∧ Successor before after

variable {store left : Store}

theorem Advances.of_eq (same : left.sequences = store.sequences) :
    Advances store left := by
  intro key before found
  exact ⟨before, by rw [same]; exact found, .inl rfl⟩

variable {current : UInt64}

theorem toNat_add_one (below : current ≠ ~~~(0 : UInt64)) :
    (current + 1).toNat = current.toNat + 1 := by
  have bound : current.toNat < 2 ^ 64 := current.toNat_lt
  have different : current.toNat ≠ 2 ^ 64 - 1 := by
    intro full
    apply below
    apply UInt64.toNat_inj.mp
    rw [full]
    rfl
  rw [UInt64.toNat_add]
  change (current.toNat + 1) % 2 ^ 64 = current.toNat + 1
  exact Nat.mod_eq_of_lt (by omega)

/-- The number that `nextSequence` returns is the one the counter then holds. -/
def Allocated (left : Store) (tap : TapID) (identity : String) (sequence : UInt64) : Prop :=
  ∃ after, left.sequences.lookup (tap.owner, tap.name) = some after ∧ after.tap = tap ∧
    after.sequence = sequence ∧ after.sourceIdentity = identity

variable {tap : TapID} {identity : String} {fault : SequenceFault} {result : Except String UInt64}

/-- Allocating the number after the one the counter holds. -/
theorem Store.advanceSequence_spec
    (holds : ∀ before, store.sequences.lookup (tap.owner, tap.name) = some before →
      before.tap = tap ∧ before.sequence = current)
    (advanced : store.advanceSequence tap identity current fault = (left, result)) :
    Advances store left ∧
      ∀ sequence, result = .ok sequence → Allocated left tap identity sequence := by
  unfold advanceSequence at advanced
  split at advanced
  · cases advanced
    exact ⟨.of_eq rfl, nofun⟩
  rename_i below
  let next : SequenceState :=
    { schemaVersion := sequenceSchemaVersion
      tap
      sequence := current + 1
      sourceIdentity := identity }
  have written : Advances store
      { store with sequences := store.sequences.insert (tap.owner, tap.name) next } := by
    intro key before found
    by_cases same : key = (tap.owner, tap.name)
    · subst same
      obtain ⟨sameTap, rfl⟩ := holds before found
      exact ⟨next, AList.lookup_insert _, .inr ⟨sameTap.symm, toNat_add_one below⟩⟩
    · exact ⟨before, (AList.lookup_insert_ne same).trans found, .inl rfl⟩
  have allocated : Allocated
      { store with sequences := store.sequences.insert (tap.owner, tap.name) next } tap identity
      (current + 1) :=
    ⟨next, AList.lookup_insert _, rfl, rfl, rfl⟩
  dsimp only at advanced
  split at advanced
  · cases advanced
    exact ⟨.of_eq rfl, nofun⟩
  · cases advanced
    exact ⟨written, nofun⟩
  · cases advanced
    exact ⟨written, fun sequence isNext => Except.ok.inj isNext ▸ allocated⟩

/-- Everything `nextSequence` can do to the counters. -/
theorem Store.nextSequence_spec
    (advanced : store.nextSequence tap identity fault = (left, result)) :
    Advances store left ∧
      ∀ sequence, result = .ok sequence → Allocated left tap identity sequence := by
  have refused : ∀ {message : String}, left = store → result = .error message →
      Advances store left ∧
        ∀ sequence, result = .ok sequence → Allocated left tap identity sequence := by
    rintro message rfl rfl
    exact ⟨.of_eq rfl, nofun⟩
  unfold nextSequence at advanced
  iterate 4
    split at advanced
    · cases advanced
      exact refused rfl rfl
  split at advanced
  · rename_i missing
    refine advanceSequence_spec ?_ advanced
    intro before found
    cases missing.symm.trans found
  · rename_i state found
    split at advanced
    · cases advanced
      exact refused rfl rfl
    rename_i valid
    simp only [not_or, not_not] at valid
    split at advanced
    · rename_i same
      cases advanced
      refine ⟨.of_eq rfl, ?_⟩
      rintro sequence ⟨⟩
      exact ⟨state, found, valid.2.1, rfl, same⟩
    · refine advanceSequence_spec ?_ advanced
      intro before again
      cases found.symm.trans again
      exact ⟨valid.2.1, rfl⟩

/-! ## Numbers in payloads -/

/-- The number of a reference is at most the counter of its tap. -/
def Recorded (documents : Documents) (store : Store) (reference : CatalogReference) : Prop :=
  ∃ counter, store.sequences.lookup (reference.tap.id.owner, reference.tap.id.name) = some counter ∧
    reference.sequence.toNat ≤ counter.sequence.toNat ∧
    (reference.sequence = counter.sequence →
      counter.sourceIdentity = sourceIdentity documents reference.tap)

/-- The numbers of an earlier and a later reference to one tap. -/
def Precedes (documents : Documents) (earlier later : CatalogReference) : Prop :=
  earlier.tap.id = later.tap.id → earlier.sequence ≤ later.sequence ∧
      (earlier.sequence = later.sequence →
        sourceIdentity documents earlier.tap = sourceIdentity documents later.tap) ∧
      (sourceIdentity documents earlier.tap ≠ sourceIdentity documents later.tap →
        earlier.sequence < later.sequence)

variable {reference : CatalogReference}

theorem Recorded.advance
    (recorded : Recorded documents store reference) (advances : Advances store left) :
    Recorded documents left reference := by
  obtain ⟨counter, found, bound, identity⟩ := recorded
  obtain ⟨after, isAfter, rfl | ⟨_, next⟩⟩ := advances _ counter found
  · exact ⟨after, isAfter, bound, identity⟩
  · refine ⟨after, isAfter, by omega, ?_⟩
    intro same
    rw [same] at bound
    omega

/-- A freshly allocated number follows every recorded one of its tap. -/
theorem Recorded.precedes {earlier later : CatalogReference}
    (recorded : Recorded documents store earlier)
    (allocated : Allocated store later.tap.id (sourceIdentity documents later.tap) later.sequence) :
    Precedes documents earlier later := by
  intro sameTap
  obtain ⟨counter, found, bound, identity⟩ := recorded
  obtain ⟨after, isAfter, _, sameSequence, sameIdentity⟩ := allocated
  rw [sameTap, isAfter] at found
  cases found
  rw [sameSequence] at bound identity
  rw [sameIdentity] at identity
  have ordered : earlier.sequence ≤ later.sequence := UInt64.le_iff_toNat_le.mpr bound
  refine ⟨ordered, fun same => (identity same).symm, ?_⟩
  intro different
  exact UInt64.lt_of_le_of_ne ordered fun same => different (identity same).symm

theorem Allocated.recorded
    (allocated : Allocated store reference.tap.id (sourceIdentity documents reference.tap)
      reference.sequence) :
    Recorded documents store reference := by
  obtain ⟨after, isAfter, _, sameSequence, sameIdentity⟩ := allocated
  exact ⟨after, isAfter, by rw [sameSequence], fun _ => sameIdentity⟩

/-! ## Publications under way -/

/-- The references of the payload that a goroutine is putting together. -/
def Stage.references : Stage → List CatalogReference
  | .sequencing publication => publication.references
  | .storing payload _ => payload.catalogs
  | _ => []

/-- The number of goroutines that hold `publishMu`. -/
def Memory.publishers (memory : Memory) : Nat :=
  memory.workers.countP fun worker => worker.stage.holdsPublishMu

theorem Stage.references_eq_nil (free : stage.holdsPublishMu = false) :
    stage.references = [] := by
  cases stage with
  | sequencing publication | storing payload remaining => cases free
  | _ => rfl

theorem Memory.publishers_eq_zero (free : memory.publishMuFree = true) :
    memory.publishers = 0 := by
  rw [Memory.publishers, List.countP_eq_zero]
  intro worker member
  have released := List.all_eq_true.mp free worker member
  simpa using released

section

variable (found : memory.workers[index]? = some worker)

include found

/-- Moving a worker adds no holder unless it acquires `publishMu`. -/
theorem Memory.publishers_withStage
    (acquires : stage.holdsPublishMu = true → worker.stage.holdsPublishMu = true) :
    (memory.withStage index worker stage).publishers ≤ memory.publishers := by
  obtain ⟨bound, isWorker⟩ := List.getElem?_eq_some_iff.mp found
  simp only [Memory.publishers, Memory.withStage, List.countP_set bound, isWorker]
  cases holds : stage.holdsPublishMu with
  | false => simp
  | true =>
    have positive : 0 < memory.workers.countP fun worker => worker.stage.holdsPublishMu :=
      List.countP_pos_iff.mpr ⟨worker, List.mem_of_getElem? found, acquires holds⟩
    simp only [acquires holds, if_true]
    omega

/-- Acquiring a free `publishMu` makes one holder. -/
theorem Memory.publishers_acquire (free : memory.publishMuFree = true) :
    (memory.withStage index worker stage).publishers ≤ 1 := by
  have zero := Memory.publishers_eq_zero free
  obtain ⟨bound, isWorker⟩ := List.getElem?_eq_some_iff.mp found
  simp only [Memory.publishers] at zero
  simp only [Memory.publishers, Memory.withStage, List.countP_set bound, zero, Nat.zero_sub,
    Nat.zero_add]
  split <;> omega

/-- Releasing `publishMu` leaves no holder when there was only one. -/
theorem Memory.publishers_release (held : worker.stage.holdsPublishMu = true)
    (released : stage.holdsPublishMu = false) (exclusive : memory.publishers ≤ 1) :
    (memory.withStage index worker stage).publishers = 0 := by
  obtain ⟨bound, isWorker⟩ := List.getElem?_eq_some_iff.mp found
  have positive : memory.publishers ≤ 1 := exclusive
  simp only [Memory.publishers] at positive
  simp only [Memory.publishers, Memory.withStage, List.countP_set bound, isWorker, held, released]
  simp only [if_true, Bool.false_eq_true, if_false]
  omega

end

/-- Goroutines that only call the generator hold nothing. -/
theorem publishers_append {workers fresh : List Worker}
    (generating : ∀ worker ∈ fresh, worker.stage = .generating) :
    (workers ++ fresh).countP (fun worker => worker.stage.holdsPublishMu) =
      workers.countP fun worker => worker.stage.holdsPublishMu := by
  have none_holds : fresh.countP (fun worker => worker.stage.holdsPublishMu) = 0 := by
    rw [List.countP_eq_zero]
    intro worker member
    simp [generating worker member, Stage.holdsPublishMu]
  rw [List.countP_append, none_holds, Nat.add_zero]

theorem free_of_settled (settled : stage.settled = true) :
    stage.holdsPublishMu = false := by
  cases stage <;> first | rfl | cases settled

/-- The references of a stage are recorded and come after those of the payloads before. -/
def Stage.Follows (documents : Documents) (store : Store) (issued : List CatalogSetPayload)
    (stage : Stage) : Prop :=
  ∀ reference ∈ stage.references, Recorded documents store reference ∧
    ∀ payload ∈ issued, ∀ first ∈ payload.catalogs, Precedes documents first reference

variable {payloads : List CatalogSetPayload}

theorem Stage.Follows.of_nil (empty : stage.references = []) :
    stage.Follows documents store payloads := by
  simp [Stage.Follows, empty]

theorem Stage.Follows.advance (follows : stage.Follows documents store payloads)
    (advances : Advances store left) : stage.Follows documents left payloads :=
  fun reference referenced => (follows reference referenced).imp_left (·.advance advances)

/-- What every run keeps about numbers in payloads. -/
structure SequencesKept (documents : Documents) (state : State) : Prop where
  recorded : ∀ payload ∈ state.issued, ∀ reference ∈ payload.catalogs,
    Recorded documents state.store reference
  ordered : state.issued.Pairwise fun earlier later =>
    ∀ first ∈ earlier.catalogs, ∀ second ∈ later.catalogs, Precedes documents first second
  exclusive : ∀ memory, state.process = some memory → memory.publishers ≤ 1
  underway : ∀ memory, state.process = some memory → ∀ worker ∈ memory.workers,
    ∀ reference ∈ worker.stage.references, Recorded documents state.store reference ∧
      ∀ payload ∈ state.issued, ∀ first ∈ payload.catalogs, Precedes documents first reference

/-- No step loses, lowers or wraps a counter. -/
theorem advances_of_step {source target : State} {label : Label}
    (taken : (machine documents settings).step source label = some target) :
    Advances source.store target.store := by
  cases stepped_of_step taken with
  | handled running found outcome_eq =>
    exact .of_eq (handled_effect outcome_eq).sequences_eq
  | sequenced running found at_stage result =>
    rcases assignSequence_cases result with ⟨failure, _, rfl | ⟨_, _, _, allocation⟩⟩ |
      ⟨_, rfl, _⟩ | ⟨document, rest, sequence, canonical, _, allocation, _⟩
    · exact .of_eq rfl
    · exact (Store.nextSequence_spec allocation).1
    · exact .of_eq rfl
    · exact (Store.nextSequence_spec allocation).1
  | written running found at_stage result =>
    have sequences := congrArg Store.sequences (writeCatalog_frame result)
    exact .of_eq sequences
  | finished running found at_stage result =>
    have sequences := congrArg Store.sequences (finishWorker_frame result).2.2
    exact .of_eq sequences
  | collected running found at_stage removed next =>
    have sequences := congrArg Store.sequences (removeCatalogEntry_frame removed)
    exact .of_eq sequences
  | _ => exact .of_eq rfl

namespace SequencesKept

variable {source target : State}

section

variable (kept : SequencesKept documents source)

include kept

/-- Steps that do not sign a payload. -/
theorem unsigned (advances : Advances source.store target.store)
    (issued : target.issued = source.issued)
    (exclusive : ∀ memory, target.process = some memory → memory.publishers ≤ 1)
    (workers : WorkersKept (Stage.Follows documents target.store source.issued) source target) :
    SequencesKept documents target where
  recorded := by
    intro payload member reference referenced
    rw [issued] at member
    exact (kept.recorded payload member reference referenced).advance advances
  ordered := by
    rw [issued]
    exact kept.ordered
  exclusive := exclusive
  underway := by
    intro memory running worker member
    rw [issued]
    rcases workers memory running worker member with new | ⟨before, isBefore, old⟩
    · exact new
    · exact Stage.Follows.advance (kept.underway before isBefore worker old) advances

section

variable {memory left : Memory} (running : source.process = some memory)
  (advances : Advances source.store target.store) (issued : target.issued = source.issued)
  (moved : target.process = some left)

include running advances issued moved

/-- A worker moves to a stage. -/
theorem withStage (workers : left.workers = (memory.withStage index worker stage).workers)
    (exclusive : (memory.withStage index worker stage).publishers ≤ 1)
    (follows : stage.Follows documents target.store source.issued) :
    SequencesKept documents target := by
  refine kept.unsigned advances issued (fun other isOther => ?_)
    (workers_withStage running moved workers follows)
  cases moved.symm.trans isOther
  rw [Memory.publishers, workers]
  exact exclusive

/-- A worker moves to a stage that does not hold `publishMu`. -/
theorem withFreeStage (found : memory.workers[index]? = some worker)
    (workers : left.workers = (memory.withStage index worker stage).workers)
    (free : stage.holdsPublishMu = false) :
    SequencesKept documents target := by
  refine kept.withStage running advances issued moved workers ?_
    (.of_nil (Stage.references_eq_nil free))
  exact le_trans (Memory.publishers_withStage found (by simp [free])) (kept.exclusive memory running)

/-- The workers stay, except for some that go and some that call the generator. -/
theorem withWorkers {remaining fresh : List Worker} (sublist : remaining.Sublist memory.workers)
    (workers : left.workers = remaining ++ fresh)
    (generating : ∀ worker ∈ fresh, worker.stage = .generating) :
    SequencesKept documents target := by
  refine kept.unsigned advances issued (fun other isOther => ?_)
    (workers_append running moved sublist workers generating (.of_nil rfl))
  cases moved.symm.trans isOther
  rw [Memory.publishers, workers, publishers_append generating]
  exact le_trans sublist.countP_le (kept.exclusive memory running)

end

/-- A number is allocated under `publishMu`. -/
theorem allocate {publication : Publication}
    (follows : (Stage.sequencing publication).Follows documents source.store source.issued)
    (advances : Advances source.store left)
    (references : stage.references = publication.references ++ [reference])
    (allocated : Allocated left reference.tap.id (sourceIdentity documents reference.tap)
      reference.sequence) :
    stage.Follows documents left source.issued := by
  intro later referenced
  rw [references, List.mem_append, List.mem_singleton] at referenced
  rcases referenced with before | rfl
  · exact follows.advance advances later before
  · refine ⟨allocated.recorded, fun payload isIssued first isFirst => ?_⟩
    exact ((kept.recorded payload isIssued first isFirst).advance advances).precedes allocated

/-- The payload of the only publication under way is signed. -/
theorem sign {payload : CatalogSetPayload} {remaining : List StagedCatalog}
    (running : source.process = some memory) (found : memory.workers[index]? = some worker)
    (at_stage : worker.stage = .storing payload remaining)
    (sequences : target.store.sequences = source.store.sequences)
    (issued : target.issued = source.issued ++ [payload])
    (moved : target.process = some (memory.withStage index worker stage))
    (free : stage.holdsPublishMu = false) :
    SequencesKept documents target where
  recorded := by
    intro other member reference referenced
    rw [issued, List.mem_append, List.mem_singleton] at member
    rcases member with old | rfl
    · exact (kept.recorded other old reference referenced).advance (.of_eq sequences)
    · have underway := kept.underway memory running worker (List.mem_of_getElem? found) reference
        (by rw [at_stage]; exact referenced)
      exact underway.1.advance (.of_eq sequences)
  ordered := by
    rw [issued, List.pairwise_append]
    refine ⟨kept.ordered, List.pairwise_singleton _ _, ?_⟩
    intro earlier isEarlier later isLater first isFirst second isSecond
    rw [List.mem_singleton] at isLater
    subst isLater
    exact (kept.underway memory running worker (List.mem_of_getElem? found) second
      (by rw [at_stage]; exact isSecond)).2 earlier isEarlier first isFirst
  exclusive := by
    intro other isOther
    cases moved.symm.trans isOther
    exact le_trans (Memory.publishers_withStage found (by simp [free]))
      (kept.exclusive memory running)
  underway := by
    intro other isOther candidate member reference referenced
    cases moved.symm.trans isOther
    -- The signing goroutine was the only holder, so nothing is under way now.
    have released := Memory.publishers_release found (by rw [at_stage]; rfl) free
      (kept.exclusive memory running)
    rw [Memory.publishers, List.countP_eq_zero] at released
    have notHeld : candidate.stage.holdsPublishMu = false := by
      simpa using released candidate member
    rw [Stage.references_eq_nil notHeld] at referenced
    cases referenced

end

theorem step {label : Label} (kept : SequencesKept documents source)
    (scheduled : Running settings source)
    (taken : (machine documents settings).step source label = some target) :
    SequencesKept documents target := by
  have advances := advances_of_step taken
  cases stepped_of_step taken with
  | crash | exited => exact kept.unsigned advances rfl nofun nofun
  | clock time => exact ⟨kept.recorded, kept.ordered, kept.exclusive, kept.underway⟩
  | startFailed => exact kept
  | turnedAway => exact ⟨kept.recorded, kept.ordered, kept.exclusive, kept.underway⟩
  | started stopped resumed =>
    have generating := (resumePending_ok resumed).1.generating
    refine kept.unsigned advances rfl ?_ ?_
    · rintro memory ⟨⟩
      have none_holds := @publishers_append [] _ generating
      exact le_trans (le_of_eq none_holds) (by simp)
    · rintro memory ⟨⟩ worker member
      exact .inl (.of_nil (by rw [generating worker member]; rfl))
  | entered running | closed running | cancelled running =>
    exact kept.withWorkers running advances rfl rfl (List.Sublist.refl _)
      (List.append_nil _).symm nofun
  | handled running found outcome_eq =>
    obtain ⟨_, fresh, workers, generating⟩ := (handled_effect outcome_eq).workers
    exact kept.withWorkers running advances rfl rfl (List.Sublist.refl _) workers generating
  | advanced running found moves =>
    rcases moves with ⟨_, outcome, _, rfl⟩ | ⟨set, requestDigest, _, _, free, rfl⟩ |
      ⟨payload, fault, _, _, rfl⟩ | ⟨now, referenced, fault, _, _, rfl⟩
    · refine kept.withFreeStage running advances rfl rfl found rfl ?_
      unfold afterGenerator
      repeat' split
      all_goals rfl
    · refine kept.withStage running advances rfl rfl rfl (Memory.publishers_acquire found free)
        (.of_nil ?_)
      unfold beginPublication
      split <;> rfl
    · exact kept.withFreeStage running advances rfl rfl found rfl rfl
    · exact kept.withFreeStage running advances rfl rfl found rfl rfl
  | sequenced running found at_stage result =>
    have underway := kept.underway _ running _ (List.mem_of_getElem? found)
    rw [at_stage] at underway
    refine kept.withStage running advances rfl rfl rfl (le_trans (Memory.publishers_withStage found
      fun _ => by rw [at_stage]; rfl) (kept.exclusive _ running)) ?_
    rcases assignSequence_cases result with ⟨failure, rfl, _⟩ | ⟨_, rfl, rfl⟩ |
      ⟨document, rest, sequence, canonical, _, allocation, _, rfl⟩
    · exact .of_nil rfl
    · exact underway
    · exact kept.allocate underway advances rfl ((Store.nextSequence_spec allocation).2 sequence rfl)
  | written running found at_stage result =>
    have underway := kept.underway _ running _ (List.mem_of_getElem? found)
    rw [at_stage] at underway
    refine kept.withStage running advances rfl rfl rfl (le_trans (Memory.publishers_withStage found
      fun _ => by rw [at_stage]; rfl) (kept.exclusive _ running)) ?_
    rcases writeCatalog_cases result with ⟨failure, _, rfl, _⟩ | ⟨rfl, _⟩
    · exact .of_nil rfl
    · exact Stage.Follows.advance underway advances
  | signed running found at_stage signature =>
    refine kept.sign running found at_stage rfl rfl rfl ?_
    unfold afterSignature
    split
    · rfl
    · dsimp only
      split <;> rfl
  | finished running found at_stage result =>
    obtain ⟨⟨errors, rfl, _⟩, _⟩ := finishWorker_frame result
    exact kept.withFreeStage running advances rfl rfl found rfl
      (free_of_settled (finishWorker_cases result).1)
  | collected running found at_stage removed next =>
    refine kept.withFreeStage running advances rfl rfl found rfl ?_
    rcases next with rfl | rfl <;> rfl
  | done running found at_stage released =>
    obtain ⟨_, fresh, workers, generating⟩ :=
      generationDoneLocked_workers (scheduled _ running) found released
    exact kept.withWorkers running advances rfl rfl (List.eraseIdx_sublist _ _) workers generating

end SequencesKept

/-! ## Whole runs -/

/-- The two invariants that a run keeps together. -/
structure Numbered (documents : Documents) (settings : Settings) (state : State) : Prop where
  running : Running settings state
  kept : SequencesKept documents state

theorem Numbered.stopped {state : State} (stopped : state.process = none)
    (unissued : state.issued = []) :
    Numbered documents settings state where
  running := by
    intro memory impossible
    rw [stopped] at impossible
    cases impossible
  kept :=
    { recorded := by simp [unissued]
      ordered := by simp [unissued]
      exclusive := by simp [stopped]
      underway := by simp [stopped] }

/--
In every run, with any failures, crashes and restarts, the numbers that signed
payloads carry for a tap follow the order of signing: they never go down, equal
numbers have equal source identities, and a new source identity has a higher
number.  The persisted counter of a tap stays or grows by exactly one in every
step, so it never wraps.
-/
theorem published_sequences_monotone {source state : State} {labels : List Label}
    (run : (machine documents settings).Run Foundation.Machine.unguarded source labels state)
    (stopped : source.process = none) (unissued : source.issued = []) :
    (state.issued.Pairwise fun earlier later =>
      ∀ first ∈ earlier.catalogs, ∀ second ∈ later.catalogs, first.tap.id = second.tap.id →
        first.sequence ≤ second.sequence ∧ (first.sequence = second.sequence →
            sourceIdentity documents first.tap = sourceIdentity documents second.tap) ∧
          (sourceIdentity documents first.tap ≠ sourceIdentity documents second.tap →
            first.sequence < second.sequence)) ∧
    ∀ label target, (machine documents settings).step state label = some target →
      ∀ key before, state.store.sequences.lookup key = some before →
        ∃ after, target.store.sequences.lookup key = some after ∧
          (after = before ∨ (after.tap = before.tap ∧
            after.sequence.toNat = before.sequence.toNat + 1)) := by
  have numbered : Numbered documents settings state :=
    run.preserves
      (fun _ _ _ numbered _ taken =>
        ⟨numbered.running.step taken, numbered.kept.step numbered.running taken⟩)
      (.stopped stopped unissued)
  exact ⟨numbered.kept.ordered, fun label target taken => advances_of_step taken⟩

/-- The sample service publishes one tap from two commits: the second payload has the larger
number, and whatever happens next, the counter stays or advances by one. -/
theorem published_sequences_monotone_sample :
    ∃ state, (machine Sample.publisher Sample.narrow).Run Foundation.Machine.unguarded
        State.initial Sample.publishingRun state ∧
      state.issued = [Sample.firstPayload, Sample.secondPayload] ∧
      (∃ first ∈ Sample.firstPayload.catalogs, ∃ second ∈ Sample.secondPayload.catalogs,
        first.tap.id = second.tap.id ∧
        sourceIdentity Sample.publisher first.tap ≠ sourceIdentity Sample.publisher second.tap ∧
        first.sequence < second.sequence) ∧
      ∀ label target, (machine Sample.publisher Sample.narrow).step state label = some target →
        ∃ after, target.store.sequences.lookup ("acme", "tools") = some after ∧
          (after.sequence = 2 ∨ after.sequence = 3) := by
  obtain ⟨state, run, published⟩ := Sample.exists_published
  obtain ⟨ordered, advances⟩ := published_sequences_monotone run.unguard rfl rfl
  rw [published.issued, List.pairwise_pair] at ordered
  have changed : sourceIdentity Sample.publisher (Sample.tapSource Sample.oldCommit) ≠
      sourceIdentity Sample.publisher (Sample.tapSource Sample.newCommit) := by decide
  refine ⟨state, run.unguard, published.issued, ⟨_, List.mem_cons_self, _, List.mem_cons_self, rfl,
    changed, (ordered _ List.mem_cons_self _ List.mem_cons_self rfl).2.2 changed⟩, ?_⟩
  intro label target taken
  obtain ⟨before, found, two⟩ := Option.map_eq_some_iff.mp published.sequence
  obtain ⟨after, held, kept⟩ := advances label target taken _ before found
  refine ⟨after, held, ?_⟩
  rcases kept with rfl | ⟨-, next⟩
  · exact .inl two
  · rw [two] at next
    exact .inr (UInt64.toNat_inj.mp next)

end DalecHomebrew.CatalogService
