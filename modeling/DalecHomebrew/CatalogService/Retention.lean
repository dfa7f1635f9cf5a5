import DalecHomebrew.CatalogService.Admission

/-!
# Retention of published documents

`gcCatalogsLocked` decides by the operations that are stored when it runs, and
an operation may have been evicted or marked pending again while clients still
hold its payload.  What protects such a payload is the age test alone: a
document is at least as old as its publication time, and it is only removed
after a full lifetime, when every payload that refers to it has expired.
-/

namespace DalecHomebrew.CatalogService

open Catalog Foundation

variable {now modTime clock : Time} {documents : Documents} {settings : Settings}

/-! ## Documents in the store -/

/-- Canonical bytes determine the publication time that is written into them. -/
def Dated (documents : Documents) : Prop :=
  ∀ first second data, documents.canonicalTapCatalog first = .ok data →
    documents.canonicalTapCatalog second = .ok data → first.publishedAt = second.publishedAt

/-- No document file is older than the publication of its document. -/
def Timely (documents : Documents) (store : Store) : Prop :=
  ∀ name file, store.catalogs.lookup name = some file →
    ∀ document, documents.canonicalTapCatalog document = .ok file.data →
      document.publishedAt ≤ file.modTime

/-- The store holds a document with this digest and publication time. -/
def Store.Holds (documents : Documents) (store : Store) (digest : String) (published : Time) : Prop :=
  ∃ file document, store.catalogs.lookup (encoded digest) = some file ∧
    documents.canonicalTapCatalog document = .ok file.data ∧ document.publishedAt = published

/-- A staged document of a publication. -/
def StagedCatalog.BelongsTo (documents : Documents) (published : Time) (item : StagedCatalog) :
    Prop :=
  item.digest = documents.fromBytes item.data ∧
    ∃ document, documents.canonicalTapCatalog document = .ok item.data ∧
      document.publishedAt = published

/-- Every document that is still within its lifetime at `now` stays. -/
def Preserves (documents : Documents) (settings : Settings) (now : Time) (store left : Store) :
    Prop :=
  ∀ digest published, now < published + settings.catalogSetLifetime →
    store.Holds documents digest published → left.Holds documents digest published

variable {store left : Store}

theorem Preserves.of_eq (same : left.catalogs = store.catalogs) :
    Preserves documents settings now store left := by
  rintro digest published _ ⟨file, document, found, isCanonical, isPublished⟩
  exact ⟨file, document, by rw [same]; exact found, isCanonical, isPublished⟩

theorem Timely.of_eq (timely : Timely documents store) (same : left.catalogs = store.catalogs) :
    Timely documents left := by
  intro name file found
  rw [same] at found
  exact timely name file found

variable {store : Store}

/-- Adding a document removes none. -/
theorem preserves_withCatalog {data : Bytes}
    (missing : store.catalogs.lookup (encoded (documents.fromBytes data)) = none) :
    Preserves documents settings now store (store.withCatalog documents data modTime) := by
  rintro digest published _ ⟨file, document, found, isCanonical, isPublished⟩
  refine ⟨file, document, ?_, isCanonical, isPublished⟩
  have different : encoded digest ≠ encoded (documents.fromBytes data) := by
    intro same
    rw [same, missing] at found
    cases found
  exact (AList.lookup_insert_ne different).trans found

/-- A document that is written no earlier than it is published keeps files timely. -/
theorem Timely.withCatalog (timely : Timely documents store)
    (dated : Dated documents) {item : StagedCatalog} {published modTime : Time}
    (belongs : item.BelongsTo documents published) (inTime : published ≤ modTime) :
    Timely documents (store.withCatalog documents item.data modTime) := by
  intro name file found document isCanonical
  rcases Table.lookup_insert_eq_some.mp found with ⟨rfl, rfl⟩ | ⟨_, old⟩
  · obtain ⟨_, staged, isStaged, isPublished⟩ := belongs
    rw [dated document staged item.data isCanonical isStaged, isPublished]
    exact inTime
  · exact timely name file old document isCanonical

variable {referenced : List String} {result : Except String Unit}

/-- Everything one iteration of `removeCatalogsExcept` can do. -/
theorem removeCatalogEntry_cases {name : String} {fault : EntryFault}
    (removed : removeCatalogEntry settings store referenced now name fault = (left, result)) :
    left = store ∨ ∃ file, store.catalogs.lookup name = some file ∧
        settings.catalogSetLifetime ≤ now - file.modTime ∧
        left = { store with catalogs := store.catalogs.erase name } := by
  unfold removeCatalogEntry at removed
  repeat' split at removed
  all_goals cases removed
  all_goals try exact .inl rfl
  rename_i file found _ old _
  refine .inr ⟨file, found, ?_, rfl⟩
  -- The lifetime is positive, so the saturated difference is not cut off below.
  have positive := settings.lifetime_pos
  have aged : settings.catalogSetLifetime ≤ timeSub now file.modTime :=
    not_lt.mp fun young => old ⟨positive, young⟩
  rcases le_max_iff.mp aged with negative | saturated
  · exact absurd (lt_of_lt_of_le positive negative) (by decide)
  · exact (le_min_iff.mp saturated).2

section

variable {store left : Store} {name : String} {fault : EntryFault} (timely : Timely documents store)

include timely

/-- Removal only takes documents whose lifetime is over. -/
theorem preserves_removeCatalogEntry (past : now ≤ clock)
    (removed : removeCatalogEntry settings store referenced now name fault = (left, result)) :
    Preserves documents settings clock store left := by
  rcases removeCatalogEntry_cases removed with rfl | ⟨expired, isExpired, age, rfl⟩
  · exact .of_eq rfl
  · rintro digest published alive ⟨file, document, found, isCanonical, isPublished⟩
    have different : encoded digest ≠ name := by
      rintro rfl
      obtain rfl : file = expired := Option.some.inj (found.symm.trans isExpired)
      have written := timely _ file found document isCanonical
      rw [isPublished] at written
      linarith
    exact ⟨file, document, (AList.lookup_erase_ne different).trans found, isCanonical, isPublished⟩

theorem timely_removeCatalogEntry
    (removed : removeCatalogEntry settings store referenced now name fault = (left, result)) :
    Timely documents left := by
  rcases removeCatalogEntry_cases removed with rfl | ⟨expired, _, _, rfl⟩
  · exact timely
  · intro other file found
    by_cases same : other = name
    · subst same
      rw [AList.lookup_erase] at found
      cases found
    · exact timely other file ((AList.lookup_erase_ne same).symm.trans found)

end

/-! ## Stages and payloads -/

/-- The documents of a payload that has been signed or is about to be. -/
def PayloadHeld (documents : Documents) (settings : Settings) (clock : Time) (store : Store)
    (payload : CatalogSetPayload) (remaining : List StagedCatalog) : Prop :=
  payload.expiresAt = payload.generatedAt + settings.catalogSetLifetime ∧
    ∀ reference ∈ payload.catalogs, (∃ item ∈ remaining, item.digest = reference.sha256) ∨
        (clock < payload.expiresAt → store.Holds documents reference.sha256 payload.generatedAt)

/-- What a publication or a collection under way has established. -/
def Stage.Retains (documents : Documents) (settings : Settings) (clock : Time) (store : Store) :
    Stage → Prop
  | .sequencing publication =>
    (∀ item ∈ publication.staged, item.BelongsTo documents publication.publishedAt) ∧
      ∀ reference ∈ publication.references, ∃ item ∈ publication.staged,
        item.digest = reference.sha256
  | .storing payload remaining =>
    (∀ item ∈ remaining, item.BelongsTo documents payload.generatedAt) ∧
      PayloadHeld documents settings clock store payload remaining
  | .collecting now _ _ => now ≤ clock
  | _ => True

variable {payload : CatalogSetPayload}

theorem PayloadHeld.preserve {clock later : Time} {store left : Store} {remaining : List StagedCatalog}
    (held : PayloadHeld documents settings clock store payload remaining) (passes : clock ≤ later)
    (preserves : Preserves documents settings later store left) :
    PayloadHeld documents settings later left payload remaining := by
  refine ⟨held.1, ?_⟩
  intro reference member
  rcases held.2 reference member with waiting | holds
  · exact .inl waiting
  · refine .inr fun alive => ?_
    have earlier : clock < payload.expiresAt := lt_of_le_of_lt passes alive
    exact preserves _ _ (held.1 ▸ alive) (holds earlier)

variable {stage : Stage}

theorem Stage.Retains.preserve {clock later : Time} {store left : Store}
    (retains : stage.Retains documents settings clock store) (passes : clock ≤ later)
    (preserves : Preserves documents settings later store left) :
    stage.Retains documents settings later left := by
  cases stage with
  | sequencing publication => exact retains
  | storing payload remaining => exact ⟨retains.1, retains.2.preserve passes preserves⟩
  | collecting now referenced entries => exact le_trans retains passes
  | _ => trivial

/-- What every run with a forward clock and timely files keeps. -/
structure Retained (documents : Documents) (settings : Settings) (state : State) : Prop where
  timely : Timely documents state.store
  issued : ∀ payload ∈ state.issued,
    PayloadHeld documents settings state.clock state.store payload []
  stages : ∀ memory, state.process = some memory → ∀ worker ∈ memory.workers,
    worker.stage.Retains documents settings state.clock state.store

namespace Retained

variable {source target : State}

/-- How the parts of the invariant are put together after one step. -/
theorem assemble (kept : Retained documents settings source)
    (timely : Timely documents target.store) (passes : source.clock ≤ target.clock)
    (preserves : Preserves documents settings target.clock source.store target.store)
    (issued : ∀ payload ∈ target.issued, payload ∈ source.issued ∨
      PayloadHeld documents settings target.clock target.store payload [])
    (workers : WorkersKept (Stage.Retains documents settings target.clock target.store) source
      target) :
    Retained documents settings target where
  timely := timely
  issued := by
    intro payload member
    rcases issued payload member with old | new
    · exact (kept.issued payload old).preserve passes preserves
    · exact new
  stages := by
    intro memory running worker member
    rcases workers memory running worker member with new | ⟨before, isBefore, old⟩
    · exact new
    · exact (kept.stages before isBefore worker old).preserve passes preserves

/-- Steps that leave documents, payloads and the clock alone. -/
theorem quiet (kept : Retained documents settings source)
    (catalogs : target.store.catalogs = source.store.catalogs) (clock : target.clock = source.clock)
    (issued : target.issued = source.issued)
    (workers : WorkersKept (Stage.Retains documents settings target.clock target.store) source
      target) :
    Retained documents settings target :=
  kept.assemble (kept.timely.of_eq catalogs) (le_of_eq clock.symm) (.of_eq catalogs)
    (fun _ member => .inl (issued ▸ member)) workers

end Retained

variable {index : Nat} {worker : Worker} {target source : State}

/-! ## Steps -/

/-- The clock does not go back, and a new document file is not older than its document. -/
def punctual (state : State) : Label → Bool
  | .clock time => state.clock ≤ time
  | .writeCatalog index _ modTime =>
    match state.process with
    | none => true
    | some memory =>
      match memory.workers[index]? with
      | none => true
      | some worker =>
        match worker.stage with
        | .storing payload _ => payload.generatedAt ≤ modTime
        | _ => true
  | _ => true

/-- Writing a staged document keeps files timely and, on success, holds the document. -/
theorem putCatalog_retains {store left : Store} {item : StagedCatalog} {published clock modTime : Time}
    {fault : WriteFault} {result : Except String String} (timely : Timely documents store)
    (dated : Dated documents) (belongs : item.BelongsTo documents published)
    (inTime : published ≤ modTime)
    (put : store.putCatalog documents item.data fault modTime = (left, result)) :
    Timely documents left ∧ Preserves documents settings clock store left ∧
      ∀ digest, result = .ok digest → left.Holds documents digest published := by
  obtain ⟨named, effect⟩ := Store.putCatalog_cases put
  obtain ⟨document, isCanonical, isPublished⟩ := belongs.2
  rcases effect with ⟨rfl, existing⟩ | ⟨rfl, missing⟩
  · refine ⟨timely, .of_eq rfl, ?_⟩
    intro digest succeeded
    obtain ⟨file, found, same⟩ := existing digest succeeded
    exact ⟨file, document, found, same ▸ isCanonical, isPublished⟩
  · refine ⟨timely.withCatalog dated belongs inTime, preserves_withCatalog missing, ?_⟩
    intro digest succeeded
    rw [named digest succeeded]
    exact ⟨_, document, AList.lookup_insert _, isCanonical, isPublished⟩

/-- `finishOperation` starts a collection with the current time. -/
theorem finishWorker_collecting {memory kept : Memory} {store left : Store} {now time : Time}
    {operation : Operation} {fault : WriteFault} {collection : CollectionFaults}
    {referenced entries : List String}
    (result : finishWorker documents settings memory store now operation fault modTime collection =
      (kept, left, .collecting time referenced entries)) :
    time = now := by
  unfold finishWorker at result
  split at result
  · cases result
  split at result
  · split at result
    · cases result
    · cases result
      rfl
  · cases result

/-- The first loop of `publishGenerated` stages one document for every reference. -/
theorem assignSequence_retains {store left : Store} {id : String} {request : Request}
    {publication : Publication} {fault : Store.SequenceFault}
    (before : (Stage.sequencing publication).Retains documents settings clock store)
    (result : assignSequence documents settings store id request publication fault =
      (left, stage)) :
    stage.Retains documents settings clock left := by
  obtain ⟨staged, covered⟩ := before
  rcases assignSequence_cases result with ⟨failure, rfl, _⟩ | ⟨_, rfl, rfl⟩ |
    ⟨document, rest, sequence, canonical, _, _, isCanonical, rfl⟩
  · trivial
  · exact ⟨staged, rfl, fun reference member => .inl (covered reference member)⟩
  · refine ⟨?_, ?_⟩
    · exact List.forall_mem_append.mpr
        ⟨staged, List.forall_mem_singleton.mpr ⟨rfl, _, isCanonical, rfl⟩⟩
    · intro reference member
      rcases List.mem_append.mp member with old | new
      · obtain ⟨item, isItem, same⟩ := covered reference old
        exact ⟨item, List.mem_append_left _ isItem, same⟩
      · rw [List.mem_singleton] at new
        subst new
        exact ⟨_, List.mem_append_right _ (List.mem_singleton_self _), rfl⟩

/-- The second loop of `publishGenerated` writes the staged documents one by one. -/
theorem writeCatalog_retains {store left : Store} {id : String} {item : StagedCatalog}
    {rest : List StagedCatalog} {fault : WriteFault} (timely : Timely documents store)
    (dated : Dated documents) (inTime : payload.generatedAt ≤ modTime)
    (before : (Stage.storing payload (item :: rest)).Retains documents settings clock store)
    (result : writeCatalog documents store id payload item rest fault modTime = (left, stage)) :
    Timely documents left ∧ Preserves documents settings clock store left ∧
      stage.Retains documents settings clock left := by
  obtain ⟨staged, expires, covered⟩ := before
  have belongs := staged item List.mem_cons_self
  rcases writeCatalog_cases result with ⟨failure, outcome, rfl, put⟩ | ⟨rfl, put⟩
  · obtain ⟨timely, preserves, _⟩ := putCatalog_retains timely dated belongs inTime put
    exact ⟨timely, preserves, trivial⟩
  · obtain ⟨timely, preserves, holds⟩ := putCatalog_retains timely dated belongs inTime put
    refine ⟨timely, preserves, fun other member => staged other (List.mem_cons_of_mem _ member),
      expires, ?_⟩
    -- The reference to the written document is now held, the others as before.
    intro reference member
    rcases covered reference member with ⟨other, isOther, same⟩ | held
    · rcases List.mem_cons.mp isOther with rfl | later
      · exact .inr fun _ => same ▸ holds other.digest rfl
      · exact .inl ⟨other, later, same⟩
    · exact .inr fun alive => preserves _ _ (expires ▸ alive) (held alive)

theorem Retained.step {label : Label}
    (kept : Retained documents settings source) (scheduled : Running settings source)
    (dated : Dated documents) (allowed : punctual source label = true)
    (taken : (machine documents settings).step source label = some target) :
    Retained documents settings target := by
  cases stepped_of_step taken with
  | crash | exited => exact kept.quiet rfl rfl rfl (by rintro _ ⟨⟩)
  | clock time =>
    refine kept.assemble kept.timely (of_decide_eq_true allowed) (.of_eq rfl)
      (fun _ member => .inl member) ?_
    intro memory running worker member
    exact .inr ⟨memory, running, member⟩
  | startFailed => exact kept
  | turnedAway => exact ⟨kept.timely, kept.issued, kept.stages⟩
  | started stopped resumed =>
    refine kept.quiet rfl rfl rfl ?_
    rintro memory ⟨⟩ worker member
    exact .inl (by rw [(resumePending_ok resumed).1.generating worker member]; trivial)
  | entered running | closed running | cancelled running =>
    exact kept.quiet rfl rfl rfl (workers_append running rfl (List.Sublist.refl _)
      (List.append_nil _).symm (by rintro _ ⟨⟩) trivial)
  | handled running found outcome_eq =>
    have effect := handled_effect outcome_eq
    obtain ⟨_, fresh, workers, generating⟩ := effect.workers
    exact kept.quiet effect.catalogs_eq rfl rfl
      (workers_append running rfl (List.Sublist.refl _) workers generating trivial)
  | advanced running found moves =>
    refine kept.quiet rfl rfl rfl (workers_withStage running rfl rfl ?_)
    rcases moves with ⟨_, outcome, _, rfl⟩ | ⟨set, requestDigest, _, _, free, rfl⟩ |
      ⟨payload, fault, _, _, rfl⟩ | ⟨now, referenced, fault, _, _, rfl⟩
    · unfold afterGenerator
      repeat' split
      all_goals trivial
    · unfold beginPublication
      split
      · trivial
      · exact ⟨by rintro _ ⟨⟩, by rintro _ ⟨⟩⟩
    · trivial
    · trivial
  | sequenced running found at_stage result =>
    have catalogs := congrArg Store.catalogs (assignSequence_frame result)
    have before := kept.stages _ running _ (List.mem_of_getElem? found)
    rw [at_stage] at before
    exact kept.quiet catalogs rfl rfl
      (workers_withStage running rfl rfl (assignSequence_retains before result))
  | written running found at_stage result =>
    have before := kept.stages _ running _ (List.mem_of_getElem? found)
    rw [at_stage] at before
    obtain ⟨timely, preserves, retains⟩ := writeCatalog_retains kept.timely dated
      (by simpa [punctual, running, found, at_stage] using allowed) before result
    exact kept.assemble timely (le_refl _) preserves (fun _ member => .inl member)
      (workers_withStage running rfl rfl retains)
  | signed running found at_stage signature =>
    have before := kept.stages _ running _ (List.mem_of_getElem? found)
    rw [at_stage] at before
    refine kept.assemble kept.timely (le_refl _) (.of_eq rfl) ?_
      (workers_withStage running rfl rfl ?_)
    · intro other member
      rcases List.mem_append.mp member with old | new
      · exact .inl old
      · rw [List.mem_singleton] at new
        subst new
        exact .inr before.2
    · unfold afterSignature
      split
      · trivial
      · dsimp only
        split <;> trivial
  | @finished memory left index worker operation fault modTime collection store stage running found
      at_stage result =>
    obtain ⟨⟨errors, rfl, _⟩, _, store_eq⟩ := finishWorker_frame result
    have catalogs := congrArg Store.catalogs store_eq
    refine kept.quiet catalogs rfl rfl (workers_withStage running rfl rfl ?_)
    cases stage with
    | collecting now referenced entries => exact le_of_eq (finishWorker_collecting result)
    | sequencing publication | storing payload remaining =>
      cases (finishWorker_cases result).1
    | _ => trivial
  | collected running found at_stage removed next =>
    have past := kept.stages _ running _ (List.mem_of_getElem? found)
    rw [at_stage] at past
    refine kept.assemble (timely_removeCatalogEntry kept.timely removed) (le_refl _)
      (preserves_removeCatalogEntry kept.timely past removed) (fun _ member => .inl member)
      (workers_withStage running rfl rfl ?_)
    rcases next with rfl | rfl
    · trivial
    · exact past
  | done running found at_stage released =>
    obtain ⟨_, fresh, workers, generating⟩ :=
      generationDoneLocked_workers (scheduled _ running) found released
    exact kept.quiet rfl rfl rfl
      (workers_append running rfl (List.eraseIdx_sublist _ _) workers generating trivial)

/-! ## Whole runs -/

/-- The two invariants that a run keeps together. -/
structure Collected (documents : Documents) (settings : Settings) (state : State) : Prop where
  running : Running settings state
  retained : Retained documents settings state

/--
In every run with a forward clock and document files that are not older than
their documents, every document that a signed payload refers to is in the store
until the payload expires, whatever is published, evicted, marked pending again
or collected meanwhile.
-/
theorem referenced_documents_retained {source state : State} {labels : List Label}
    (dated : Dated documents) (run : (machine documents settings).Run punctual source labels state)
    (stopped : source.process = none) (unissued : source.issued = [])
    (timely : Timely documents source.store) :
    ∀ payload ∈ state.issued, state.clock < payload.expiresAt → ∀ reference ∈ payload.catalogs,
        ∃ file, state.store.catalogs.lookup (encoded reference.sha256) = some file := by
  have collected : Collected documents settings state := by
    refine run.preserves (fun _ _ _ before permitted taken =>
      ⟨before.running.step taken, before.retained.step before.running dated permitted taken⟩) ?_
    refine ⟨?_, timely, by simp [unissued], by simp [stopped]⟩
    intro memory impossible
    rw [stopped] at impossible
    cases impossible
  intro payload member alive reference referenced
  rcases (collected.retained.issued payload member).2 reference referenced with
    ⟨item, impossible, _⟩ | holds
  · cases impossible
  · obtain ⟨file, _, found, _⟩ := holds alive
    exact ⟨file, found⟩

namespace Sample

/-- What is there after the two publications: both documents, and only the second operation. -/
structure Published (state : State) : Prop where
  issued : state.issued = [firstPayload, secondPayload]
  clock : state.clock = 2 * hour
  operations : state.store.operations.keys = ["op-" ++ hexOf 9]
  sequence : (state.store.sequences.lookup ("acme", "tools")).map SequenceState.sequence = some 2
  waiting : state.process.any fun memory =>
    "op-" ++ hexOf 9 ∈ memory.active ∧ memory.muFree = false ∧ memory.handlers ≠ []

/-- The two publications end in such a state. -/
theorem exists_published :
    ∃ state, (machine publisher narrow).Run punctual State.initial publishingRun state ∧
      Published state := by
  have reached : ((machine publisher narrow).execute punctual State.initial publishingRun).any
      (fun state => state.issued = [firstPayload, secondPayload] ∧ state.clock = 2 * hour ∧
        state.store.operations.keys = ["op-" ++ hexOf 9] ∧
        (state.store.sequences.lookup ("acme", "tools")).map SequenceState.sequence = some 2 ∧
        state.process.any fun memory =>
          "op-" ++ hexOf 9 ∈ memory.active ∧ memory.muFree = false ∧ memory.handlers ≠ []) =
      true := by
    decide +kernel
  obtain ⟨state, ends, facts⟩ := (Option.any_eq_true _ _).mp reached
  obtain ⟨issued, clock, operations, sequence, waiting⟩ := of_decide_eq_true facts
  exact ⟨state, .of_execute ends, issued, clock, operations, sequence, waiting⟩

theorem Published.evicted {state : State} (published : Published state) :
    state.store.operations.lookup ("op-" ++ hexOf 0) = none := by
  rw [AList.lookup_eq_none, AList.mem_keys, published.operations]
  decide

/-- Documents with the same bytes have the same time. -/
theorem dated : Dated publisher := by
  have texts : ∀ first ∈ catalogTexts, ∀ second ∈ catalogTexts, first.2 = second.2 →
      first.1 = second.1 := by
    decide
  have member : ∀ document data, publisher.canonicalTapCatalog document = .ok data →
      (document.publishedAt, data) ∈ catalogTexts := by
    intro document data canonical
    simp only [publisher, entry] at canonical
    split at canonical
    · rename_i found
      cases canonical
      obtain ⟨before, after, split, -⟩ := List.lookup_eq_some_iff.mp found
      simp [split]
    · cases canonical
  intro first second data one two
  exact texts _ (member first data one) _ (member second data two) rfl

end Sample

/-- The first operation is evicted, a collection runs while its payload is alive, and the
document that the payload refers to is still there. -/
theorem referenced_documents_retained_sample :
    ∃ state, (machine Sample.publisher Sample.narrow).Run punctual State.initial
        Sample.publishingRun state ∧
      state.store.operations.lookup ("op-" ++ Sample.hexOf 0) = none ∧
      Sample.firstPayload ∈ state.issued ∧ state.clock < Sample.firstPayload.expiresAt ∧
      ∃ reference ∈ Sample.firstPayload.catalogs, ∃ file,
        state.store.catalogs.lookup (encoded reference.sha256) = some file := by
  obtain ⟨state, run, published⟩ := Sample.exists_published
  have issued : Sample.firstPayload ∈ state.issued := by
    rw [published.issued]
    exact List.mem_cons_self
  have alive : state.clock < Sample.firstPayload.expiresAt := by
    rw [published.clock]
    decide
  exact ⟨state, run, published.evicted, issued, alive, _, List.mem_cons_self,
    referenced_documents_retained Sample.dated run rfl rfl
      (fun _ _ impossible => by cases impossible) _ issued alive _ List.mem_cons_self⟩

end DalecHomebrew.CatalogService
