import DalecHomebrew.CatalogGenerator.Generator
import DalecHomebrew.CatalogResolver.Missing

/-!
# The fixed point of the generation loop

Every round that goes on has found one more tap, so that the loop ends within
the tap limit (`discover_outcome`).  A tap that one round misses is recorded by
every closure that a later round computes for the same target, because the later
resolver extends the earlier one.  So the catalogs of a finished generation are
exactly those of the taps that its closures record.
-/

namespace DalecHomebrew.CatalogGenerator

open Catalog CatalogResolver CatalogService Foundation

section Model

variable {Extracted : Type} {components : Components Extracted} {core : CoreSnapshot}
  {targets : List PlatformRequest}

/-! ## Extraction -/

/-- The effect of the loop over pending taps. -/
structure Progress.Extends (taps : List TapID) (source target : Progress) : Prop where
  kept : ∀ tap document, source.catalogs.lookup tap = some document →
    target.catalogs.lookup tap = some document
  catalogs : ∀ tap, tap ∈ target.catalogs ↔ tap ∈ source.catalogs ∨ tap ∈ taps
  pending : target.pending = source.pending.diff taps
  counted : target.extensions = target.catalogs.keys.length
  bounded : target.extensions ≤ maxTaps
  grown : target.catalogs.keys.length = source.catalogs.keys.length + taps.length

variable {tap : TapID}

theorem extractTap_eq_ok {progress extracted : Progress}
    (result : extractTap components core progress tap = .ok extracted) :
    progress.catalogs.keys.length < maxTaps ∧ ∃ document, extracted = { progress with
      catalogs := progress.catalogs.insert tap document
      pending := progress.pending.erase tap
      extensions := progress.extensions + 1 } := by
  unfold extractTap at result
  simp only [ite_error_eq_ok, not_le] at result
  obtain ⟨room, result⟩ := result
  split at result
  · cases result
  · split at result
    · cases result
    · exact ⟨room, _, (Except.ok.inj result).symm⟩

variable {progress : Progress}

/-- Extracting new taps adds their catalogs one by one, up to the limit. -/
theorem extractTap_loop {taps : List TapID} {progress : Progress} (distinct : taps.Nodup)
    (absent : ∀ tap ∈ taps, tap ∉ progress.catalogs)
    (counted : progress.extensions = progress.catalogs.keys.length)
    (bounded : progress.extensions ≤ maxTaps) :
    match taps.foldlM (extractTap components core) progress with
    | .error stopped => stopped.extensions ≤ maxTaps
    | .ok extracted => progress.Extends taps extracted := by
  induction taps generalizing progress with
  | nil => exact ⟨fun _ _ => id, by simp, by simp, counted, bounded, by simp⟩
  | cons tap rest ih =>
    rw [List.foldlM_cons]
    cases step : extractTap components core progress tap with
    | error stopped =>
      unfold extractTap at step
      repeat' split at step
      all_goals cases step
      all_goals exact bounded
    | ok middle =>
      obtain ⟨room, document, rfl⟩ := extractTap_eq_ok step
      have new : progress.catalogs.lookup tap = none :=
        AList.lookup_eq_none.mpr (absent tap List.mem_cons_self)
      have longer := Table.length_keys_insert document new
      have fresh := (List.nodup_cons.mp distinct).1
      have effect := @ih { progress with
          catalogs := progress.catalogs.insert tap document
          pending := progress.pending.erase tap
          extensions := progress.extensions + 1 }
        (List.nodup_cons.mp distinct).2
        (fun other member => by
          rw [AList.mem_insert]
          rintro (rfl | old)
          · exact fresh member
          · exact absent other (List.mem_cons_of_mem _ member) old)
        (by dsimp only; omega) (by dsimp only; omega)
      dsimp only [bind, Except.bind]
      split <;> rename_i later <;> rw [later] at effect
      · exact effect
      refine ⟨?_, ?_, ?_, effect.counted, effect.bounded, ?_⟩
      · intro other known found
        refine effect.kept other known ?_
        have different : other ≠ tap := by
          rintro rfl
          rw [new] at found
          cases found
        rw [AList.lookup_insert_ne different]
        exact found
      · intro other
        rw [effect.catalogs, AList.mem_insert, List.mem_cons]
        tauto
      · rw [effect.pending, List.diff_cons]
      · rw [effect.grown, List.length_cons]
        dsimp only
        omega

/-! ## Targets -/

/-- The closure that a finished loop over the targets holds for one of them. -/
def Closes (resolver : Resolver) (target : PlatformRequest) (closure : ClosureResult) : Prop :=
  (targetRoots target = [] ∧ closure = emptyClosure) ∨ (targetRoots target ≠ [] ∧
      resolver.resolve (targetRoots target) target.platform = .ok closure)

/-- A resolver without a catalog for a tap that one of the targets needs. -/
def Misses (resolver : Resolver) (targets : List PlatformRequest) (tap : TapID) : Prop :=
  ∃ target ∈ targets, targetRoots target ≠ [] ∧ ∃ cause,
    resolver.resolve (targetRoots target) target.platform = .error cause ∧
      cause.missingTap? = some tap

variable {resolver : Resolver} {closures : List ClosureResult}

theorem resolveTargets_cases (named : resolver.Named) {missing : TapID}
    (result : resolveTargets resolver targets = .ok (closures, missing)) :
    (missing = "" ∧ List.Forall₂ (Closes resolver) targets closures) ∨
      (missing ≠ "" ∧ missing ∉ resolver.catalogs ∧ Misses resolver targets missing) := by
  induction targets generalizing closures missing with
  | nil =>
    obtain ⟨rfl, rfl⟩ : [] = closures ∧ "" = missing := by simpa [resolveTargets] using result
    exact .inl ⟨rfl, .nil⟩
  | cons target rest ih =>
    have later : ∀ {closure closures}, Closes resolver target closure →
        resolveTargets resolver rest = .ok (closures, missing) →
        (missing = "" ∧ List.Forall₂ (Closes resolver) (target :: rest) (closure :: closures)) ∨
          (missing ≠ "" ∧ missing ∉ resolver.catalogs ∧
            Misses resolver (target :: rest) missing) := by
      intro closure closures closed others
      rcases ih others with ⟨none, all⟩ | ⟨some, unknown, other, member, facts⟩
      · exact .inl ⟨none, .cons closed all⟩
      · exact .inr ⟨some, unknown, other, List.mem_cons_of_mem _ member, facts⟩
    unfold resolveTargets at result
    split at result
    · rename_i empty
      obtain ⟨⟨others, tap⟩, reached, same⟩ := bind_eq_ok.mp result
      obtain ⟨rfl, rfl⟩ : emptyClosure :: others = closures ∧ tap = missing := by
        simpa [pure, Except.pure] using same
      exact later (.inl ⟨empty, rfl⟩) reached
    · rename_i roots
      split at result
      · rename_i cause failed
        split at result
        · rename_i tap found
          obtain ⟨_, rfl⟩ : _ ∧ tap = missing := by simpa [pure, Except.pure] using result
          obtain ⟨nonempty, unknown⟩ := resolve_reports named _ _ cause tap failed found
          exact .inr ⟨nonempty, unknown, target, List.mem_cons_self, roots, cause, failed, found⟩
        · cases result
      · rename_i closure resolved
        obtain ⟨⟨others, tap⟩, reached, same⟩ := bind_eq_ok.mp result
        obtain ⟨rfl, rfl⟩ : closure :: others = closures ∧ tap = missing := by
          simpa [pure, Except.pure] using same
        exact later (.inr ⟨roots, resolved⟩) reached

/-! ## Rounds -/

/-- Every catalog of the first map is also one of the second. -/
def Included (fewer more : Table TapID TapCatalog) : Prop :=
  ∀ tap document, fewer.lookup tap = some document → more.lookup tap = some document

/-- Why a tap is extracted: a root belongs to it, or an earlier round missed it. -/
def Justified (components : Components Extracted) (core : CoreSnapshot)
    (targets : List PlatformRequest) (catalogs : Table TapID TapCatalog) (tap : TapID) : Prop :=
  (∃ target ∈ targets, ∃ root ∈ target.roots, FormulaID.tap root = tap) ∨
    ∃ earlier resolver, Included earlier catalogs ∧
      newResolver components core earlier = .ok resolver ∧ Misses resolver targets tap

variable {fewer more : Table TapID TapCatalog}

theorem Justified.mono (justified : Justified components core targets fewer tap)
    (included : Included fewer more) : Justified components core targets more tap := by
  rcases justified with root | ⟨earlier, resolver, inside, made, misses⟩
  · exact .inl root
  · exact .inr ⟨earlier, resolver,
      fun tap document found => included tap document (inside tap document found), made, misses⟩

/-- The invariant of the loop. -/
structure Progress.Sound (components : Components Extracted) (core : CoreSnapshot)
    (targets : List PlatformRequest) (progress : Progress) : Prop where
  distinct : progress.pending.Nodup
  apart : ∀ tap ∈ progress.pending, tap ∉ progress.catalogs
  counted : progress.extensions = progress.catalogs.keys.length
  bounded : progress.catalogs.keys.length + progress.pending.length ≤ maxTaps
  justified : ∀ tap, tap ∈ progress.pending ∨ tap ∈ progress.catalogs →
    Justified components core targets progress.catalogs tap

/-- A loop that ended with all targets resolved. -/
structure Progress.Settled (components : Components Extracted) (core : CoreSnapshot)
    (targets : List PlatformRequest) (closures : List ClosureResult) (progress : Progress) :
    Prop where
  bounded : progress.extensions ≤ maxTaps
  justified : ∀ tap ∈ progress.catalogs, Justified components core targets progress.catalogs tap
  closes : ∃ resolver, newResolver components core progress.catalogs = .ok resolver ∧
    List.Forall₂ (Closes resolver) targets closures

theorem Progress.Sound.pendingTaps_perm (sound : progress.Sound components core targets) :
    progress.pendingTaps.Perm progress.pending := by
  have all : progress.pending.filter (fun tap => (progress.catalogs.lookup tap).isNone) =
      progress.pending := by
    rw [List.filter_eq_self]
    intro tap member
    rw [AList.lookup_eq_none.mpr (sound.apart tap member)]
    rfl
  unfold Progress.pendingTaps
  rw [all]
  exact sortByKey_perm _ _

/-- The state after the extraction of all pending taps. -/
structure Progress.Drained (source target : Progress) : Prop where
  kept : Included source.catalogs target.catalogs
  catalogs : ∀ tap, tap ∈ target.catalogs ↔ tap ∈ source.catalogs ∨ tap ∈ source.pending
  pending : target.pending = []
  counted : target.extensions = target.catalogs.keys.length
  grown : target.catalogs.keys.length = source.catalogs.keys.length + source.pending.length

theorem extractTaps_outcome (sound : progress.Sound components core targets) :
    match extractTaps components core progress with
    | .error stopped => stopped.extensions ≤ maxTaps
    | .ok extracted => progress.Drained extracted := by
  have perm := sound.pendingTaps_perm
  have within := sound.bounded
  have effect := @extractTap_loop _ components core progress.pendingTaps progress
    (perm.nodup_iff.mpr sound.distinct)
    (fun tap member => sound.apart tap (perm.mem_iff.mp member)) sound.counted
    (by rw [sound.counted]; omega)
  unfold extractTaps
  split <;> rename_i result <;> rw [result] at effect
  · exact effect
  refine ⟨effect.kept, ?_, ?_, effect.counted, ?_⟩
  · intro tap
    rw [effect.catalogs, perm.mem_iff]
  · rw [effect.pending, List.eq_nil_iff_forall_not_mem]
    intro tap member
    rw [sound.distinct.mem_sdiff_iff, perm.mem_iff] at member
    exact member.2 member.1
  · rw [effect.grown, perm.length_eq]

/-- What a round leads to, from a state that satisfies the invariant. -/
def Round.Follows (components : Components Extracted) (core : CoreSnapshot)
    (targets : List PlatformRequest) (progress : Progress) : Round → Prop
  | .stopped outcome => outcome.extensions ≤ maxTaps
  | .resolved final closures => final.Settled components core targets closures
  | .extended next => next.Sound components core targets ∧
      next.catalogs.keys.length + next.pending.length =
        progress.catalogs.keys.length + progress.pending.length + 1

variable {catalogs : Table TapID TapCatalog}

theorem named_of_newResolver
    (made : newResolver components core catalogs = .ok resolver) : resolver.Named := by
  obtain ⟨_, _, built⟩ := built_of_new made
  exact built.named

theorem mem_catalogEntries {document : TapCatalog} :
    (tap, some document) ∈ catalogEntries catalogs ↔ catalogs.lookup tap = some document := by
  simp only [catalogEntries, List.mem_map, Prod.mk.injEq, Option.some.injEq]
  rw [← Option.mem_def, AList.mem_lookup_iff]
  constructor
  · rintro ⟨entry, member, rfl, rfl⟩
    exact member
  · intro member
    exact ⟨_, member, rfl, rfl⟩

theorem mem_catalogs_of_newResolver
    (made : newResolver components core catalogs = .ok resolver) (tap : TapID) :
    tap ∈ resolver.catalogs ↔ tap ∈ catalogs := by
  obtain ⟨_, _, built⟩ := built_of_new made
  rw [built.catalogs, AList.mem_keys]
  simp [catalogEntries, AList.keys, List.keys]

/-- Each round keeps the invariant, and goes on only with one more tap. -/
theorem round_follows (sound : progress.Sound components core targets) :
    (round components core targets progress).Follows components core targets progress := by
  have within := sound.bounded
  have started : progress.extensions ≤ maxTaps := by rw [sound.counted]; omega
  have effect := extractTaps_outcome sound
  unfold round
  split
  · exact started
  split <;> rename_i extracted drained <;> rw [drained] at effect
  · exact effect
  have bounded : extracted.extensions ≤ maxTaps := by
    rw [effect.counted, effect.grown]
    exact sound.bounded
  have justified : ∀ tap ∈ extracted.catalogs,
      Justified components core targets extracted.catalogs tap := fun tap member =>
    (sound.justified tap ((effect.catalogs tap).mp member).symm).mono effect.kept
  split
  · exact bounded
  rename_i resolver made
  split
  · exact bounded
  rename_i closures missing resolved
  have cases := resolveTargets_cases (named_of_newResolver made) resolved
  split
  · rename_i none
    have closes := (cases.resolve_right fun other => other.1 none).2
    exact ⟨bounded, justified, resolver, made, closes⟩
  rename_i some
  obtain ⟨-, unknown, misses⟩ := cases.resolve_left fun other => some other.1
  rw [mem_catalogs_of_newResolver made] at unknown
  split
  · exact bounded
  rename_i room
  obtain ⟨-, room⟩ := not_or.mp room
  have grown := effect.grown
  have single : extracted.pending.insert missing = [missing] := by
    simp [effect.pending]
  rw [effect.pending, List.length_nil] at room
  refine ⟨⟨?_, ?_, effect.counted, ?_, ?_⟩, ?_⟩
  · rw [single]
    exact List.nodup_singleton _
  · rw [single]
    simpa using unknown
  · rw [single, List.length_singleton]
    dsimp only
    omega
  · rw [single]
    rintro tap (member | member)
    · rw [List.mem_singleton.mp member]
      exact .inr ⟨extracted.catalogs, resolver, fun _ _ => id, made, misses⟩
    · exact justified tap member
  · rw [single, List.length_singleton]
    dsimp only
    omega

/-! ## The loop -/

/-- The loop ends before the fuel does, if there is one unit for every tap that may come. -/
theorem discover_outcome {fuel : Nat} {progress : Progress}
    (sound : progress.Sound components core targets) :
    match discover components core targets fuel progress with
    | none => progress.catalogs.keys.length + progress.pending.length + fuel ≤ maxTaps
    | some (.error stopped) => stopped.extensions ≤ maxTaps
    | some (.ok (resolved, closures)) => resolved.Settled components core targets closures := by
  fun_induction discover components core targets fuel progress with
  | case1 => exact sound.bounded
  | case2 _ _ _ reached | case3 _ _ _ _ reached =>
    have follows := round_follows sound
    rw [reached] at follows
    exact follows
  | case4 fuel progress extended reached ih =>
    have follows := round_follows sound
    rw [reached] at follows
    have later := ih follows.1
    have grown := follows.2
    split <;> rename_i outcome <;> rw [outcome] at later
    · dsimp only at later
      omega
    · exact later
    · exact later

theorem sound_initial (within : (rootTaps targets).length ≤ maxTaps) :
    Progress.Sound components core targets { pending := rootTaps targets } where
  distinct := List.nodup_dedup _
  apart := by simp
  counted := rfl
  bounded := by simpa using within
  justified := by
    rintro tap (member | member)
    · simp only [rootTaps, List.mem_dedup, List.mem_map, List.mem_flatMap] at member
      obtain ⟨root, ⟨target, among, declared⟩, same⟩ := member
      exact .inl ⟨target, among, root, declared, same⟩
    · simp at member

/-! ## The generated set -/

theorem included_catalogEntries
    (included : Included fewer more) : catalogEntries fewer ⊆ catalogEntries more := by
  rintro ⟨tap, document⟩ member
  obtain ⟨entry, among, same⟩ := List.mem_map.mp member
  obtain ⟨rfl, rfl⟩ : entry.1 = tap ∧ some entry.2 = document := by simpa using same
  exact mem_catalogEntries.mpr (included _ _ (mem_catalogEntries.mp member))

theorem nodup_catalogEntries (catalogs : Table TapID TapCatalog) :
    ((catalogEntries catalogs).map Prod.fst).Nodup := by
  have keys : (catalogEntries catalogs).map Prod.fst = catalogs.keys := by
    simp [catalogEntries, AList.keys, List.keys]
  rw [keys]
  exact catalogs.keys_nodup

/-- With more catalogs a resolution has the same result, unless it misses a tap. -/
theorem agrees_of_newResolver {small large : Resolver} (included : Included fewer more)
    (smallMade : newResolver components core fewer = .ok small)
    (largeMade : newResolver components core more = .ok large) (roots : List FormulaID)
    (platform : Platform) :
    StepAgrees recordedTaps (small.resolve roots platform) (large.resolve roots platform) := by
  obtain ⟨known, sameCore, smallBuilt⟩ := built_of_new smallMade
  obtain ⟨other, otherCore, largeBuilt⟩ := built_of_new largeMade
  obtain rfl : known = other := by simpa using sameCore.symm.trans otherCore
  exact resolve_agrees (smallBuilt.isExtended largeBuilt (included_catalogEntries included)
    (nodup_catalogEntries _)) smallBuilt.isScoped largeBuilt.isScoped roots platform

theorem known_of_newResolver (made : newResolver components core catalogs = .ok resolver)
    {roots : List FormulaID} {platform : Platform} {closure : ClosureResult}
    (resolved : resolver.resolve roots platform = .ok closure) :
    ∀ tap ∈ recordedTaps closure, tap ∈ catalogs := by
  obtain ⟨_, _, built⟩ := built_of_new made
  exact fun tap recorded => (mem_catalogs_of_newResolver made tap).mp
    (known_of_resolve built.isScoped resolved tap recorded)

section

variable (settled : progress.Settled components core targets closures)

include settled

/-- The taps of the catalogs are those that the closures record. -/
theorem Progress.Settled.catalogs_iff (tap : TapID) :
    tap ∈ progress.catalogs ↔ ∃ closure ∈ closures, tap ∈ recordedTaps closure := by
  obtain ⟨resolver, made, closes⟩ := settled.closes
  constructor
  · intro member
    have listed := (mem_catalogs_of_newResolver made tap).mpr member
    obtain ⟨_, _, built⟩ := built_of_new made
    rcases settled.justified tap member with
      ⟨target, among, root, declared, rfl⟩ | ⟨earlier, smaller, included, earlierMade, missed⟩
    · obtain ⟨closure, answered, closed⟩ := exists_right_of_forall₂ closes among
      have root' : root ∈ targetRoots target := List.mem_append_right _ declared
      rcases closed with ⟨empty, _⟩ | ⟨_, resolved⟩
      · rw [empty] at root'
        cases root'
      · have outside : FormulaID.isCore root = false := built.isScoped.outside _ listed
        refine ⟨closure, answered, ((resolved_of_resolve resolved).taps _).mpr (.inl ⟨root, root', ?_⟩)⟩
        simp [Resolver.lookupExact, outside]
    · obtain ⟨target, among, roots, cause, failed, missing⟩ := missed
      obtain ⟨closure, answered, closed⟩ := exists_right_of_forall₂ closes among
      rcases closed with ⟨empty, _⟩ | ⟨_, resolved⟩
      · exact absurd empty roots
      · refine ⟨closure, answered, ?_⟩
        rcases agrees_of_newResolver included earlierMade made (targetRoots target)
            target.platform with same | ⟨raised, lost, raises, names, recorded⟩
        · rw [failed, resolved] at same
          cases same
        · obtain rfl : cause = raised := by simpa using failed.symm.trans raises
          obtain rfl : tap = lost := by simpa using missing.symm.trans names
          exact recorded closure resolved
  · rintro ⟨closure, answered, recorded⟩
    obtain ⟨target, among, closed⟩ := exists_left_of_forall₂ closes answered
    rcases closed with ⟨_, rfl⟩ | ⟨_, resolved⟩
    · cases recorded
    · exact known_of_newResolver made resolved tap recorded

theorem Progress.Settled.document_tap
    {document : TapCatalog} (found : progress.catalogs.lookup tap = some document) :
    document.tap.id = tap := by
  obtain ⟨resolver, made, _⟩ := settled.closes
  obtain ⟨_, _, built⟩ := built_of_new made
  obtain ⟨rfl, _⟩ := built.document (mem_catalogEntries.mpr found)
  rfl

theorem Progress.Settled.tap_mem_values (tap : TapID) :
    tap ∈ progress.catalogs.values.map (fun document => document.tap.id) ↔
      tap ∈ progress.catalogs := by
  simp only [List.mem_map, Table.mem_values]
  constructor
  · rintro ⟨document, ⟨key, found⟩, rfl⟩
    rw [settled.document_tap found]
    exact AList.lookup_isSome.mp (by rw [found]; rfl)
  · intro member
    obtain ⟨document, found⟩ := Option.isSome_iff_exists.mp (AList.lookup_isSome.mpr member)
    exact ⟨document, ⟨tap, found⟩, settled.document_tap found⟩

end

variable {request : Request} {results : List PlatformResult}

/-- The results of a generation carry the closures of its targets, in their order. -/
theorem closures_of_results (same : targets.length = closures.length)
    (made : (targets.zip closures).mapM (platformResult components request core catalogs) =
      .ok results) :
    results.map PlatformResult.closure = closures := by
  have paired : List.Forall₂ (fun target result => result.closure = target.2)
      (targets.zip closures) results := by
    refine (mapM_eq_ok.mp made).imp fun target result made => ?_
    obtain ⟨artifacts, _, checked⟩ := bind_eq_ok.mp made
    dsimp only at checked
    split at checked
    · rw [← Except.ok.inj checked]
    · cases checked
  have second : (targets.zip closures).map Prod.snd = closures :=
    List.map_snd_zip (by omega)
  rw [← second, ← List.forall₂_eq_eq_eq, List.forall₂_map_left_iff, List.forall₂_map_right_iff]
  exact paired.flip

theorem Progress.Settled.normalizedClosureTaps_eq
    (settled : progress.Settled components core targets closures) :
    ∀ closure ∈ closures, normalizedClosureTaps closure = recordedTaps closure := by
  intro closure member
  obtain ⟨resolver, _, closes⟩ := settled.closes
  obtain ⟨target, _, closed⟩ := exists_left_of_forall₂ closes member
  rcases closed with ⟨_, rfl⟩ | ⟨_, resolved⟩
  · rfl
  · obtain ⟨collected, worklist, order, _, _, _, _, _, _, rfl, _⟩ :=
      Resolver.resolve_eq_ok.mp resolved
    rfl

/-- The payload that publishes a generated set refers to its catalogs and carries its results. -/
def Publishes (set : GeneratedSet) (payload : CatalogSetPayload) : Prop :=
  payload.catalogs.map (fun reference => reference.tap) =
      set.catalogs.map (fun document => document.tap) ∧
    payload.results = set.results

/-- A set whose catalogs are those of the taps that its closures record, one each. -/
structure Complete (set : GeneratedSet) : Prop where
  distinct : (set.catalogs.map fun document => document.tap.id).Nodup
  recorded : ∀ tap, tap ∈ set.catalogs.map (fun document => document.tap.id) ↔
    ∃ result ∈ set.results, tap ∈ result.closure.normalizationTaps.getD []
  published : ∀ payload, Publishes set payload → reachedTapFindings payload = []

theorem Progress.Settled.complete (settled : progress.Settled components core targets closures)
    (made : (targets.zip closures).mapM
      (platformResult components request core progress.catalogs) = .ok results) :
    Complete {
      catalogs := sortByKey (fun document => document.tap.id) progress.catalogs.values
      results } := by
  obtain ⟨_, _, closes⟩ := settled.closes
  have carried := closures_of_results closes.length_eq made
  have listed : ∀ tap, tap ∈ (sortByKey (fun document => document.tap.id)
      progress.catalogs.values).map (fun document => document.tap.id) ↔
        tap ∈ progress.catalogs := by
    intro tap
    rw [← settled.tap_mem_values tap]
    simp only [List.mem_map, mem_sortByKey]
  have reached : ∀ tap, tap ∈ progress.catalogs ↔
      ∃ result ∈ results, tap ∈ recordedTaps result.closure := by
    intro tap
    rw [settled.catalogs_iff tap, ← carried]
    simp only [List.mem_map, exists_exists_and_eq_and]
  refine ⟨?_, fun tap => (listed tap).trans (reached tap), ?_⟩
  · have keys : progress.catalogs.values.map (fun document => document.tap.id) =
        progress.catalogs.keys := by
      simp only [Table.values, AList.keys, List.keys, List.map_map]
      refine List.map_congr_left fun entry member => ?_
      exact settled.document_tap (AList.mem_lookup_iff.mpr member)
    rw [((sortByKey_perm _ _).map _).nodup_iff, keys]
    exact progress.catalogs.keys_nodup
  · rintro payload ⟨references, sameResults⟩
    rw [reachedTapFindings_eq_nil]
    intro tap
    have taps : payload.catalogs.map (fun reference => reference.tap.id) =
        (sortByKey (fun document => document.tap.id) progress.catalogs.values).map
          (fun document => document.tap.id) := by
      have mapped := congrArg (List.map TapSource.id) references
      simpa only [List.map_map, Function.comp_def] using mapped
    rw [taps, listed, reached, sameResults]
    refine exists_congr fun result => and_congr_right fun member => ?_
    rw [settled.normalizedClosureTaps_eq result.closure]
    rw [← carried]
    exact List.mem_map_of_mem member

theorem generateFor_outcome {fuel : Nat} {outcome : Outcome}
    (result : generateFor components fuel request core targets = some outcome) :
    outcome.extensions ≤ maxTaps ∧ ∀ set, outcome.result = .ok set → Complete set := by
  unfold generateFor at result
  split at result
  · obtain rfl := Option.some.inj result
    exact ⟨Nat.zero_le _, by simp⟩
  rename_i within
  have settled := @discover_outcome _ components core targets fuel _ (sound_initial (by omega))
  split at result <;> rename_i reached <;> rw [reached] at settled
  · cases result
  · obtain rfl := Option.some.inj result
    exact ⟨settled, by simp⟩
  · obtain rfl := Option.some.inj result
    refine ⟨settled.bounded, fun set built => ?_⟩
    obtain ⟨results, made, same⟩ := bind_eq_ok.mp built
    rw [← Except.ok.inj same]
    exact settled.complete made

theorem generateFor_terminates (request : Request) :
    (generateFor components (maxTaps + 1) request core targets).isSome := by
  unfold generateFor
  split
  · rfl
  rename_i within
  have ends := @discover_outcome _ components core targets (maxTaps + 1) _ (sound_initial (by omega))
  split
  · rename_i exhausted
    rw [exhausted] at ends
    dsimp only at ends
    omega
  · rfl
  · rfl

end Model

/-! ## Results -/

/--
A generation ends within one round per tap of the limit and one more.  However
it ends, it has extended its catalog map at most `MaxTaps` times, and a set that
it returns is complete: its catalogs are those of the recorded taps, and a
payload that publishes it passes the reached-tap checks.
-/
theorem generate_complete {Extracted : Type} (components : Components Extracted)
    (request : Request) :
    (generate components (maxTaps + 1) request).isSome ∧
      ∀ fuel outcome, generate components fuel request = some outcome →
        outcome.extensions ≤ maxTaps ∧ ∀ set, outcome.result = .ok set → Complete set := by
  have refused : ∀ {failure : Catalog.Failure} {outcome : Outcome},
      some (Outcome.mk 0 (.error failure)) = some outcome →
      outcome.extensions ≤ maxTaps ∧ ∀ set, outcome.result = .ok set → Complete set := by
    intro failure outcome same
    obtain rfl := Option.some.inj same
    exact ⟨Nat.zero_le _, by simp⟩
  constructor
  · unfold generate
    repeat' split
    all_goals first | rfl | exact generateFor_terminates request
  · intro fuel outcome result
    unfold generate at result
    repeat' split at result
    all_goals first | exact refused result | exact generateFor_outcome result

/-! ## A generation that discovers a tap -/

namespace Sample

def digest : String := "sha256:71461c31e350cabf4e718a5e1331b39a395a6dc9183bb3ea5922f0fac67404ce"

def commit : String := "71461c31e350cabf4e718a5e1331b39a395a6dc9"

def amd64 : Platform := { os := "linux", architecture := "amd64" }

def bottle : BottleDeclaration where
  rootURL := "https://ghcr.io"
  rebuild := 0
  files := [{ tag := "x86_64_linux", url := "https://ghcr.io", sha256 := digest, cellar := "any" }]

/-- A Formula that depends on one of another tap. -/
def tool : Catalog.Formula where
  id := "acme/tools/t"
  name := "t"
  homebrewFullName := "acme/tools/t"
  sourcePath := "t.rb"
  sourceDigest := digest
  stableVersion := "1"
  revision := 0
  versionScheme := 0
  dependencies := [{ raw := "acme/base/u", id := "acme/base/u" }]
  bottle := some bottle

def library : Catalog.Formula where
  id := "acme/base/u"
  name := "u"
  homebrewFullName := "acme/base/u"
  sourcePath := "u.rb"
  sourceDigest := digest
  stableVersion := "1"
  revision := 0
  versionScheme := 0
  bottle := some bottle

def tools : TapCatalog where
  schemaVersion := tapCatalogSchemaVersion
  tap := {
    id := "acme/tools", repository := "https://github.com/acme/homebrew-tools", commit := commit,
    treeDigest := digest, archiveDigest := digest }
  publishedAt := 1
  sequence := 1
  formulae := [tool]

def base : TapCatalog where
  schemaVersion := tapCatalogSchemaVersion
  tap := {
    id := "acme/base", repository := "https://github.com/acme/homebrew-base", commit := commit,
    treeDigest := digest, archiveDigest := digest }
  publishedAt := 1
  sequence := 1
  formulae := [library]

/-- `url.Parse` of the only URL of these catalogs. -/
def net : NetLibrary where
  parseURL := fun _ => .ok { scheme := "https", host := "ghcr.io", hostname := "ghcr.io" }
  isIP := fun _ => false

def core : CoreSnapshot where
  catalog := ⟨({ canonical := ∅ } : Homebrew.Metadata.Catalog).lookup⟩
  digest := digest
  generatedAt := 0

/-- The artifact of a bottle that was fetched over HTTPS. -/
def artifact (id : FormulaID) (filename : String) : BottleArtifact where
  id := id
  platform := amd64
  tag := "x86_64_linux"
  filename := filename
  sha256 := digest
  size := 1
  cellar := "any"
  tab := { receiptless := true, arch := "x86_64" }
  currentFormulaSourceDigest := digest
  bottleFormulaSourceDigest := digest
  bottleSourceRepository := ""
  bottleSourceCommit := ""
  bottleFormulaPath := ""
  bottleSourceWaiver := "https-bottle-embedded-formula-digest-only-v1"
  transport := { https := some {
    url := "https://ghcr.io", expectedSize := 1, sha256 := digest, filename := filename,
    allowedRedirectHosts := ["ghcr.io"], fetchPolicyVersion := "homebrew-bottle-fetch-v1" } }
  verification := {
    policyVersion := "homebrew-bottle-static-v1", inventoryDigest := digest, entryCount := 1,
    expandedSize := 1 }
  provenance := { waiver := some { policy := "tap-catalog-buildkit-and-verified-checksum-v1" } }

def components : Components TapCatalog where
  snapshot := fun _ => .ok core
  extract := fun tap =>
    if tap = "acme/tools" then .ok tools
    else if tap = "acme/base" then .ok base
    else .error { message := "tap repository not found" }
  toCatalog := fun extracted _ => .ok extracted
  build := fun _ _ _ node _ => .ok (artifact node.id (node.name ++ "-1.x86_64_linux.bottle.tar.gz"))
  interrupted := fun _ => false
  net := net
  policy := Policy.embeddedTapPolicy
  validatePlatformResult := fun _ => .ok ()

def request : Request where
  schemaVersion := requestSchemaVersion
  targets := [{ platform := amd64, externalRoots := some ["acme/tools/t"] }]
  homebrewCommit := commit
  coreSnapshotDigest := digest

def closure : ClosureResult where
  requested := ["acme/tools/t"]
  requestedMappings := some [{ requested := "acme/tools/t", resolved := "acme/tools/t" }]
  normalizationTaps := some ["acme/base", "acme/tools"]
  nodes := [
    { id := "acme/base/u"
      tap := "acme/base"
      name := "u"
      homebrewFullName := "acme/base/u"
      formulaVersion := "1"
      formulaRevision := 0
      pkgVersion := "1"
      versionScheme := 0
      bottleRebuild := 0 },
    { id := "acme/tools/t"
      tap := "acme/tools"
      name := "t"
      homebrewFullName := "acme/tools/t"
      formulaVersion := "1"
      formulaRevision := 0
      pkgVersion := "1"
      versionScheme := 0
      bottleRebuild := 0
      dependencies := [{ raw := "acme/base/u", id := "acme/base/u", declaredDirectly := true }] }]
  installOrder := ["acme/base/u", "acme/tools/t"]

def generated : GeneratedSet where
  catalogs := [base, tools]
  results := [{
    platform := amd64
    closure := closure
    artifacts := [
      artifact "acme/base/u" "u-1.x86_64_linux.bottle.tar.gz",
      artifact "acme/tools/t" "t-1.x86_64_linux.bottle.tar.gz"] }]

deriving instance DecidableEq for Outcome

theorem generate_request : generate components (maxTaps + 1) request = some ⟨2, .ok generated⟩ := by
  decide +kernel

end Sample

/-- A Formula that depends on one of another tap is generated in two rounds. -/
theorem generate_complete_tools :
    generate Sample.components (maxTaps + 1) Sample.request = some ⟨2, .ok Sample.generated⟩ ∧
      2 ≤ maxTaps ∧ Complete Sample.generated :=
  ⟨Sample.generate_request,
    ((generate_complete Sample.components Sample.request).2 _ _ Sample.generate_request).1,
    ((generate_complete Sample.components Sample.request).2 _ _ Sample.generate_request).2 _ rfl⟩

/--
A resolution needs the catalogs of the taps that its closure records, and no
others: more catalogs do not change the result, and fewer do not as long as those
remain.
-/
theorem resolve_needs_recorded {Extracted : Type} (components : Components Extracted)
    (core : CoreSnapshot) (fewer more : Table TapID TapCatalog) (small large : Resolver)
    (included : Included fewer more) (smallMade : newResolver components core fewer = .ok small)
    (largeMade : newResolver components core more = .ok large) (roots : List FormulaID)
    (platform : Platform) (closure : ClosureResult) :
    small.resolve roots platform = .ok closure ↔ large.resolve roots platform = .ok closure ∧
      ∀ tap ∈ closure.normalizationTaps.getD [], tap ∈ fewer := by
  have agrees := agrees_of_newResolver included smallMade largeMade roots platform
  constructor
  · intro resolved
    rcases agrees with same | ⟨cause, _, failed, _⟩
    · exact ⟨same ▸ resolved, known_of_newResolver smallMade resolved⟩
    · cases failed.symm.trans resolved
  · rintro ⟨resolved, remain⟩
    rcases agrees with same | ⟨cause, tap, failed, missing, recorded⟩
    · exact same.trans resolved
    · have unknown := (resolve_reports (named_of_newResolver smallMade) roots platform cause tap
        failed missing).2
      exact absurd ((mem_catalogs_of_newResolver smallMade tap).mpr
        (remain tap (recorded closure resolved))) unknown

/-- The closure of a Formula of one tap, with the catalog of this tap and with another one. -/
theorem resolve_needs_recorded_base :
    let base := (∅ : Table TapID TapCatalog).insert "acme/base" Sample.base
    let both := base.insert "acme/tools" Sample.tools
    ∃ small large closure, newResolver Sample.components Sample.core base = .ok small ∧
      newResolver Sample.components Sample.core both = .ok large ∧
      small.resolve ["acme/base/u"] Sample.amd64 = .ok closure ∧
      large.resolve ["acme/base/u"] Sample.amd64 = .ok closure ∧
      ∀ tap ∈ closure.normalizationTaps.getD [], tap ∈ base := by
  intro base both
  have included : Included base both := by
    intro tap document found
    rcases Table.lookup_insert_eq_some.mp found with ⟨rfl, rfl⟩ | ⟨_, absent⟩
    · rfl
    · cases absent
  have computed : ∀ small, newResolver Sample.components Sample.core base = .ok small →
      (small.resolve ["acme/base/u"] Sample.amd64).toBool = true := by
    rintro _ ⟨⟩
    decide +kernel
  obtain ⟨closure, resolved⟩ := exists_eq_ok_of_toBool (computed _ rfl)
  exact ⟨_, _, closure, rfl, rfl, resolved, (resolve_needs_recorded Sample.components
    Sample.core base both _ _ included rfl rfl _ _ closure).mp resolved⟩

end DalecHomebrew.CatalogGenerator
