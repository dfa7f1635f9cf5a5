import DalecHomebrew.RuntimeFS.Kegs
import DalecHomebrew.RuntimeFS.Passes

/-!
# What the minimal profile may prune

An entry is pruned by the minimal profile only if it belongs to an exact core
package that nobody asked for, and only if its path is removable or it is an alias of
a removable entry of the same package.

The candidates of the profile are first classified, then taken back, then extended by
aliases and then taken back again.  `Gated` is what every candidate satisfies at every
moment: entering a candidate establishes it, and taking one back cannot break it.
-/

namespace DalecHomebrew.RuntimeFS

open Foundation Foundation.GoString Foundation.GoPath
open Resolution (Node Record)

variable {reason : PruneReason} {entry : SourceEntry} {candidates : Candidates}

section Gate

variable {library : HostLibrary} {policy : NormalizedPolicy} {record : Record}

/-! ## The gate -/

/-- Why an entry is removable: its path inside its keg is in a removable class, or it
is a copy of or a link to a removable entry of the same package and its own path is one
where such aliases may be removed. -/
inductive Removable (policy : NormalizedPolicy) (entries : List SourceEntry)
    (reason : PruneReason) : SourceEntry → Prop where
  | ofClass {entry : SourceEntry} {sub : String}
      (inClass : minimalRuntimePathClass entry.rel entry.packageName policy = some (reason, sub)) :
      Removable policy entries reason entry
  | copy {entry target : SourceEntry} {node : Node}
      (package : policy.nodes.lookup entry.packageName = some node)
      (member : target ∈ entries)
      (counterpart : target.rel = pathJoin ["Cellar", node.name, node.pkgVersion, entry.rel])
      (content : sameContent entry target = true)
      (samePackage : entry.packageName = target.packageName)
      (path : minimalRuntimeAliasPath entry.rel reason target.packageName policy = true)
      (removable : Removable policy entries reason target) :
      Removable policy entries reason entry
  | link {entry target : SourceEntry} {trace : List String}
      (symlink : entry.typeName = .symlink)
      (member : target ∈ entries)
      (resolves : resolveLink entries entry.rel = .ok (target.rel, trace))
      (samePackage : entry.packageName = target.packageName)
      (path : minimalRuntimeAliasPath entry.rel reason target.packageName policy = true)
      (removable : Removable policy entries reason target) :
      Removable policy entries reason entry

/-- What has to hold of an entry that the minimal profile prunes. -/
structure Gated (policy : NormalizedPolicy) (entries : List SourceEntry) (reason : PruneReason)
    (entry : SourceEntry) : Prop where
  core : ∃ node, policy.nodes.lookup entry.packageName = some node ∧
    node.name = entry.packageName ∧ exactCoreRuntimeProfileNode node = true
  notRequested : entry.packageName ∉ policy.requested
  removable : Removable policy entries reason entry
  outsideRequestedKegs : ∀ package sub, kegLocation entry.rel policy.nodes = some (package, sub) →
    package ∉ policy.requested
  notAlwaysRetained :
    minimalRuntimeAlwaysRetainedPath (payloadPath policy.nodes entry.rel) = false

theorem minimalRuntimePathClass_eq_some {rel packageName sub : String}
    (inClass : minimalRuntimePathClass rel packageName policy = some (reason, sub)) :
    kegLocation rel policy.nodes = some (packageName, sub) ∧ packageName ∉ policy.requested ∧
      ∃ node, policy.nodes.lookup packageName = some node ∧
        exactCoreRuntimeProfileNode node = true := by
  unfold minimalRuntimePathClass at inClass
  split at inClass
  · cases inClass
  split at inClass
  · cases inClass
  rename_i package inner located
  split at inClass
  · cases inClass
  rename_i passed
  simp only [not_or, ne_eq, not_not, Bool.not_eq_false] at passed
  obtain ⟨rfl, notRequested, core⟩ := passed
  obtain ⟨found, _, same⟩ := Option.map_eq_some_iff.mp inClass
  cases same
  cases lookup : policy.nodes.lookup package with
  | none => simp [lookup] at core
  | some node => exact ⟨located, notRequested, node, rfl, by simpa [lookup] using core⟩

/-- A candidate by its own path passes the gate. -/
theorem gated_of_pruneReason {entries : List SourceEntry}
    (pruned : minimalRuntimePruneReason entry.rel entry.packageName policy = some reason) :
    Gated policy entries reason entry := by
  unfold minimalRuntimePruneReason at pruned
  split at pruned
  · cases pruned
  rename_i found sub inClass
  obtain ⟨located, notRequested, node, lookup, core⟩ := minimalRuntimePathClass_eq_some inClass
  split at pruned
  · cases pruned
  split at pruned
  · cases pruned
  rename_i unprotected
  split at pruned
  · cases pruned
  cases pruned
  refine ⟨⟨node, lookup, (policy.nodes.named _ _ lookup).1, core⟩, notRequested,
    .ofClass inClass, ?_, ?_⟩
  · intro package inner other
    rw [located] at other
    cases other
    exact notRequested
  · simpa [payloadPath, located] using unprotected

/-! ## Candidates -/

section Candidates

variable {entries : List SourceEntry}

/-- Every candidate is a retained entry that passes the gate. -/
def Sound (policy : NormalizedPolicy) (entries : List SourceEntry) (candidates : Candidates) :
    Prop :=
  ∀ rel reason, candidates.lookup rel = some reason →
    ∃ entry, byPath entries rel = some entry ∧ entry.retain = true ∧
      Gated policy entries reason entry

theorem sound_empty : Sound policy entries ∅ := by
  intro rel reason found
  simp at found

theorem Sound.insert (sound : Sound policy entries candidates)
    (found : byPath entries entry.rel = some entry) (retained : entry.retain = true)
    (gated : Gated policy entries reason entry) :
    Sound policy entries (candidates.insert entry.rel reason) := by
  intro rel other lookup
  rcases Table.lookup_insert_eq_some.mp lookup with ⟨rfl, rfl⟩ | ⟨_, old⟩
  · exact ⟨entry, found, retained, gated⟩
  · exact sound rel other old

theorem Sound.eraseAll (sound : Sound policy entries candidates)
    (paths : List String) : Sound policy entries (eraseAll candidates paths) := by
  refine List.foldlRecOn paths _ sound fun kept keptSound path _ => ?_
  intro rel reason lookup
  by_cases same : rel = path
  · subst same
    rw [AList.lookup_erase] at lookup
    cases lookup
  · rw [AList.lookup_erase_ne same] at lookup
    exact keptSound rel reason lookup

theorem sound_classifyCandidates (distinct : (entries.map (·.rel)).Nodup) :
    Sound policy entries (classifyCandidates policy entries) := by
  refine List.foldlRecOn entries _ sound_empty fun candidates sound entry member => ?_
  split
  · rename_i reason pruned
    split
    · rename_i kept
      exact sound.insert (byPath_of_mem distinct member) kept.1 (gated_of_pruneReason pruned)
    · exact sound
  · exact sound

theorem sound_retainAncestors (sound : Sound policy entries candidates) :
    Sound policy entries (retainAncestors entries candidates) := by
  refine List.foldlRecOn entries _ sound fun kept keptSound entry _ => ?_
  split
  · exact keptSound.eraseAll _
  · exact keptSound

/-- An alias of a candidate passes the gate: it has the package of the candidate, and
in a keg it has the package of the keg. -/
theorem gated_of_joins {entry target : SourceEntry}
    (attributed : ∀ package sub, kegLocation entry.rel policy.nodes = some (package, sub) →
      entry.packageName = package)
    (gated : Gated policy entries reason target)
    (joined : joins policy entry target reason = true)
    (removable : Removable policy entries reason entry) :
    Gated policy entries reason entry := by
  simp only [joins, decide_eq_true_eq] at joined
  obtain ⟨_, samePackage, path⟩ := joined
  have notRequested : entry.packageName ∉ policy.requested := samePackage ▸ gated.notRequested
  refine ⟨samePackage ▸ gated.core, notRequested, removable, ?_,
    not_alwaysRetained_of_aliasPath path⟩
  intro package sub located
  rw [← attributed package sub located]
  exact notRequested

/-- Retained entries of a keg are attributed to its package. -/
def KegAttributed (policy : NormalizedPolicy) (entries : List SourceEntry) : Prop :=
  ∀ entry ∈ entries, entry.retain = true → ∀ package sub,
    kegLocation entry.rel policy.nodes = some (package, sub) → entry.packageName = package

theorem sound_addCopy (distinct : (entries.map (·.rel)).Nodup)
    (attributed : KegAttributed policy entries) (member : entry ∈ entries)
    (sound : Sound policy entries candidates) :
    Sound policy entries (addCopy policy entries candidates entry) := by
  unfold addCopy
  split
  · exact sound
  rename_i eligible
  simp only [not_or, Bool.not_eq_false] at eligible
  split
  · exact sound
  rename_i target counterpart
  split
  · exact sound
  rename_i reason candidate
  split
  · rename_i matched
    unfold kegCounterpart at counterpart
    split at counterpart
    · cases counterpart
    rename_i node package
    obtain ⟨found, foundAt, _, gated⟩ := sound target.rel reason candidate
    have among := mem_of_byPath counterpart
    rw [byPath_of_mem distinct among, Option.some.injEq] at foundAt
    subst foundAt
    have joined := matched.2
    simp only [joins, decide_eq_true_eq] at joined
    have content : sameContent entry target = true := by
      have whole := matched.1
      simp only [minimalRuntimeAliasContentMatches, decide_eq_true_eq] at whole
      exact whole.2.2
    refine sound.insert (byPath_of_mem distinct member) eligible.1
      (gated_of_joins (attributed entry member eligible.1) gated matched.2 ?_)
    exact .copy package among (rel_of_byPath counterpart) content joined.2.1 joined.2.2
      gated.removable
  · exact sound

variable {rel : String}

theorem finalLinkTarget_eq_ok {target : SourceEntry}
    (final : finalLinkTarget entries rel = .ok target) :
    target.retain = true ∧ byPath entries target.rel = some target ∧
      ∃ trace, resolveLink entries rel = .ok (target.rel, trace) := by
  unfold finalLinkTarget at final
  split at final
  · cases final
  rename_i resolved trace walked
  simp only [retainedTarget, runtimeError] at final
  split at final
  · rename_i entry found
    split at final
    · rename_i retained
      cases final
      obtain rfl := rel_of_byPath found
      exact ⟨retained, found, trace, walked⟩
    · cases final
  · cases final

theorem sound_addLink {candidates next : Candidates} (distinct : (entries.map (·.rel)).Nodup)
    (attributed : KegAttributed policy entries) (member : entry ∈ entries)
    (sound : Sound policy entries candidates)
    (added : addLink policy entries candidates entry = .ok next) :
    Sound policy entries next := by
  unfold addLink at added
  split at added
  · cases added
    exact sound
  rename_i eligible
  simp only [not_or, Bool.not_eq_false, ne_eq, not_not] at eligible
  obtain ⟨target, final, added⟩ := bind_eq_ok.mp added
  obtain ⟨_, found, trace, resolves⟩ := finalLinkTarget_eq_ok final
  split at added
  · cases added
    exact sound
  rename_i reason candidate
  simp only [pure_eq_ok] at added
  subst added
  split
  · rename_i joined
    obtain ⟨other, otherAt, _, gated⟩ := sound target.rel reason candidate
    rw [found, Option.some.injEq] at otherAt
    subst otherAt
    have parts := joined
    simp only [joins, decide_eq_true_eq] at parts
    refine sound.insert (byPath_of_mem distinct member) eligible.1
      (gated_of_joins (attributed entry member eligible.1) gated joined ?_)
    exact .link eligible.2.1 (mem_of_byPath found) resolves parts.2.1 parts.2.2 gated.removable
  · exact sound

theorem sound_retainTargets {state next : Retention} (sound : Sound policy entries state.candidates)
    (kept : retainTargets entries state rel = .ok next) :
    Sound policy entries next.candidates := by
  unfold retainTargets at kept
  obtain ⟨requirements, _, kept⟩ := bind_eq_ok.mp kept
  simp only [pure, Except.pure] at kept
  split at kept
  · cases kept
    exact sound.eraseAll _
  · cases kept
    exact (sound.eraseAll _).eraseAll _

/-- Working off the queue only takes candidates back. -/
theorem sound_retainQueued {state : Retention} (sound : Sound policy entries state.candidates)
    (done : retainQueued entries state = .ok candidates) :
    Sound policy entries candidates := by
  fun_induction retainQueued entries state with
  | case1 _ _ _ =>
    cases done
    exact sound
  | case2 _ _ _ _ _ _ ih | case3 _ _ _ _ _ _ _ ih | case4 _ _ _ _ _ _ _ _ _ _ ih =>
    exact ih sound done
  | case5 => cases done
  | case6 _ _ _ _ _ _ _ _ _ _ _ kept ih =>
    refine ih (sound_retainTargets ?_ kept) done
    exact sound

theorem sound_minimalCandidates (distinct : (entries.map (·.rel)).Nodup)
    (attributed : KegAttributed policy entries)
    (done : minimalCandidates policy entries = .ok candidates) :
    Sound policy entries candidates := by
  simp only [minimalCandidates, aliasCandidates, bind_eq_ok] at done
  obtain ⟨linked, links, retained⟩ := done
  have classified : Sound policy entries
      (retainAncestors entries (classifyCandidates policy entries)) :=
    sound_retainAncestors (sound_classifyCandidates distinct)
  have copied := List.foldlRecOn entries (addCopy policy entries) classified
    fun candidates sound entry member => sound_addCopy distinct attributed member sound
  have joined := foldlM_preserves (motive := Sound policy entries)
    (fun _ _ _ member sound => sound_addLink distinct attributed member sound) links copied
  exact sound_retainQueued joined retained

end Candidates

/-! ## The entries of a scan -/

variable {source : Source} {scan : SourceScan}

/-- In the minimal profile the retained entries of a keg belong to its package. -/
theorem keg_attributed (stages : Stages library source record policy scan)
    (minimal : isMinimal policy = true) :
    KegAttributed policy stages.tooled := by
  intro entry member retained package sub located
  rw [Stages.tooled, pruneOptionalDependencyTooling, List.mem_map] at member
  obtain ⟨attributed, among, rfl⟩ := member
  obtain ⟨_, _, shape, still, _⟩ :=
    pruneOptionalLink_shape library.toPolicyLibrary policy attributed
  rw [shape] at retained located ⊢
  obtain ⟨linked, _, packageName, rfl, kept⟩ :=
    exists_left_of_forall₂ (attributeEntries_forall₂ stages.attribution) among
  obtain ⟨other, keg⟩ := attributeKegEntry_shape policy linked
  have retainedBefore : linked.retain = true := by
    have := still retained
    rwa [keg] at this
  have locatedBefore : kegLocation linked.rel policy.nodes = some (package, sub) := by
    rwa [keg] at located
  have named : attributeKegEntry policy linked = { linked with packageName := package } := by
    simp [attributeKegEntry, locatedBefore, retainedBefore, minimal]
  obtain ⟨_, _, _, _, _, _, found⟩ := kegLocation_eq_some locatedBefore
  rw [named] at kept
  exact kept (policy.nodes.name_ne_empty found)

variable {entry after : SourceEntry}

/-- Before the minimal profile no entry has one of its reasons. -/
theorem reason_not_minimal (stages : Stages library source record policy scan) :
    ∀ entry ∈ stages.tooled, ∀ reason, entry.pruneReason = some reason →
      reason.isMinimal = false := by
  intro entry member reason pruned
  rw [Stages.tooled, pruneOptionalDependencyTooling, List.mem_map] at member
  obtain ⟨attributed, among, rfl⟩ := member
  obtain ⟨linked, linkedMember, packageName, rfl, _⟩ :=
    exists_left_of_forall₂ (attributeEntries_forall₂ stages.attribution) among
  obtain ⟨other, keg⟩ := attributeKegEntry_shape policy linked
  obtain ⟨classified, classifiedMember, made⟩ :=
    exists_left_of_forall₂ (normalizeLinks_forall₂ stages.link) linkedMember
  obtain ⟨_, _, _, linkReason, rfl, _, fromLink⟩ := normalizeLink_shape made
  obtain ⟨walked, walkedMember, decided⟩ := exists_left_of_forall₂ stages.classify classifiedMember
  have fresh := ((scanned_of_walkSource stages.walk).1 walked walkedMember).pruneReason
  obtain ⟨_, firstReason, _, _, _, _, rfl, early⟩ := classifyRetention_shape decided
  obtain ⟨_, toolReason, shape, _, fromTool⟩ :=
    pruneOptionalLink_shape library.toPolicyLibrary policy
      { attributeKegEntry policy _ with packageName }
  rw [shape] at pruned
  rcases fromTool with rfl | rfl
  · rw [keg] at pruned
    rcases fromLink with rfl | rfl
    · exact early.elim (fun same => by simp [same, fresh] at pruned) fun plain => plain reason pruned
    · cases pruned
      rfl
  · cases pruned
    rfl

/-! ## The gate on the finished entries -/

/-- What the gate reads of an entry stays the same from the minimal profile on. -/
structure Alike (entry after : SourceEntry) : Prop where
  rel : after.rel = entry.rel
  mode : after.mode = entry.mode
  size : after.size = entry.size
  sha256 : after.sha256 = entry.sha256
  inode : after.inode = entry.inode
  node : linkNode after = linkNode entry
  symlink : entry.typeName = .symlink → after.typeName = .symlink
  packageName : entry.packageName ≠ "" → after.packageName = entry.packageName

theorem Alike.trans {middle : SourceEntry} (first : Alike entry middle)
    (second : Alike middle after) : Alike entry after where
  rel := second.rel.trans first.rel
  mode := second.mode.trans first.mode
  size := second.size.trans first.size
  sha256 := second.sha256.trans first.sha256
  inode := second.inode.trans first.inode
  node := second.node.trans first.node
  symlink := fun link => second.symlink (first.symlink link)
  packageName := fun named => by
    have same := first.packageName named
    rw [second.packageName (same ▸ named), same]

theorem Finishes.alike (finishes : Finishes entry after) : Alike entry after := by
  obtain ⟨_, _, _, _, typeName, _, _, rfl, typed, kept⟩ := finishes
  rcases typed with rfl | ⟨_, regular, rfl⟩
  · exact ⟨rfl, rfl, rfl, rfl, rfl, rfl, id, kept⟩
  · exact ⟨rfl, rfl, rfl, rfl, rfl, by simp [linkNode, regular], by simp [regular], kept⟩

section Finished

variable {before after : List SourceEntry}

theorem byPath_alike (alike : List.Forall₂ Alike before after) (rel : String) :
    (byPath before rel).map linkNode = (byPath after rel).map linkNode := by
  induction alike with
  | nil => rfl
  | @cons entry finished _ _ head _ ih =>
    by_cases same : entry.rel = rel
    · simp [byPath, same, head.rel, head.node]
    · simpa [byPath, same, head.rel] using ih

theorem resolveLink_alike (alike : List.Forall₂ Alike before after) (rel : String) :
    resolveLink before rel = resolveLink after rel := by
  have lookup : (fun path => (byPath before path).map linkNode) =
      fun path => (byPath after path).map linkNode :=
    funext fun path => byPath_alike alike path
  rw [resolveLink, resolveLink, lookup]

theorem Removable.packageName_ne_empty {entries : List SourceEntry}
    (removable : Removable policy entries reason entry) :
    entry.packageName ≠ "" := by
  induction removable with
  | ofClass inClass =>
    obtain ⟨_, _, node, found, _⟩ := minimalRuntimePathClass_eq_some inClass
    exact policy.nodes.name_ne_empty found
  | copy package _ _ _ _ _ _ _ => exact policy.nodes.name_ne_empty package
  | link _ _ _ samePackage _ _ ih =>
    rw [samePackage]
    exact ih

theorem Removable.alike (alike : List.Forall₂ Alike before after)
    (removable : Removable policy before reason entry) :
    ∀ finished, Alike entry finished → Removable policy after reason finished := by
  induction removable with
  | @ofClass entry sub inClass =>
    intro finished same
    obtain ⟨_, _, node, found, _⟩ := minimalRuntimePathClass_eq_some inClass
    have stillInClass :
        minimalRuntimePathClass finished.rel finished.packageName policy = some (reason, sub) := by
      rw [same.rel, same.packageName (policy.nodes.name_ne_empty found)]
      exact inClass
    exact .ofClass stillInClass
  | @copy entry target node package member counterpart content samePackage path _ ih =>
    intro finished same
    obtain ⟨finishedTarget, finishedMember, sameTarget⟩ := exists_right_of_forall₂ alike member
    have named := policy.nodes.name_ne_empty package
    have packageName := same.packageName named
    have targetName := sameTarget.packageName (samePackage ▸ named)
    refine .copy (packageName ▸ package) finishedMember ?_ ?_ ?_ ?_ (ih finishedTarget sameTarget)
    · rw [same.rel, sameTarget.rel]
      exact counterpart
    · simpa only [sameContent, same.inode, same.sha256, same.size, same.mode, sameTarget.inode,
        sameTarget.sha256, sameTarget.size, sameTarget.mode] using content
    · rw [packageName, targetName]
      exact samePackage
    · rw [same.rel, targetName]
      exact path
  | @link entry target trace symlink member resolves samePackage path targetRemovable ih =>
    intro finished same
    obtain ⟨finishedTarget, finishedMember, sameTarget⟩ := exists_right_of_forall₂ alike member
    have named := targetRemovable.packageName_ne_empty
    have packageName := same.packageName (samePackage ▸ named)
    have targetName := sameTarget.packageName named
    have stillResolves : resolveLink after finished.rel = .ok (finishedTarget.rel, trace) := by
      rw [same.rel, sameTarget.rel, ← resolveLink_alike alike]
      exact resolves
    refine .link (same.symlink symlink) finishedMember stillResolves ?_ ?_
      (ih finishedTarget sameTarget)
    · rw [packageName, targetName]
      exact samePackage
    · rw [same.rel, targetName]
      exact path

theorem Gated.alike {entry finished : SourceEntry} (alike : List.Forall₂ Alike before after)
    (same : Alike entry finished) (gated : Gated policy before reason entry) :
    Gated policy after reason finished := by
  have packageName := same.packageName gated.removable.packageName_ne_empty
  refine ⟨?_, ?_, gated.removable.alike alike finished same, ?_, ?_⟩
  · rw [packageName]
    exact gated.core
  · rw [packageName]
    exact gated.notRequested
  · rw [same.rel]
    exact gated.outsideRequestedKegs
  · rw [same.rel]
    exact gated.notAlwaysRetained

end Finished

theorem alike_pruneCandidate (candidates : Candidates) (entry : SourceEntry) :
    Alike entry (pruneCandidate candidates entry) := by
  unfold pruneCandidate
  split
  · exact ⟨rfl, rfl, rfl, rfl, rfl, rfl, id, fun _ => rfl⟩
  · exact ⟨rfl, rfl, rfl, rfl, rfl, rfl, id, fun _ => rfl⟩

/-- The candidates of a scan, with what they make of the entries. -/
theorem minimized_eq (stages : Stages library source record policy scan) :
    ∃ candidates, Sound policy stages.tooled candidates ∧
      stages.minimized = stages.tooled.map (pruneCandidate candidates) := by
  have minimize := stages.minimize
  rw [← Stages.tooled, pruneMinimalRuntimeProfile] at minimize
  split at minimize
  · refine ⟨∅, sound_empty, ?_⟩
    have kept : pruneCandidate ∅ = id := by
      funext entry
      simp [pruneCandidate]
    rw [← Except.ok.inj minimize, kept, List.map_id]
  · rename_i minimal
    rw [Bool.not_eq_false] at minimal
    simp only [bind_eq_ok, pure_eq_ok] at minimize
    obtain ⟨candidates, done, same⟩ := minimize
    have distinct : (stages.tooled.map (·.rel)).Nodup := by
      rw [stages.rel_tooled]
      exact stages.distinct
    exact ⟨candidates, sound_minimalCandidates distinct (keg_attributed stages minimal) done,
      same.symm⟩

/-- Whatever the minimal profile prunes in a successful scan passes the gate. -/
theorem minimal_pruning_gated {source : Source} {scan : SourceScan}
    (scanned : scanAndPlan library source record policy = .ok scan) :
    ∀ entry ∈ scan.entries, ∀ reason, entry.pruneReason = some reason →
      reason.isMinimal = true → Gated policy scan.entries reason entry := by
  intro entry member reason pruned minimal
  obtain ⟨stages⟩ := nonempty_stages scanned
  obtain ⟨candidates, sound, minimized⟩ := minimized_eq stages
  have finishes := stages.finishes
  rw [minimized, List.forall₂_map_left_iff] at finishes
  have alike : List.Forall₂ Alike stages.tooled scan.entries :=
    finishes.imp fun tooled _ finish => (alike_pruneCandidate candidates tooled).trans finish.alike
  obtain ⟨tooled, tooledMember, finish⟩ := exists_left_of_forall₂ finishes member
  refine Gated.alike alike ((alike_pruneCandidate candidates tooled).trans finish.alike) ?_
  have prunedBefore : (pruneCandidate candidates tooled).pruneReason = some reason := by
    obtain ⟨_, _, _, _, _, _, _, rfl, _⟩ := finish
    exact pruned
  unfold pruneCandidate at prunedBefore
  split at prunedBefore
  · rename_i found candidate
    obtain ⟨other, otherAt, _, gated⟩ := sound tooled.rel found candidate
    have distinct : (stages.tooled.map (·.rel)).Nodup := by
      rw [stages.rel_tooled]
      exact stages.distinct
    rw [byPath_of_mem distinct tooledMember, Option.some.injEq] at otherAt
    subst otherAt
    cases prunedBefore
    exact gated
  · rw [reason_not_minimal stages tooled tooledMember reason prunedBefore] at minimal
    cases minimal

end Gate

/-! ## A scan -/

/-- The entries of the candidates decide what the profile prunes when it protects no link. -/
theorem minimizes_of_candidates {policy : NormalizedPolicy} {prepared minimized : List SourceEntry}
    {reasons : List (Sigma fun _ : String => PruneReason)} (minimal : isMinimal policy = true)
    (unprotected : protectedLinks policy prepared = [])
    (listed : ((aliasCandidates policy prepared).toOption.map (·.entries)) = some reasons)
    (result : (prepared.map fun entry =>
      match List.dlookup entry.rel reasons with
      | some reason => { entry with retain := false, pruneReason := some reason }
      | none => entry) = minimized) :
    pruneMinimalRuntimeProfile policy prepared = .ok minimized := by
  obtain ⟨candidates, found, entries⟩ := Option.map_eq_some_iff.mp listed
  have joined : aliasCandidates policy prepared = .ok candidates := by
    cases made : aliasCandidates policy prepared with
    | error failure =>
      rw [made] at found
      cases found
    | ok table =>
      rw [made] at found
      cases found
      rfl
  have each : pruneCandidate candidates = fun entry =>
      match List.dlookup entry.rel reasons with
      | some reason => { entry with retain := false, pruneReason := some reason }
      | none => entry := by
    funext entry
    exact congrArg
      (fun found : Option PruneReason => match found with
        | some reason => { entry with retain := false, pruneReason := some reason }
        | none => entry)
      (congrArg (List.dlookup entry.rel) entries)
  simp only [pruneMinimalRuntimeProfile, minimal, Bool.true_eq_false, if_false, minimalCandidates,
    joined, retainMinimalRuntimeAliasTargets, unprotected, retainQueued, bind, Except.bind, pure,
    Except.pure, each, result]

namespace Sample

def node : Node where
  name := "d"
  fullName := "homebrew/core/d"
  formulaVersion := "1"
  formulaRevision := 0
  pkgVersion := "1"
  versionScheme := 0
  bottleRebuild := 0
  bottle :=
    { tag := "", filename := "", repository := "", index := {}, manifest := {}, config := {},
      layer := {}, homebrewSHA256 := "", cellar := "", tab := {} }
  policyFormulaID := "homebrew/core/d"

def record : Record where
  schemaVersion := Resolution.schemaVersionV2
  policyVersion := Resolution.policyVersionV2
  input := { dalecSpecDigest := "", platform := { os := "linux", architecture := "amd64" } }
  metadata :=
    { digest := "", formulaDigest := "", migrationDigest := "", generatedAt := 0, fetchedAt := 0 }
  resolvedAt := 0
  sourceDateEpoch := 0
  requested := []
  nodes := [node]
  installOrder := ["d"]
  runtime := { user := "linuxbrew", uid := 1000, gid := 1000, writablePaths := ["var/d"] }

def nodes : NodeIndex := NodeIndex.empty.insert node rfl rfl

def rule : NormalizedRule := ⟨"var/d", "d", true, false⟩

def policy : NormalizedPolicy where
  installPrefix := "/p"
  architecture := "amd64"
  allowlist :=
    { cellar := true
      opt := true
      bin := false
      sbin := false
      lib := false
      share := false
      pruningProfile := Resolution.runtimeProfileMinimalV1
      pruningRules := minimalV1RuntimePruneRules
      etc := { RuleSet.empty with below := by simp [RuleSet.empty] }
      var :=
        { rules := [rule]
          nested := by simp
          below := by
            intro other member
            rw [List.mem_singleton.mp member]
            decide }
      owners := RuleSet.empty }
  digest := ""
  nodes
  requested := []
  pythonTests := TestRoots.empty
  toolchainDev := []
  writable := ["var/d"]

def library : HostLibrary where
  hasEmbeddedRule := fun _ _ => false
  sha256 := fun _ => "0"
  evalSymlinks := fun _ => none
  validateReceiptIdentity := fun _ _ _ => .ok ()
  validateFormulaIdentity := fun _ _ => .ok ()

def directory (path : String) : Except RuntimeError SourceFile :=
  .ok { path, kind := .directory, mode := { perm := 0o755 } }

def file (path : String) : Except RuntimeError SourceFile :=
  .ok { path, kind := .regular (.ok []), mode := { perm := 0o644 } }

def symlink (path target : String) : Except RuntimeError SourceFile :=
  .ok { path, kind := .symlink (.ok target), mode := { perm := 0o777 } }

def source : Source where
  root := "/s"
  walk :=
    [directory "Cellar", directory "Cellar/d", directory "Cellar/d/1",
      directory "Cellar/d/1/include", file "Cellar/d/1/include/h", directory "opt",
      symlink "opt/d" "../Cellar/d/1", directory "var", directory "var/d"]

/-- A retained directory. -/
def kept (rel packageName : String) : SourceEntry :=
  { rel, typeName := .directory, mode := { perm := 0o755 }, retain := true, packageName }

def header : SourceEntry :=
  { kept "Cellar/d/1/include/h" "d" with
    typeName := .regular, mode := { perm := 0o644 }, sha256 := "0" }

def optLink : SourceEntry :=
  { kept "opt/d" "d" with
    typeName := .symlink
    mode := { perm := 0o777 }
    size := 13
    sha256 := "0"
    linkSource := "../Cellar/d/1"
    linkOutput := "../Cellar/d/1"
    linkResolved := "Cellar/d/1" }

/-- The entries before the minimal profile. -/
def prepared : List SourceEntry :=
  [kept "Cellar" "", kept "Cellar/d" "d", kept "Cellar/d/1" "d", kept "Cellar/d/1/include" "d",
    header, kept "opt" "", optLink, { kept "var" "" with statePath := true },
    { kept "var/d" "d" with statePath := true, writable := true }]

def pruned (entry : SourceEntry) : SourceEntry :=
  { entry with retain := false, pruneReason := some .runtimeHeaders }

def minimized : List SourceEntry :=
  [kept "Cellar" "", kept "Cellar/d" "d", kept "Cellar/d/1" "d",
    pruned (kept "Cellar/d/1/include" "d"), pruned header, kept "opt" "", optLink,
    { kept "var" "" with statePath := true },
    { kept "var/d" "d" with statePath := true, writable := true }]

/-- The finished scan: the headers are pruned and `var/d` is writable. -/
def scan : SourceScan where
  entries :=
    [{ kept "Cellar" "" with desiredMode := 0o555 },
      { kept "Cellar/d" "d" with desiredMode := 0o555 },
      { kept "Cellar/d/1" "d" with desiredMode := 0o555 },
      pruned (kept "Cellar/d/1/include" "d"),
      pruned header,
      { kept "opt" "" with desiredMode := 0o555 },
      { optLink with desiredMode := 0o777 },
      { kept "var" "" with statePath := true, desiredMode := 0o755 },
      { kept "var/d" "d" with
        statePath := true, writable := true, uid := 1000, gid := 1000, desiredMode := 0o755 }]
  metadata := []

theorem prepares :
    (walkSource library source >>= prepareEntries library source.root record policy) =
      .ok prepared := by
  decide +kernel

/-- The candidates: the header and its directory. -/
def headers : List (Sigma fun _ : String => PruneReason) :=
  [⟨"Cellar/d/1/include/h", .runtimeHeaders⟩, ⟨"Cellar/d/1/include", .runtimeHeaders⟩]

theorem candidates_entries :
    ((aliasCandidates policy prepared).toOption.map (·.entries)) = some headers := by
  decide +kernel

theorem minimizes : pruneMinimalRuntimeProfile policy prepared = .ok minimized :=
  minimizes_of_candidates (by decide) (by decide) candidates_entries (by decide)

theorem finishes : finishEntries library record policy minimized = .ok scan := by
  decide

theorem scans : scanAndPlan library source record policy = .ok scan := by
  obtain ⟨walked, walk, prepare⟩ := bind_eq_ok.mp prepares
  exact bind_eq_ok.mpr ⟨walked, walk, bind_eq_ok.mpr ⟨prepared, prepare,
    bind_eq_ok.mpr ⟨minimized, minimizes, finishes⟩⟩⟩

end Sample

/-- The header of a dependency is pruned, and the theorem says what allows it. -/
theorem minimal_pruning_gated_header :
    Sample.pruned Sample.header ∈ Sample.scan.entries ∧
      Gated Sample.policy Sample.scan.entries .runtimeHeaders (Sample.pruned Sample.header) := by
  have member : Sample.pruned Sample.header ∈ Sample.scan.entries := by
    simp [Sample.scan]
  exact ⟨member, minimal_pruning_gated Sample.scans _ member .runtimeHeaders rfl rfl⟩

end DalecHomebrew.RuntimeFS
