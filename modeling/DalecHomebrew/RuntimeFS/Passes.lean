import DalecHomebrew.RuntimeFS.Plan

/-!
# What the passes of a scan keep

Every pass of `scanAndPlan` goes over the entries one by one and writes some of
their fields.  For each pass one lemma says which fields those are; all others are
read off the entry before the pass.  `Stages` is the inversion of a successful
scan: the entries between the passes.
-/

namespace DalecHomebrew.RuntimeFS

open Foundation Foundation.GoString Foundation.GoPath
open Resolution (Node Record)

variable {library : HostLibrary} {policy : NormalizedPolicy} {record : Record}

/-! ## The walk -/

/-- An entry as the walk leaves it: the content or the target has been read and
nothing is decided. -/
structure Scanned (library : HostLibrary) (entry : SourceEntry) : Prop where
  path : validateRelativePath entry.rel = .ok ()
  type : entry.typeName ≠ .hardlink
  content : entry.typeName = .regular → ∃ content, entry.sha256 = library.sha256 content
  target : entry.typeName = .symlink → entry.linkSource ≠ ""
  pruneReason : entry.pruneReason = none
  writable : entry.writable = false

variable {entry : SourceEntry}

theorem scanned_of_scanFile {file : SourceFile} (scanned : scanFile library file = .ok entry) :
    Scanned library entry ∧ entry.rel = file.path ∧ entry.inode = file.inode ∧
      (entry.typeName = .regular ↔ ∃ content, file.kind = .regular content) := by
  simp only [scanFile, runtimeError, error_bind, bind_eq_ok, reportAs_eq_ok, ite_error_eq_ok]
    at scanned
  obtain ⟨_, path, typeName, typed, _, _, _, read⟩ := scanned
  cases kind : file.kind with
  | directory =>
    rw [kind] at typed read
    cases typed
    cases read
    exact ⟨⟨path, by simp, by simp, by simp, rfl, rfl⟩, rfl, rfl, by simp⟩
  | regular content =>
    rw [kind] at typed read
    cases typed
    simp only [readEntry, bind_eq_ok, reportAs_eq_ok, pure_eq_ok] at read
    obtain ⟨bytes, _, rfl⟩ := read
    exact ⟨⟨path, by simp, fun _ => ⟨bytes, rfl⟩, by simp, rfl, rfl⟩, rfl, rfl, by simp⟩
  | symlink target =>
    rw [kind] at typed read
    cases typed
    simp only [readEntry, runtimeError, bind_eq_ok, reportAs_eq_ok, ite_error_eq_ok, pure_eq_ok,
      not_or] at read
    obtain ⟨text, _, ⟨_, some⟩, rfl⟩ := read
    exact ⟨⟨path, by simp, by simp, fun _ => some, rfl, rfl⟩, rfl, rfl, by simp⟩
  | special mode =>
    rw [kind] at typed
    cases typed

/-- A visited file and its entry. -/
def Visits (library : HostLibrary) (visited : Except RuntimeError SourceFile)
    (entry : SourceEntry) : Prop :=
  ∃ file, visited = .ok file ∧ scanFile library file = .ok entry

variable {source : Source} {entries : List SourceEntry}
  (walked : walkSource library source = .ok entries)

include walked

/-- The walk makes one entry of every visited file, and no path occurs twice. -/
theorem visits_of_walkSource :
    ∃ visited, List.Forall₂ (Visits library) source.walk visited ∧
      (visited.map SourceEntry.rel).Nodup ∧ entries = sortByKey SourceEntry.rel visited := by
  simp only [walkSource, runtimeError, error_bind, bind_eq_ok, reportAs_eq_ok, ite_error_eq_ok,
    pure_eq_ok] at walked
  obtain ⟨_, _, _, visited, visits, rfl⟩ := walked
  suffices made : List.Forall₂ (Visits library) source.walk visited ∧
      (visited.map SourceEntry.rel).Nodup from ⟨visited, made.1, made.2, rfl⟩
  refine foldlM_history (motive := fun seen entries =>
    List.Forall₂ (Visits library) seen entries ∧ (entries.map SourceEntry.rel).Nodup) ?_ visits
    ⟨.nil, .nil⟩
  rintro seen entries item next ⟨made, distinct⟩ step
  simp only [visit, runtimeError, bind_eq_ok, ite_error_eq_ok, pure_eq_ok] at step
  obtain ⟨file, rfl, entry, scanned, fresh, rfl⟩ := step
  refine ⟨List.rel_append made (.cons ⟨file, rfl, scanned⟩ .nil), ?_⟩
  rw [List.map_append, List.nodup_append]
  refine ⟨distinct, List.nodup_singleton _, ?_⟩
  rintro rel earlier other last rfl
  obtain ⟨previous, member, same⟩ := List.mem_map.mp earlier
  rw [List.map_singleton, List.mem_singleton] at last
  rw [Option.not_isSome_iff_eq_none, byPath, List.find?_eq_none] at fresh
  exact fresh previous member (by simpa [last] using same)

/-- The entries of a walk are in the order of their paths. -/
theorem scanned_of_walkSource :
    (∀ entry ∈ entries, Scanned library entry) ∧
      entries.Pairwise fun left right => left.rel < right.rel := by
  obtain ⟨visited, paired, distinct, rfl⟩ := visits_of_walkSource walked
  constructor
  · intro entry member
    obtain ⟨_, _, file, _, scanned⟩ := exists_left_of_forall₂ paired (mem_sortByKey.mp member)
    exact (scanned_of_scanFile scanned).1
  · have apart : ((sortByKey SourceEntry.rel visited).map SourceEntry.rel).Nodup :=
      ((sortByKey_perm SourceEntry.rel visited).map SourceEntry.rel).nodup_iff.mpr distinct
    exact ((sortByKey_pairwise SourceEntry.rel visited).and (List.pairwise_map.mp apart)).imp
      fun both => lt_of_le_of_ne both.1 both.2

omit walked

/-! ## The fields that a pass writes -/

variable {entry after : SourceEntry}

theorem classifyRoot_shape (classified : classifyRoot policy entry = .ok after) :
    ∃ retain packageName writable statePath,
      after = { entry with retain, packageName, writable, statePath } := by
  simp only [classifyRoot, classifyCellar, classifyOpt, classifyState, runtimeError] at classified
  repeat' split at classified
  all_goals cases classified
  all_goals exact ⟨_, _, _, _, rfl⟩

theorem classifyLoader_cases
    (classified : classifyLoader library.toPolicyLibrary policy entry = .ok after) :
    after = { entry with pruneReason := some .runtimeBase } ∨
      after = { entry with retain := policy.allowlist.lib } := by
  simp only [classifyLoader, runtimeError, bind_eq_ok, ite_error_eq_ok, pure, Except.pure]
    at classified
  obtain ⟨expected, _, _, classified⟩ := classified
  repeat' split at classified
  all_goals cases classified
  · exact .inl rfl
  · exact .inr rfl

theorem forcedPrune_not_minimal {rel : String} {reason : PruneReason}
    {kind : Option MetadataKind} (forced : forcedPrune rel = some (reason, kind)) :
    reason.isMinimal = false := by
  -- `split` would simplify all the branches that follow at every branch
  have branch : ∀ {condition : Prop} [Decidable condition]
      {first second : Option (PruneReason × Option MetadataKind)},
      (if condition then first else second) = some (reason, kind) →
        first = some (reason, kind) ∨ second = some (reason, kind) := by
    intro condition _ first second chosen
    by_cases holds : condition
    · exact .inl (by rwa [if_pos holds] at chosen)
    · exact .inr (by rwa [if_neg holds] at chosen)
  unfold forcedPrune at forced
  iterate 8
    rcases branch forced with chosen | forced
    · cases chosen
      rfl
  rcases branch forced with nested | forced
  · rcases branch nested with chosen | nested
    · cases chosen
      rfl
    rcases branch nested with chosen | chosen
    · cases chosen
      rfl
    · cases chosen
      rfl
  rcases branch forced with chosen | none
  · cases chosen
    rfl
  · cases none

theorem classifyRetention_shape
    (classified : classifyRetention library.toPolicyLibrary policy entry = .ok after) :
    ∃ retain pruneReason metadataExport packageName writable statePath, after = { entry with
        retain, pruneReason, metadataExport, packageName, writable, statePath } ∧
      (pruneReason = entry.pruneReason ∨
        ∀ reason, pruneReason = some reason → reason.isMinimal = false) := by
  unfold classifyRetention at classified
  split at classified
  · rcases classifyLoader_cases classified with rfl | rfl
    · exact ⟨_, _, _, _, _, _, rfl, .inr (by rintro _ ⟨⟩; rfl)⟩
    · exact ⟨_, _, _, _, _, _, rfl, .inl rfl⟩
  · split at classified
    · rename_i forced
      cases classified
      refine ⟨_, _, _, _, _, _, rfl, .inr ?_⟩
      rintro _ ⟨⟩
      exact forcedPrune_not_minimal forced
    · obtain ⟨rooted, root, finished⟩ := bind_eq_ok.mp classified
      obtain ⟨retain, packageName, writable, statePath, rfl⟩ := classifyRoot_shape root
      simp only [pure_eq_ok] at finished
      subst finished
      split
      · exact ⟨_, _, _, _, _, _, rfl, .inl rfl⟩
      · exact ⟨_, _, _, _, _, _, rfl, .inr (by rintro _ ⟨⟩; rfl)⟩

variable {sourceRoot : String}

theorem normalizeLink_shape (linked : normalizeLink library sourceRoot policy entry = .ok after) :
    ∃ linkResolved linkOutput retain pruneReason,
      after = { entry with linkResolved, linkOutput, retain, pruneReason } ∧
        (retain = true → entry.retain = true) ∧
        (pruneReason = entry.pruneReason ∨ pruneReason = some .managerState) := by
  unfold normalizeLink at linked
  split at linked
  · cases linked
    exact ⟨_, _, _, _, rfl, id, .inl rfl⟩
  obtain ⟨target, _, finished⟩ := bind_eq_ok.mp linked
  simp only [pure_eq_ok] at finished
  subst finished
  split
  · exact ⟨_, _, _, _, rfl, by simp, .inr rfl⟩
  · exact ⟨_, _, _, _, rfl, id, .inl rfl⟩

theorem normalizeLinks_forall₂ {entries linked : List SourceEntry}
    (normalized : normalizeLinks library sourceRoot policy entries = .ok linked) :
    List.Forall₂ (fun entry after => normalizeLink library sourceRoot policy entry = .ok after)
      entries linked := by
  simp only [normalizeLinks, bind_eq_ok, pure_eq_ok] at normalized
  obtain ⟨after, mapped, _, _, _, _, rfl⟩ := normalized
  exact mapM_eq_ok.mp mapped

/-! ## Attribution -/

/-- A pass that only gives entries a package. -/
def Attributes (entry after : SourceEntry) : Prop :=
  ∃ packageName, after = { entry with packageName } ∧
    (entry.packageName ≠ "" → packageName = entry.packageName)

theorem Attributes.refl (entry : SourceEntry) : Attributes entry entry :=
  ⟨_, rfl, fun _ => rfl⟩

theorem Attributes.trans {middle : SourceEntry}
    (first : Attributes entry middle) (second : Attributes middle after) :
    Attributes entry after := by
  obtain ⟨package, rfl, kept⟩ := first
  obtain ⟨other, rfl, keptAfter⟩ := second
  refine ⟨other, rfl, fun some => ?_⟩
  have named := kept some
  subst named
  exact keptAfter some

theorem attributeFile_attributes (policy : NormalizedPolicy) (files : List KegFile)
    (entry : SourceEntry) : Attributes entry (attributeFile policy files entry) := by
  unfold attributeFile
  split
  · exact Attributes.refl entry
  · rename_i unnamed
    simp only [not_or, ne_eq, not_not] at unnamed
    exact ⟨_, rfl, fun some => absurd unnamed.2.2.2 some⟩

theorem attributeLink_attributes
    (linked : attributeLink entries entry = .ok after) : Attributes entry after := by
  unfold attributeLink at linked
  split at linked
  · cases linked
    exact Attributes.refl entry
  · rename_i unnamed
    simp only [not_or, ne_eq, not_not] at unnamed
    simp only [bind_eq_ok, pure_eq_ok] at linked
    obtain ⟨final, _, rfl⟩ := linked
    exact ⟨_, rfl, fun some => absurd unnamed.2.2 some⟩

theorem attributeDirectory_attributes (policy : NormalizedPolicy) (entry : SourceEntry) :
    Attributes entry (attributeDirectory policy entry) := by
  unfold attributeDirectory
  split
  · exact Attributes.refl entry
  rename_i unnamed
  simp only [not_or, ne_eq, not_not] at unnamed
  have named : ∀ packageName : String, Attributes entry { entry with packageName } :=
    fun packageName => ⟨packageName, rfl, fun some => absurd unnamed.2.2 some⟩
  split
  · exact named _
  · split
    · exact named _
    · exact Attributes.refl entry

theorem attributeEntries_forall₂ {entries attributed : List SourceEntry}
    (done : attributeEntries policy entries = .ok attributed) :
    List.Forall₂ (fun entry after => Attributes (attributeKegEntry policy entry) after)
      entries attributed := by
  simp only [attributeEntries, bind_eq_ok, pure_eq_ok] at done
  obtain ⟨linked, links, _, _, rfl⟩ := done
  rw [List.forall₂_map_right_iff]
  have paired := mapM_eq_ok.mp links
  rw [List.forall₂_map_left_iff, List.forall₂_map_left_iff] at paired
  refine paired.imp fun entry after made => ?_
  exact ((attributeFile_attributes policy _ _).trans (attributeLink_attributes made)).trans
    (attributeDirectory_attributes policy after)

theorem attributeKegEntry_shape (policy : NormalizedPolicy) (entry : SourceEntry) :
    ∃ packageName, attributeKegEntry policy entry = { entry with packageName } := by
  unfold attributeKegEntry
  split
  · split <;> exact ⟨_, rfl⟩
  · exact ⟨_, rfl⟩

/-! ## Pruning -/

theorem pruneOptionalLink_shape (library : PolicyLibrary) (policy : NormalizedPolicy)
    (entry : SourceEntry) :
    ∃ retain pruneReason,
      pruneOptionalLink library policy entry = { entry with retain, pruneReason } ∧
        (retain = true → entry.retain = true) ∧
        (pruneReason = entry.pruneReason ∨ pruneReason = some .optionalTooling) := by
  unfold pruneOptionalLink
  simp only
  split
  · exact ⟨_, _, rfl, by simp, .inr rfl⟩
  · exact ⟨_, _, rfl, id, .inl rfl⟩

theorem pruneMinimalRuntimeProfile_shape {entries minimized : List SourceEntry}
    (pruned : pruneMinimalRuntimeProfile policy entries = .ok minimized) :
    List.Forall₂ (fun entry after => ∃ retain pruneReason,
        after = { entry with retain, pruneReason } ∧ (retain = true → entry.retain = true))
      entries minimized := by
  unfold pruneMinimalRuntimeProfile at pruned
  split at pruned
  · cases pruned
    exact List.forall₂_same.mpr fun entry _ => ⟨_, _, rfl, id⟩
  simp only [bind_eq_ok, pure_eq_ok] at pruned
  obtain ⟨candidates, _, rfl⟩ := pruned
  rw [List.forall₂_map_right_iff]
  refine List.forall₂_same.mpr fun entry _ => ?_
  unfold pruneCandidate
  split
  · exact ⟨_, _, rfl, by simp⟩
  · exact ⟨_, _, rfl, id⟩

/-! ## Planning -/

theorem planMode_shape (planned : planMode record entry = .ok after) :
    ∃ statePath uid gid desiredMode, after = { entry with statePath, uid, gid, desiredMode } := by
  unfold planMode at planned
  split at planned
  · cases planned
    exact ⟨_, _, _, _, rfl⟩
  · simp only [runtimeError, ite_error_eq_ok] at planned
    cases planned.2
    exact ⟨_, _, _, _, rfl⟩

variable {planned : List SourceEntry}

/-- A file stays what it is, or becomes a hard link of the first name of its inode. -/
theorem planHardlink_cases (linked : planHardlink planned entry = .ok after) :
    after = entry ∨ entry.inode ≠ "" ∧ namesInode entry.inode entry = true ∧
      ∃ first ∈ planned, namesInode entry.inode first = true ∧ first.rel ≠ entry.rel ∧
        first.writable = entry.writable ∧
        after = { entry with hardlinkTo := first.rel, typeName := .hardlink } := by
  unfold planHardlink at linked
  split at linked
  · cases linked
    exact .inl rfl
  rename_i member
  simp only [not_or, Bool.not_eq_false] at member
  split at linked
  · cases linked
    exact .inl rfl
  rename_i first found
  split at linked
  · cases linked
    exact .inl rfl
  · rename_i other
    simp only [runtimeError, ite_error_eq_ok, not_or, not_not] at linked
    obtain ⟨_, ⟨_, _, _, wrote⟩, made⟩ := linked
    exact .inr ⟨member.1, member.2, first, List.mem_of_find?_eq_some found,
      List.find?_some found, other, wrote, (Except.ok.inj made).symm⟩

theorem exportEntry_shape {nodes : Table String Node} {after : SourceEntry × Option MetadataExport}
    (exported : exportEntry library record nodes entry = .ok after) :
    Attributes entry after.1 ∧ (entry.retain = true → after.1 = entry) := by
  unfold exportEntry at exported
  split at exported
  · cases exported
    exact ⟨Attributes.refl entry, fun _ => rfl⟩
  split at exported
  · cases exported
    exact ⟨Attributes.refl entry, fun _ => rfl⟩
  rename_i _ kind _ exportable
  have left : entry.retain = false := by
    simp only [isExported, Bool.not_eq_false, decide_eq_true_eq] at exportable
    exact exportable.1
  simp only [runtimeError, ite_error_eq_ok, bind_eq_ok, pure_eq_ok] at exported
  obtain ⟨_, _, _, _, rfl⟩ := exported
  refine ⟨?_, by simp [left]⟩
  unfold attributeExport
  split
  · rename_i unnamed
    exact ⟨_, rfl, fun some => absurd unnamed some⟩
  · exact Attributes.refl entry

/-- What the passes after the pruning may change of an entry. -/
def Finishes (entry after : SourceEntry) : Prop :=
  ∃ statePath uid gid desiredMode typeName hardlinkTo packageName,
    after = { entry with statePath, uid, gid, desiredMode, typeName, hardlinkTo, packageName } ∧
      (typeName = entry.typeName ∨
        entry.retain = true ∧ entry.typeName = .regular ∧ typeName = .hardlink) ∧
      (entry.packageName ≠ "" → packageName = entry.packageName)

theorem finishes_of_plan {collected : List SourceEntry × List MetadataExport}
    (plan : planModesAndHardlinks record entries = .ok planned)
    (exports : collectMetadataExports library record planned = .ok collected) :
    List.Forall₂ Finishes entries collected.1 := by
  simp only [planModesAndHardlinks, bind_eq_ok] at plan
  obtain ⟨modes, moded, hardlinked⟩ := plan
  simp only [collectMetadataExports, bind_eq_ok, pure_eq_ok] at exports
  obtain ⟨exported, each, rfl⟩ := exports
  rw [List.forall₂_map_right_iff]
  have both : List.Forall₂ (fun entry after =>
      ∃ mode, planMode record entry = .ok mode ∧ planHardlink modes mode = .ok after)
      entries planned :=
    forall₂_trans (fun _ mode _ first second => ⟨mode, first, second⟩) (mapM_eq_ok.mp moded)
      (mapM_eq_ok.mp hardlinked)
  refine forall₂_trans ?_ both (mapM_eq_ok.mp each)
  rintro entry linked after ⟨mode, moded, hardlinked⟩ exported
  obtain ⟨statePath, uid, gid, desiredMode, rfl⟩ := planMode_shape moded
  obtain ⟨packageName, same, kept⟩ := (exportEntry_shape exported).1
  rw [same]
  rcases planHardlink_cases hardlinked with rfl | ⟨_, names, first, _, _, _, _, rfl⟩
  · exact ⟨_, _, _, _, _, _, _, rfl, .inl rfl, kept⟩
  · simp only [namesInode, decide_eq_true_eq] at names
    exact ⟨_, _, _, _, _, _, _, rfl, .inr ⟨names.1, names.2.1, rfl⟩, kept⟩

/-! ## Reasons -/

/-- Retained, or left out for a reason.  Only the loader link of `glibc` is left out without
one, where the allowlist has no `lib`. -/
def Explained (policy : NormalizedPolicy) (entry : SourceEntry) : Prop :=
  entry.retain = true ∨ entry.pruneReason.isSome = true ∨
    entry.rel = "lib/ld.so" ∧ policy.allowlist.lib = false

theorem explained_of_classifyRetention
    (classified : classifyRetention library.toPolicyLibrary policy entry = .ok after) :
    Explained policy after := by
  unfold classifyRetention at classified
  split at classified
  case isTrue loader =>
    rcases classifyLoader_cases classified with rfl | rfl
    · exact .inr (.inl rfl)
    · exact (Bool.eq_false_or_eq_true policy.allowlist.lib).imp id fun absent =>
        .inr ⟨loader, absent⟩
  case isFalse =>
    split at classified
    · cases classified
      exact .inr (.inl rfl)
    · obtain ⟨rooted, -, finished⟩ := bind_eq_ok.mp classified
      rw [← pure_eq_ok.mp finished]
      split
      case isTrue kept => exact .inl kept
      case isFalse => exact .inr (.inl rfl)

theorem Explained.normalizeLink (explained : Explained policy entry)
    (linked : normalizeLink library sourceRoot policy entry = .ok after) :
    Explained policy after := by
  unfold RuntimeFS.normalizeLink at linked
  split at linked
  · cases linked
    exact explained
  · obtain ⟨target, -, finished⟩ := bind_eq_ok.mp linked
    rw [← pure_eq_ok.mp finished]
    split
    · exact .inr (.inl rfl)
    · exact explained

/-! ## The stages of a scan -/

/-- The entries between the passes of a successful scan. -/
structure Stages (library : HostLibrary) (source : Source) (record : Record)
    (policy : NormalizedPolicy) (scan : SourceScan) where
  walked : List SourceEntry
  classified : List SourceEntry
  linked : List SourceEntry
  attributed : List SourceEntry
  minimized : List SourceEntry
  planned : List SourceEntry
  walk : walkSource library source = .ok walked
  classify : List.Forall₂
    (fun entry after => classifyRetention library.toPolicyLibrary policy entry = .ok after)
    walked classified
  layout : validateExpectedLayout record policy classified = .ok ()
  link : normalizeLinks library source.root policy classified = .ok linked
  attribution : attributeEntries policy linked = .ok attributed
  minimize : pruneMinimalRuntimeProfile policy
    (pruneOptionalDependencyTooling library.toPolicyLibrary policy attributed) = .ok minimized
  links : validateRetainedLinks minimized = .ok ()
  executables : validateRequestedExecutables record policy minimized = .ok ()
  plan : planModesAndHardlinks record minimized = .ok planned
  collect : collectMetadataExports library record planned = .ok (scan.entries, scan.metadata)

theorem nonempty_stages {source : Source} {scan : SourceScan}
    (scanned : scanAndPlan library source record policy = .ok scan) :
    Nonempty (Stages library source record policy scan) := by
  simp only [scanAndPlan, prepareEntries, finishEntries, bind_eq_ok, pure_eq_ok] at scanned
  obtain ⟨walked, walk, _, ⟨classified, classify, _, layout, linked, link, attributed, attribution,
    rfl⟩, minimized, minimize, _, links, _, executables, planned, plan, collected, collect, rfl⟩ :=
    scanned
  exact ⟨{
    walked, classified, linked, attributed, minimized, planned
    walk
    classify := mapM_eq_ok.mp classify
    layout, link, attribution, minimize, links, executables, plan, collect }⟩

namespace Stages

variable {source : Source} {scan : SourceScan} (stages : Stages library source record policy scan)

/-- The entries from which the minimal profile takes its candidates. -/
def tooled : List SourceEntry :=
  pruneOptionalDependencyTooling library.toPolicyLibrary policy stages.attributed

theorem finishes : List.Forall₂ Finishes stages.minimized scan.entries :=
  finishes_of_plan stages.plan stages.collect

theorem rel_linked : stages.linked.map (·.rel) = stages.walked.map (·.rel) := by
  have classified : stages.walked.map (·.rel) = stages.classified.map (·.rel) := by
    refine map_eq_map_of_forall₂ stages.classify fun entry after made => ?_
    obtain ⟨_, _, _, _, _, _, rfl, _⟩ := classifyRetention_shape made
    rfl
  rw [classified]
  refine (map_eq_map_of_forall₂ (normalizeLinks_forall₂ stages.link) fun entry after made => ?_).symm
  obtain ⟨_, _, _, _, rfl, _⟩ := normalizeLink_shape made
  rfl

theorem rel_tooled : stages.tooled.map (·.rel) = stages.walked.map (·.rel) := by
  have attributed : stages.linked.map (·.rel) = stages.attributed.map (·.rel) := by
    refine map_eq_map_of_forall₂ (attributeEntries_forall₂ stages.attribution)
      fun entry after made => ?_
    obtain ⟨_, rfl, _⟩ := made
    obtain ⟨_, shape⟩ := attributeKegEntry_shape policy entry
    rw [shape]
  rw [← stages.rel_linked, attributed, tooled, pruneOptionalDependencyTooling, List.map_map]
  refine List.map_congr_left fun entry _ => ?_
  obtain ⟨_, _, shape, _⟩ := pruneOptionalLink_shape library.toPolicyLibrary policy entry
  rw [Function.comp_apply, shape]

theorem rel_entries : scan.entries.map (·.rel) = stages.walked.map (·.rel) := by
  have minimized : stages.tooled.map (·.rel) = stages.minimized.map (·.rel) := by
    refine map_eq_map_of_forall₂ (pruneMinimalRuntimeProfile_shape stages.minimize)
      fun entry after made => ?_
    obtain ⟨_, _, rfl, _⟩ := made
    rfl
  rw [← stages.rel_tooled, minimized]
  refine (map_eq_map_of_forall₂ stages.finishes fun entry after made => ?_).symm
  obtain ⟨_, _, _, _, _, _, _, rfl, _⟩ := made
  rfl

theorem ordered : stages.walked.Pairwise fun left right => left.rel < right.rel :=
  (scanned_of_walkSource stages.walk).2

theorem distinct : (stages.walked.map (·.rel)).Nodup :=
  List.pairwise_map.mpr (stages.ordered.imp fun less => less.ne)

include stages in
theorem explained : ∀ entry ∈ scan.entries, Explained policy entry := by
  intro entry member
  obtain ⟨pruned, isPruned, _, _, _, _, _, _, _, rfl, -⟩ :=
    exists_left_of_forall₂ stages.finishes member
  suffices Explained policy pruned from this
  have tooled : ∀ entry ∈ stages.tooled, Explained policy entry := by
    intro entry member
    obtain ⟨attributed, isAttributed, rfl⟩ := List.mem_map.mp member
    obtain ⟨linked, isLinked, _, rfl, -⟩ :=
      exists_left_of_forall₂ (attributeEntries_forall₂ stages.attribution) isAttributed
    obtain ⟨classified, isClassified, link⟩ :=
      exists_left_of_forall₂ (normalizeLinks_forall₂ stages.link) isLinked
    obtain ⟨_, _, classify⟩ := exists_left_of_forall₂ stages.classify isClassified
    have explained := (explained_of_classifyRetention classify).normalizeLink link
    obtain ⟨_, same⟩ := attributeKegEntry_shape policy linked
    rw [same]
    unfold pruneOptionalLink
    dsimp only
    split
    · exact .inr (.inl rfl)
    · exact explained
  have minimize := stages.minimize
  unfold pruneMinimalRuntimeProfile at minimize
  split at minimize
  · rw [← Except.ok.inj minimize] at isPruned
    exact tooled pruned isPruned
  · obtain ⟨candidates, -, finished⟩ := bind_eq_ok.mp minimize
    rw [← pure_eq_ok.mp finished] at isPruned
    obtain ⟨before, among, rfl⟩ := List.mem_map.mp isPruned
    unfold pruneCandidate
    split
    · exact .inr (.inl rfl)
    · exact tooled before among

end Stages

end DalecHomebrew.RuntimeFS
