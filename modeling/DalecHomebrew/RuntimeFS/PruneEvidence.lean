import DalecHomebrew.RuntimeFS.PruneCover

/-!
# Exactness and maximality of the prune manifest

The manifest of a scan is an exact cover of the pruned paths.  Which uniformly pruned
directories it compacts depends on the names beside them.
-/

namespace DalecHomebrew.RuntimeFS

open Foundation Foundation.GoString Foundation.Selection
open Resolution (Node Record)

section Evidence

variable {library : HostLibrary} {source : Source} {record : Record} {policy : NormalizedPolicy}
  {scan : SourceScan} {manifest : PruneManifest} {resolutionDigest : String}
  {digest : SubtreeCommitment → Except String String}

/-! ## Exact cover -/

/-- No two commitments have one digest. -/
def IdealDigest (digest : SubtreeCommitment → Except String String) : Prop :=
  ∀ left right value, digest left = .ok value → digest right = .ok value → left = right

/-- A commitment that lists the scanned entries at or below its root, one by one. -/
structure Lists (entries : List SourceEntry) (subtree : PruneSubtree)
    (commitment : SubtreeCommitment) : Prop where
  root : commitment.root = subtree.path
  reason : commitment.reason = subtree.reason
  package : commitment.package = subtree.package
  items : List.Forall₂ (fun entry item =>
      item.path = entry.rel ∧ commitmentEntry subtree.path entry = .ok item)
    (inside entries subtree.path) commitment.entries

structure ExactCover (digest : SubtreeCommitment → Except String String) (record : Record)
    (scan : SourceScan) (manifest : PruneManifest) : Prop where
  once : ∀ entry ∈ scan.pruned, manifest.named entry.rel + manifest.covered entry.rel = 1
  retained : ∀ entry ∈ scan.retained, manifest.named entry.rel = 0 ∧ manifest.covered entry.rel = 0
  known : ∀ item ∈ manifest.entries, ∃ entry ∈ scan.pruned, item = buildPruneEntry record entry
  uniform : ∀ subtree ∈ manifest.subtrees, PrunedFor scan.entries subtree
  determined : ∀ subtree ∈ manifest.subtrees, ∃ commitment,
    digest commitment = .ok subtree.commitmentDigest ∧ Lists scan.entries subtree commitment ∧
      (IdealDigest digest → ∀ other, digest other = .ok subtree.commitmentDigest →
        Lists scan.entries subtree other)

section

variable {entries : List SourceEntry} {subtree : PruneSubtree} (ordered : Ordered entries)
  (commits : Commits digest (inside entries subtree.path) subtree)

include ordered commits

/-- The entries of a commitment are already in the order of their paths. -/
theorem sortByKey_items :
    sortByKey (·.path) commits.items = commits.items := by
  have same : (inside entries subtree.path).map (·.rel) = commits.items.map (·.path) :=
    map_eq_map_of_forall₂ commits.itemized fun _ _ made => (path_of_commitmentEntry made).symm
  have increasing := List.pairwise_map.mpr (ordered.filter fun entry =>
    isWithin entry.rel subtree.path)
  rw [show entries.filter (fun entry => isWithin entry.rel subtree.path) =
    inside entries subtree.path from rfl, same] at increasing
  exact ((List.pairwise_map.mp increasing).imp fun less => less.le).insertionSort_eq

theorem lists_of_commits :
    ∃ commitment, digest commitment = .ok subtree.commitmentDigest ∧
      Lists entries subtree commitment := by
  refine ⟨_, commits.digested, rfl, rfl, rfl, ?_⟩
  rw [sortByKey_items ordered commits]
  exact commits.itemized.imp fun _ _ made => ⟨path_of_commitmentEntry made, made⟩

end

/-- Every pruned path is in the manifest exactly once, no retained one is, and a subtree
stands for everything at or below its root. -/
theorem prune_manifest_exact (scanned : scanAndPlan library source record policy = .ok scan)
    (built : buildPruneManifest digest scan record policy resolutionDigest = .ok manifest) :
    ExactCover digest record scan manifest := by
  have ordered := ordered_of_scanAndPlan scanned
  obtain ⟨subtrees, compacted, made, committed, explicit⟩ := buildPruneManifest_eq_ok built
  have covering := covering_of_compactSubtrees ordered made
  have named : ∀ entry ∈ scan.entries, manifest.named entry.rel =
      if entry.retain = false ∧ entry.rel ∉ compacted then 1 else 0 := by
    intro entry member
    rw [PruneManifest.named, explicit, countP_sortByKey]
    exact countP_explicit ordered member
  have covered : ∀ entry ∈ scan.entries, manifest.covered entry.rel =
      if entry.rel ∈ compacted then 1 else 0 := by
    intro entry member
    rw [PruneManifest.covered, committed, countP_sortByKey]
    exact covering.countP_eq member
  have among : ∀ subtree ∈ manifest.subtrees, subtree ∈ subtrees := by
    intro subtree member
    rwa [committed, mem_sortByKey] at member
  refine ⟨?_, ?_, ?_, ?_, ?_⟩
  · intro entry member
    obtain ⟨scannedEntry, omitted⟩ := List.mem_filter.mp member
    have kept : entry.retain = false := by simpa using omitted
    rw [named entry scannedEntry, covered entry scannedEntry]
    by_cases listed : entry.rel ∈ compacted
    · simp [listed]
    · simp [listed, kept]
  · intro entry member
    obtain ⟨scannedEntry, kept⟩ := List.mem_filter.mp member
    have outside : entry.rel ∉ compacted := by
      intro listed
      obtain ⟨subtree, found, other, within, same⟩ := (covering.paths entry.rel).mp listed
      have pruned := covering.pruned subtree found entry
        (mem_inside.mpr ⟨scannedEntry, same ▸ (mem_inside.mp within).2⟩)
      rw [pruned.1] at kept
      cases kept
    rw [named entry scannedEntry, covered entry scannedEntry]
    simp [kept, outside]
  · intro item member
    rw [explicit, mem_sortByKey, List.mem_map] at member
    obtain ⟨entry, found, rfl⟩ := member
    exact ⟨entry, (List.mem_filter.mp found).1, rfl⟩
  · intro subtree member
    exact covering.pruned subtree (among subtree member)
  · intro subtree member
    obtain ⟨commits⟩ := covering.commits subtree (among subtree member)
    obtain ⟨commitment, digested, lists⟩ := lists_of_commits ordered commits
    refine ⟨commitment, digested, lists, fun ideal other same => ?_⟩
    rw [ideal other commitment _ same digested]
    exact lists

/-- A successful scan loses nothing: its entries are the files of the walk in the order of
their paths, and what it leaves out it leaves out for a reason. -/
theorem scan_accounts_for_source (scanned : scanAndPlan library source record policy = .ok scan) :
    (∃ paths, paths.Perm (scan.entries.map SourceEntry.rel) ∧
      List.Forall₂ (fun visited path => ∃ file : SourceFile, visited = .ok file ∧ file.path = path)
        source.walk paths) ∧
    Ordered scan.entries ∧ ∀ entry ∈ scan.entries, Explained policy entry := by
  obtain ⟨stages⟩ := nonempty_stages scanned
  obtain ⟨visited, paired, -, sorted⟩ := visits_of_walkSource stages.walk
  refine ⟨⟨visited.map SourceEntry.rel, ?_, ?_⟩, ordered_of_scanAndPlan scanned, stages.explained⟩
  · rw [stages.rel_entries, sorted]
    exact ((sortByKey_perm SourceEntry.rel visited).map _).symm
  · rw [List.forall₂_map_right_iff]
    exact paired.imp fun _ _ ⟨file, ok, made⟩ => ⟨file, ok, (scanned_of_scanFile made).2.1.symm⟩

theorem scan_accounts_for_source_sample :
    Ordered Sample.scan.entries ∧ ∀ entry ∈ Sample.scan.entries, Explained Sample.policy entry :=
  (scan_accounts_for_source Sample.scans).2

end Evidence

namespace Sample

/-- The commitment to the headers of `d`. -/
def commitment : SubtreeCommitment where
  schema := .v2
  root := "Cellar/d/1/include"
  reason := .runtimeHeaders
  package := "d"
  formulaID := "homebrew/core/d"
  entryCount := 2
  regularBytes := 0
  entries :=
    [{ path := "Cellar/d/1/include", type := .directory, mode := "0755", size := 0 },
      { path := "Cellar/d/1/include/h", type := .regular, mode := "0644", size := 0,
        contentSHA256 := "0" }]

/-- A digest that only this commitment has. -/
def digest (other : SubtreeCommitment) : Except String String :=
  if other = commitment then .ok "sha256:0" else .error "unknown commitment"

theorem idealDigest : IdealDigest digest := by
  have only : ∀ other value, digest other = .ok value → other = commitment := by
    intro other value made
    rw [digest] at made
    split_ifs at made with same
    exact same
  intro left right value leftMade rightMade
  rw [only left value leftMade, only right value rightMade]

def manifest : PruneManifest where
  schemaVersion := "dalec-homebrew-prune-manifest/v4"
  policyVersion := Resolution.policyVersionV2
  resolutionDigest := ""
  pruningPolicyDigest := ""
  sourceDateEpoch := 0
  installPrefix := "/p"
  subtrees :=
    [{ path := "Cellar/d/1/include"
       reason := .runtimeHeaders
       package := "d"
       formulaID := "homebrew/core/d"
       entryCount := 2
       regularBytes := 0
       commitmentSchema := .v2
       commitmentDigest := "sha256:0" }]
  entries := []

theorem builds : buildPruneManifest digest scan record policy "" = .ok manifest := by
  decide +kernel

end Sample

/-- The headers of a dependency are one subtree, whose digest stands for both of them. -/
theorem prune_manifest_exact_headers :
    IdealDigest Sample.digest ∧
      ExactCover Sample.digest Sample.record Sample.scan Sample.manifest :=
  ⟨Sample.idealDigest, prune_manifest_exact Sample.scans Sample.builds⟩

/-! ## Maximal compaction -/

section Maximal

variable {library : HostLibrary} {source : Source} {record : Record} {policy : NormalizedPolicy}
  {scan : SourceScan} {manifest : PruneManifest} {resolutionDigest : String}
  {digest : SubtreeCommitment → Except String String} {already : List String}
  {entries : List SourceEntry}

/-- A directory that is pruned as a whole for one package of the record. -/
structure UniformlyPruned (record : Record) (entries : List SourceEntry)
    (directory : SourceEntry) : Prop where
  isDirectory : directory.typeName = .directory
  reason : directory.pruneReason.any compactableV2RuntimeReason = true
  attributed : ∃ node ∈ record.nodes, node.name = directory.packageName
  descendant : ∃ entry ∈ entries, entry.rel ≠ directory.rel ∧
    isWithin entry.rel directory.rel = true
  alike : ∀ entry ∈ entries, isWithin entry.rel directory.rel = true →
    prunedLike directory entry = true

/-- The directory, or a uniformly pruned one above it, has no sibling that sorts between
it and what is below it; and the package has a Formula identity. -/
def Uninterrupted (record : Record) (entries : List SourceEntry) (directory : SourceEntry) : Prop :=
  formulaIDForRack record directory.packageName ≠ "" ∧
    ∃ root ∈ entries, UniformlyPruned record entries root ∧ isWithin directory.rel root.rel = true ∧
      ∀ entry ∈ entries, interrupts entry.rel root.rel = false

theorem node_of_formulaIDForRack {rack : String} (known : formulaIDForRack record rack ≠ "") :
    rack ≠ "" ∧ ∃ node ∈ record.nodes, node.name = rack := by
  rw [formulaIDForRack] at known
  split_ifs at known with absent
  · exact absurd rfl known
  · refine ⟨fun empty => absent (.inr empty), ?_⟩
    cases found : record.nodes.find? (·.name = rack) with
    | none =>
      rw [found] at known
      exact absurd rfl known
    | some node =>
      exact ⟨node, List.mem_of_find?_eq_some found, by simpa using List.find?_some found⟩

/-- What the checkout stands for is pruned as part of the repository. -/
theorem repository_of_mem {repository : List PruneSubtree}
    (made : compactHomebrewRepository digest record entries = .ok (repository, already))
    {subtree : PruneSubtree} (member : subtree ∈ repository) {entry : SourceEntry}
    (within : entry ∈ inside entries subtree.path) :
    entry.pruneReason = some .repository := by
  rcases compactHomebrewRepository_eq_ok made with ⟨rfl, _⟩ | ⟨_, checkout, rfl, _, reason, covering⟩
  · cases member
  · have pruned := covering.pruned subtree member entry within
    rw [List.mem_singleton.mp member, reason] at pruned
    exact pruned.2.1

theorem UniformlyPruned.ne_repository {directory entry : SourceEntry}
    (uniform : UniformlyPruned record entries directory) (member : entry ∈ entries)
    (within : isWithin entry.rel directory.rel = true) :
    entry.pruneReason ≠ some .repository := by
  intro repository
  have alike := uniform.alike entry member within
  have reason := uniform.reason
  simp only [prunedLike, decide_eq_true_eq] at alike
  rw [← alike.2.1, repository] at reason
  cases reason

section

variable {roots : List SourceEntry} {root : SourceEntry} (ordered : Ordered entries)
  (selects : Selects below (isCommitted record already) entries roots)

include ordered selects

/-- A chosen root is a uniformly pruned directory that nothing interrupts. -/
theorem uniformlyPruned_of_chosen (chosen : root ∈ roots) :
    UniformlyPruned record entries root ∧ formulaIDForRack record root.packageName ≠ "" := by
  obtain ⟨compactable, descendant, _, alike⟩ := chosen_inside ordered selects chosen
  simp only [isCompactableRoot, decide_eq_true_eq] at compactable
  obtain ⟨isDirectory, _, reason, _, _, _, known⟩ := compactable
  refine ⟨⟨isDirectory, reason, (node_of_formulaIDForRack known).2, descendant, ?_⟩, known⟩
  intro entry member within
  exact (alike entry (mem_inside.mpr ⟨member, within⟩)).1

/-- A uniformly pruned directory that nothing interrupts lies below a chosen root. -/
theorem chosen_of_uniformlyPruned
    (repository : ∀ entry ∈ entries, entry.rel ∈ already → entry.pruneReason = some .repository)
    (member : root ∈ entries) (uniform : UniformlyPruned record entries root)
    (known : formulaIDForRack record root.packageName ≠ "")
    (uninterrupted : ∀ entry ∈ entries, interrupts entry.rel root.rel = false) :
    ∃ chief ∈ roots, below root chief = true := by
  have fresh : ∀ entry ∈ entries, isWithin entry.rel root.rel = true → entry.rel ∉ already :=
    fun entry among within listed =>
      uniform.ne_repository among within (repository entry among listed)
  have own := uniform.alike root member (isWithin_refl _)
  simp only [prunedLike, decide_eq_true_eq] at own
  have reflexive : ∀ entry, below entry entry = true := fun entry => isWithin_refl entry.rel
  obtain ⟨before, rest, split⟩ := List.append_of_mem member
  refine selects.covered reflexive split (isCommitted_iff.mpr ?_)
  rw [split] at ordered
  have two : 2 ≤ (block root rest).length := by
    rw [two_le_block_iff ordered, ← split]
    exact ⟨uniform.descendant, uninterrupted⟩
  refine ⟨?_, two, ?_⟩
  · simp only [isCompactableRoot, decide_eq_true_eq]
    exact ⟨uniform.isDirectory, own.1, uniform.reason, fresh root member (isWithin_refl _),
      (node_of_formulaIDForRack known).1, own.2.2.2, known⟩
  · intro entry within
    rw [block_eq_inside ordered two, ← split, mem_inside] at within
    exact ⟨uniform.alike entry within.1 within.2, fresh entry within.1 within.2⟩

end

/-- A uniformly pruned directory is below exactly one committed subtree precisely when
it, or such a directory above it, is not interrupted by a sibling. -/
theorem subtree_maximal_iff (scanned : scanAndPlan library source record policy = .ok scan)
    (versioned : isV2RuntimeRecord record = true)
    (built : buildPruneManifest digest scan record policy resolutionDigest = .ok manifest)
    {directory : SourceEntry} (member : directory ∈ scan.entries)
    (uniform : UniformlyPruned record scan.entries directory) :
    manifest.covered directory.rel = 1 ↔ Uninterrupted record scan.entries directory := by
  have ordered := ordered_of_scanAndPlan scanned
  obtain ⟨subtrees, compacted, made, committed, _⟩ := buildPruneManifest_eq_ok built
  have covering := covering_of_compactSubtrees ordered made
  obtain ⟨repository, already, runtime, more, first, rfl, rfl, second⟩ :=
    compactSubtrees_eq_ok ordered made
  rw [if_pos versioned] at second
  obtain ⟨roots, selects, represents, paths⟩ := second
  have repositoryPaths : ∀ entry ∈ scan.entries, entry.rel ∈ already →
      entry.pruneReason = some .repository := by
    intro entry among listed
    rcases compactHomebrewRepository_eq_ok first with ⟨_, rfl⟩ | ⟨_, _, _, _, _, checkout⟩
    · cases listed
    · obtain ⟨subtree, found, other, within, same⟩ := (checkout.paths entry.rel).mp listed
      exact repository_of_mem first found
        (mem_inside.mpr ⟨among, same ▸ (mem_inside.mp within).2⟩)
  rw [PruneManifest.covered, committed, countP_sortByKey, covering.countP_eq member]
  have compactedIff : (if directory.rel ∈ already ++ more then 1 else 0) = 1 ↔
      directory.rel ∈ already ++ more := by
    split_ifs with listed <;> simp [listed]
  rw [compactedIff, List.mem_append]
  constructor
  · rintro (listed | listed)
    · exact absurd (repositoryPaths directory member listed)
        (uniform.ne_repository member (isWithin_refl _))
    · obtain ⟨root, chosen, other, within, same⟩ := (paths directory.rel).mp listed
      have covers : isWithin directory.rel root.rel = true := same ▸ (mem_inside.mp within).2
      obtain ⟨rootUniform, known⟩ := uniformlyPruned_of_chosen ordered selects chosen
      have alike := rootUniform.alike directory member covers
      simp only [prunedLike, decide_eq_true_eq] at alike
      refine ⟨alike.2.2.1 ▸ known, root, selects.sublist.subset chosen, rootUniform, covers, ?_⟩
      exact (chosen_inside ordered selects chosen).2.2.1
  · rintro ⟨known, root, rootMember, rootUniform, covers, uninterrupted⟩
    have alike := rootUniform.alike directory member covers
    simp only [prunedLike, decide_eq_true_eq] at alike
    obtain ⟨chief, chosen, above⟩ := chosen_of_uniformlyPruned ordered selects repositoryPaths
      rootMember rootUniform (alike.2.2.1 ▸ known) uninterrupted
    refine .inr ((paths directory.rel).mpr ⟨chief, chosen, directory, ?_, rfl⟩)
    exact mem_inside.mpr ⟨member, isWithin_trans covers above⟩

end Maximal

namespace Sample

/-- The headers are pruned as a whole in every scan that has these two entries below them. -/
theorem headers_uniform {entries : List SourceEntry} (member : pruned header ∈ entries)
    (alike : ∀ entry ∈ entries, isWithin entry.rel "Cellar/d/1/include" = true →
      prunedLike (pruned (kept "Cellar/d/1/include" "d")) entry = true) :
    UniformlyPruned record entries (pruned (kept "Cellar/d/1/include" "d")) where
  isDirectory := rfl
  reason := rfl
  attributed := ⟨node, List.mem_singleton_self _, rfl⟩
  descendant := ⟨pruned header, member, by decide, by decide⟩
  alike := alike

end Sample

/-- Nothing interrupts the headers of the sample, and one subtree stands for them. -/
theorem subtree_maximal_headers :
    Uninterrupted Sample.record Sample.scan.entries
        (Sample.pruned (Sample.kept "Cellar/d/1/include" "d")) ∧
      Sample.manifest.covered "Cellar/d/1/include" = 1 := by
  have member : Sample.pruned (Sample.kept "Cellar/d/1/include" "d") ∈ Sample.scan.entries := by
    simp [Sample.scan]
  have once : Sample.manifest.covered "Cellar/d/1/include" = 1 := by decide
  exact ⟨(subtree_maximal_iff Sample.scans (by decide) Sample.builds member
    (Sample.headers_uniform (by decide) (by decide))).mp once, once⟩

namespace Sample

/-- The same headers beside a file `include-x`. -/
def siblingSource : Source where
  root := "/s"
  walk :=
    [directory "Cellar", directory "Cellar/d", directory "Cellar/d/1",
      directory "Cellar/d/1/include", file "Cellar/d/1/include/h", file "Cellar/d/1/include-x",
      directory "opt", symlink "opt/d" "../Cellar/d/1", directory "var", directory "var/d"]

def sibling : SourceEntry := { header with rel := "Cellar/d/1/include-x" }

def siblingPrepared : List SourceEntry := prepared.insertIdx 4 sibling

def siblingMinimized : List SourceEntry := minimized.insertIdx 4 sibling

def siblingScan : SourceScan where
  entries := scan.entries.insertIdx 4 { sibling with desiredMode := 0o444 }
  metadata := []

theorem sibling_prepares :
    (walkSource library siblingSource >>=
      prepareEntries library siblingSource.root record policy) = .ok siblingPrepared := by
  decide +kernel

theorem sibling_minimizes :
    pruneMinimalRuntimeProfile policy siblingPrepared = .ok siblingMinimized := by
  have listed : (aliasCandidates policy siblingPrepared).toOption.map (·.entries) = some headers := by
    decide +kernel
  exact minimizes_of_candidates (by decide) (by decide) listed (by decide)

theorem sibling_scans : scanAndPlan library siblingSource record policy = .ok siblingScan := by
  obtain ⟨walked, walk, prepare⟩ := bind_eq_ok.mp sibling_prepares
  have finishes : finishEntries library record policy siblingMinimized = .ok siblingScan := by
    decide
  exact bind_eq_ok.mpr ⟨walked, walk, bind_eq_ok.mpr ⟨siblingPrepared, prepare,
    bind_eq_ok.mpr ⟨siblingMinimized, sibling_minimizes, finishes⟩⟩⟩

end Sample

/-- A file `include-x` sorts between `include` and `include/h`, and the headers, though
pruned as before, are listed one by one. -/
theorem interrupted_headers_not_compacted :
    scanAndPlan Sample.library Sample.siblingSource Sample.record Sample.policy =
        .ok Sample.siblingScan ∧
      isV2RuntimeRecord Sample.record = true ∧
      UniformlyPruned Sample.record Sample.siblingScan.entries
        (Sample.pruned (Sample.kept "Cellar/d/1/include" "d")) ∧
      ∃ manifest, buildPruneManifest Sample.digest Sample.siblingScan Sample.record Sample.policy
          "" = .ok manifest ∧
        manifest.covered "Cellar/d/1/include" = 0 ∧ manifest.named "Cellar/d/1/include" = 1 := by
  refine ⟨Sample.sibling_scans, by decide, ?_, ?_⟩
  · exact Sample.headers_uniform (by decide) (by decide)
  · exact ⟨{ Sample.manifest with
      subtrees := []
      entries := [buildPruneEntry Sample.record
          (Sample.pruned (Sample.kept "Cellar/d/1/include" "d")),
        buildPruneEntry Sample.record (Sample.pruned Sample.header)] },
      by decide +kernel, by decide +kernel, by decide +kernel⟩

end DalecHomebrew.RuntimeFS
