import DalecHomebrew.RuntimeFS.Gates

/-!
# Writable state

`planModesAndHardlinks` refuses links and executable files among the entries that the
runtime user may write.  It looks at the types that the walk found.  The names of one
inode are only then made hard links of each other, so that a second name of a writable
file is planned as a writable hard link.

The plan has no such entry exactly when no two regular files under writable rules of
`var` are names of one inode.
-/

namespace DalecHomebrew.RuntimeFS

open Foundation Foundation.GoString Foundation.GoPath
open Resolution (Node Record)

variable {entry after : SourceEntry} {source : Source} {scan : SourceScan}

/-! ## The property and its condition -/

/-- A planned entry that the runtime user may write is no link and no program. -/
def PlainState (scan : SourceScan) : Prop :=
  ∀ entry ∈ scan.retained, entry.writable = true →
    entry.typeName ≠ .symlink ∧ entry.typeName ≠ .hardlink ∧ ¬ (entry.typeName = .regular ∧
        (entry.mode.executable = true ∨ entry.desiredMode &&& 0o111 ≠ 0))

/-- A path below a writable rule of `var` that is not the package manager's. -/
def isWritablePath (policy : NormalizedPolicy) (path : String) : Bool :=
  firstSegment path = "var" ∧ forcedPrune path = none ∧
    (matchingRule path policy.allowlist.var.rules).any (·.writable) = true

/-- A regular file that the walk visits. -/
def VisitsRegular (source : Source) (file : SourceFile) : Prop :=
  .ok file ∈ source.walk ∧ ∃ content, file.kind = .regular content

/-- No two regular files under writable rules are names of one inode. -/
def UnsharedState (source : Source) (policy : NormalizedPolicy) : Prop :=
  ∀ first second, VisitsRegular source first → VisitsRegular source second →
    isWritablePath policy first.path = true → isWritablePath policy second.path = true →
    first.inode ≠ "" → first.inode = second.inode → first.path = second.path

section State

variable {library : HostLibrary} {policy : NormalizedPolicy} {record : Record}
  {walked : SourceEntry} {entries planned modes : List SourceEntry} {reason : PruneReason}

/-! ## Classification -/

theorem writable_of_classifyState (rules : List NormalizedRule) (entry : SourceEntry)
    (fresh : entry.writable = false) :
    (classifyState rules entry false).writable = false ∧
      (classifyState rules entry true).writable = (matchingRule entry.rel rules).any (·.writable) ∧
      ((classifyState rules entry true).writable = true →
        (classifyState rules entry true).retain = true) := by
  unfold classifyState
  cases matchingRule entry.rel rules with
  | none => simp [fresh]
  | some rule => simp

theorem writable_of_classifyPackage
    (classified : classifyCellar policy entry = .ok after ∨ classifyOpt policy entry = .ok after) :
    after.writable = entry.writable := by
  simp only [classifyCellar, classifyOpt, runtimeError] at classified
  rcases classified with classified | classified
  all_goals repeat' split at classified
  all_goals cases classified
  all_goals rfl

theorem writable_of_classifyRoot (fresh : entry.writable = false)
    (classified : classifyRoot policy entry = .ok after) :
    after.writable = decide (firstSegment entry.rel = "var" ∧
        (matchingRule entry.rel policy.allowlist.var.rules).any (·.writable) = true) ∧
      (after.writable = true → after.retain = true) := by
  have plain : firstSegment entry.rel ≠ "var" → after.writable = false →
      after.writable = decide (firstSegment entry.rel = "var" ∧
        (matchingRule entry.rel policy.allowlist.var.rules).any (·.writable) = true) ∧
      (after.writable = true → after.retain = true) := by
    intro outside sealed
    simp [outside, sealed]
  simp only [classifyRoot] at classified
  split at classified
  · rename_i root
    exact plain (by simp [root]) (by rw [writable_of_classifyPackage (.inl classified), fresh])
  split at classified
  · rename_i root
    exact plain (by simp [root]) (by rw [writable_of_classifyPackage (.inr classified), fresh])
  split at classified
  · rename_i root
    cases classified
    refine plain (fun state => ?_) fresh
    rw [state] at root
    exact absurd root (by decide)
  split at classified
  · rename_i root
    cases classified
    exact plain (by simp [root])
      (writable_of_classifyState policy.allowlist.etc.rules entry fresh).1
  split at classified
  · rename_i root
    cases classified
    obtain ⟨-, writes, keeps⟩ := writable_of_classifyState policy.allowlist.var.rules entry fresh
    exact ⟨by simp [writes, root], keeps⟩
  · rename_i root
    cases classified
    exact plain root fresh

/-- The path alone decides whether an entry is writable, and a writable entry is
retained. -/
theorem writable_of_classifyRetention (fresh : entry.writable = false)
    (classified : classifyRetention library.toPolicyLibrary policy entry = .ok after) :
    after.writable = isWritablePath policy entry.rel ∧
      (after.writable = true → after.retain = true) := by
  unfold classifyRetention at classified
  split at classified
  · rename_i loader
    have outside : isWritablePath policy entry.rel = false := by
      rw [loader, isWritablePath, decide_eq_false]
      rintro ⟨state, -⟩
      exact absurd state (by decide)
    have sealed : after.writable = false := by
      rcases classifyLoader_cases classified with rfl | rfl
      · exact fresh
      · exact fresh
    simp [outside, sealed]
  · split at classified
    · rename_i forced
      cases classified
      simp [isWritablePath, forced, fresh]
    rename_i free
    obtain ⟨rooted, root, finished⟩ := bind_eq_ok.mp classified
    obtain ⟨writes, keeps⟩ := writable_of_classifyRoot fresh root
    simp only [pure_eq_ok] at finished
    subst finished
    split
    · exact ⟨by simp [writes, isWritablePath, free], keeps⟩
    · rename_i dropped
      have sealed : rooted.writable = false := by
        rw [← Bool.not_eq_true]
        exact fun wrote => dropped (keeps wrote)
      exact ⟨by simp [writes, isWritablePath, free], by simp [sealed]⟩

/-! ## The walk -/

theorem mem_of_visitsRegular {file : SourceFile}
    (walked : walkSource library source = .ok entries) (visits : VisitsRegular source file) :
    ∃ entry ∈ entries, entry.rel = file.path ∧ entry.inode = file.inode ∧
      entry.typeName = .regular := by
  obtain ⟨visited, paired, -, rfl⟩ := visits_of_walkSource walked
  obtain ⟨entry, member, found, same, scanned⟩ := exists_right_of_forall₂ paired visits.1
  cases same
  obtain ⟨-, path, inode, regular⟩ := scanned_of_scanFile scanned
  exact ⟨entry, mem_sortByKey.mpr member, path, inode, regular.mpr visits.2⟩

theorem visitsRegular_of_mem
    (walked : walkSource library source = .ok entries) (member : entry ∈ entries)
    (regular : entry.typeName = .regular) :
    ∃ file, VisitsRegular source file ∧ file.path = entry.rel ∧ file.inode = entry.inode := by
  obtain ⟨visited, paired, -, rfl⟩ := visits_of_walkSource walked
  obtain ⟨_, among, file, rfl, scanned⟩ :=
    exists_left_of_forall₂ paired (mem_sortByKey.mp member)
  obtain ⟨-, path, inode, kind⟩ := scanned_of_scanFile scanned
  exact ⟨file, ⟨among, kind.mp regular⟩, path.symm, inode.symm⟩

/-! ## From the walk to the plan -/

/-- What the passes before the plan keep of an entry of the walk. -/
structure Carries (policy : NormalizedPolicy) (walked entry : SourceEntry) : Prop where
  rel : entry.rel = walked.rel
  inode : entry.inode = walked.inode
  typeName : entry.typeName = walked.typeName
  writable : entry.writable = isWritablePath policy walked.rel
  retain : entry.typeName = .regular → entry.writable = true → entry.retain = true

theorem Carries.linked {sourceRoot : String} (carries : Carries policy walked entry)
    (linked : normalizeLink library sourceRoot policy entry = .ok after) :
    Carries policy walked after := by
  by_cases symlink : entry.typeName = .symlink
  · obtain ⟨_, _, _, _, rfl, _⟩ := normalizeLink_shape linked
    exact ⟨carries.rel, carries.inode, carries.typeName, carries.writable,
      fun regular => absurd (regular.symm.trans symlink) (by decide)⟩
  · rw [normalizeLink, if_pos (.inl symlink)] at linked
    cases linked
    exact carries

theorem Carries.attributed (carries : Carries policy walked entry)
    (attributes : Attributes (attributeKegEntry policy entry) after) :
    Carries policy walked after := by
  obtain ⟨_, rfl, _⟩ := attributes
  obtain ⟨_, shape⟩ := attributeKegEntry_shape policy entry
  rw [shape]
  exact ⟨carries.rel, carries.inode, carries.typeName, carries.writable, carries.retain⟩

theorem Carries.tooled (carries : Carries policy walked entry) :
    Carries policy walked (pruneOptionalLink library.toPolicyLibrary policy entry) := by
  by_cases symlink : entry.typeName = .symlink
  · obtain ⟨_, _, shape, _⟩ := pruneOptionalLink_shape library.toPolicyLibrary policy entry
    rw [shape]
    exact ⟨carries.rel, carries.inode, carries.typeName, carries.writable,
      fun regular => absurd (regular.symm.trans symlink) (by decide)⟩
  · have unchanged : pruneOptionalLink library.toPolicyLibrary policy entry = entry := by
      simp [pruneOptionalLink, symlink]
    rw [unchanged]
    exact carries

/-! ## The minimal profile leaves state alone -/

theorem firstSegment_of_cellarKegSubpath {rel sub : String}
    (inside : cellarKegSubpath rel = some sub) : firstSegment rel = "Cellar" := by
  by_cases cellar : (splitChar rel '/').head? = some "Cellar"
  · rw [firstSegment, List.headD_eq_head?_getD, cellar]
    rfl
  · simp [cellarKegSubpath, cellar] at inside

/-- The roots below which aliases are removed. -/
def aliasRoots : List String := ["include", "lib", "share", "Cellar"]

/-- Aliases are removed below these roots only. -/
theorem firstSegment_of_aliasPath {rel package : String}
    (allowed : minimalRuntimeAliasPath rel reason package policy = true) :
    firstSegment rel ∈ aliasRoots := by
  rcases aliasPath_cases allowed with outer | ⟨sub, found, -⟩
  · exact List.mem_append_left ["Cellar"] outer
  · exact firstSegment_of_cellarKegSubpath found ▸ by decide

theorem Removable.outside_state (removable : Removable policy entries reason entry) :
    firstSegment entry.rel ≠ "var" := by
  have apart : ∀ root ∈ aliasRoots, root ≠ "var" := by decide
  cases removable with
  | ofClass inClass =>
    obtain ⟨located, -⟩ := minimalRuntimePathClass_eq_some inClass
    obtain ⟨_, _, _, _, components, _⟩ := kegLocation_eq_some located
    exact apart _ (by rw [firstSegment, components]; simp [aliasRoots])
  | copy _ _ _ _ _ path _ | link _ _ _ _ path _ => exact apart _ (firstSegment_of_aliasPath path)

theorem carries_of_stages (stages : Stages library source record policy scan) :
    List.Forall₂ (Carries policy) stages.walked stages.minimized := by
  obtain ⟨candidates, sound, minimized⟩ := minimized_eq stages
  have fresh : ∀ entry ∈ stages.walked, entry.writable = false :=
    fun entry member => ((scanned_of_walkSource stages.walk).1 entry member).writable
  have classified : List.Forall₂ (Carries policy) stages.walked stages.classified := by
    refine forall₂_imp_of_mem stages.classify fun entry member after made => ?_
    obtain ⟨writable, retain⟩ := writable_of_classifyRetention (fresh entry member) made
    obtain ⟨_, _, _, _, _, _, rfl, _⟩ := classifyRetention_shape made
    exact ⟨rfl, rfl, rfl, writable, fun _ => retain⟩
  have linked : List.Forall₂ (Carries policy) stages.walked stages.linked :=
    forall₂_trans (fun _ _ _ carries made => carries.linked made) classified
      (normalizeLinks_forall₂ stages.link)
  have attributed : List.Forall₂ (Carries policy) stages.walked stages.attributed :=
    forall₂_trans (fun _ _ _ carries made => carries.attributed made) linked
      (attributeEntries_forall₂ stages.attribution)
  have tooled : List.Forall₂ (Carries policy) stages.walked stages.tooled := by
    rw [Stages.tooled, pruneOptionalDependencyTooling, List.forall₂_map_right_iff]
    exact attributed.imp fun _ _ => Carries.tooled
  rw [minimized, List.forall₂_map_right_iff]
  refine tooled.imp fun walked entry carries => ?_
  unfold pruneCandidate
  split
  · rename_i reason candidate
    obtain ⟨other, found, -, gated⟩ := sound entry.rel reason candidate
    refine ⟨carries.rel, carries.inode, carries.typeName, carries.writable, fun _ writes => ?_⟩
    have state : isWritablePath policy walked.rel = true := carries.writable.symm.trans writes
    rw [isWritablePath, decide_eq_true_eq, ← carries.rel, ← rel_of_byPath found] at state
    exact absurd state.1 gated.removable.outside_state
  · exact carries

/-! ## The plan -/

/-- What `planMode` lets pass at a writable path. -/
theorem plain_of_planMode (planned : planMode record entry = .ok after)
    (retained : entry.retain = true) (writes : entry.writable = true) :
    after.typeName ≠ .symlink ∧ after.typeName ≠ .hardlink ∧ ¬ (after.typeName = .regular ∧
        (after.mode.executable = true ∨ after.desiredMode &&& 0o111 ≠ 0)) := by
  simp only [planMode, retained, Bool.true_eq_false, if_false, runtimeError, ite_error_eq_ok,
    writes, true_and, not_or, not_and, Bool.not_eq_true, if_true] at planned
  obtain ⟨⟨symlink, hardlink, program⟩, rfl⟩ := And.imp_right Except.ok.inj planned
  refine ⟨symlink, hardlink, ?_⟩
  rintro ⟨regular, executable | bits⟩
  · rw [program regular] at executable
    cases executable
  · have type : entry.typeName = .regular := regular
    exact bits (by simp [desiredMode, type, program type])

theorem hardlink_of_planHardlink {first : SourceEntry}
    (linked : planHardlink planned entry = .ok after) (inode : entry.inode ≠ "")
    (names : namesInode entry.inode entry = true)
    (found : planned.find? (namesInode entry.inode) = some first) (other : first.rel ≠ entry.rel) :
    after.typeName = .hardlink ∧ after.retain = entry.retain ∧ after.writable = entry.writable := by
  simp only [planHardlink, inode, names, found, other, Bool.true_eq_false, or_self, if_false,
    runtimeError, ite_error_eq_ok] at linked
  obtain rfl := Except.ok.inj linked.2.2
  exact ⟨rfl, rfl, rfl⟩

/-- What the first loop of the plan makes of the entries. -/
def Moded (record : Record) : List SourceEntry → List SourceEntry → Prop :=
  List.Forall₂ fun entry mode => planMode record entry = .ok mode

/-- What becomes of the entries in the second loop. -/
def Hardlinked (modes entries : List SourceEntry) : Prop :=
  List.Forall₂ (fun mode entry => ∃ linked, planHardlink modes mode = .ok linked ∧
    (linked.retain = true → entry = linked) ∧ entry.retain = linked.retain) modes entries

theorem modes_of_stages (stages : Stages library source record policy scan) :
    ∃ modes, Moded record stages.minimized modes ∧ Hardlinked modes scan.entries := by
  have plan := stages.plan
  simp only [planModesAndHardlinks, bind_eq_ok] at plan
  obtain ⟨modes, moded, hardlinked⟩ := plan
  have collect := stages.collect
  simp only [collectMetadataExports, bind_eq_ok, pure_eq_ok, Prod.mk.injEq] at collect
  obtain ⟨exported, each, entries, -⟩ := collect
  refine ⟨modes, mapM_eq_ok.mp moded, ?_⟩
  rw [Hardlinked, ← entries, List.forall₂_map_right_iff]
  refine forall₂_trans (fun mode linked entry made exports => ?_) (mapM_eq_ok.mp hardlinked)
    (mapM_eq_ok.mp each)
  obtain ⟨⟨_, same, _⟩, kept⟩ := exportEntry_shape exports
  exact ⟨linked, made, kept, by rw [same]⟩

section

variable (stages : Stages library source record policy scan)
  (moded : Moded record stages.minimized modes)

include stages moded

/-- A writable regular file of the source, as the second loop of the plan finds it. -/
theorem mode_of_visitsRegular {file : SourceFile} (visits : VisitsRegular source file)
    (state : isWritablePath policy file.path = true) :
    ∃ mode ∈ modes, mode.rel = file.path ∧ mode.inode = file.inode ∧ mode.retain = true ∧
      mode.writable = true ∧ mode.typeName = .regular := by
  obtain ⟨walked, among, path, inode, regular⟩ := mem_of_visitsRegular stages.walk visits
  obtain ⟨entry, member, carries⟩ := exists_right_of_forall₂ (carries_of_stages stages) among
  obtain ⟨mode, placed, made⟩ := exists_right_of_forall₂ moded member
  obtain ⟨_, _, _, _, rfl⟩ := planMode_shape made
  have writes : entry.writable = true := by rw [carries.writable, path, state]
  exact ⟨_, placed, carries.rel.trans path, carries.inode.trans inode,
    carries.retain (carries.typeName.trans regular) writes, writes,
    carries.typeName.trans regular⟩

theorem visitsRegular_of_mode
    {mode : SourceEntry} (placed : mode ∈ modes) (regular : mode.typeName = .regular)
    (writes : mode.writable = true) :
    ∃ file, VisitsRegular source file ∧ file.path = mode.rel ∧ file.inode = mode.inode ∧
      isWritablePath policy file.path = true := by
  obtain ⟨entry, member, made⟩ := exists_left_of_forall₂ moded placed
  obtain ⟨_, _, _, _, rfl⟩ := planMode_shape made
  obtain ⟨walked, among, carries⟩ := exists_left_of_forall₂ (carries_of_stages stages) member
  obtain ⟨file, visits, path, inode⟩ :=
    visitsRegular_of_mem stages.walk among (carries.typeName.symm.trans regular)
  refine ⟨file, visits, path.trans carries.rel.symm, inode.trans carries.inode.symm, ?_⟩
  rw [path, ← carries.writable]
  exact writes

end

/-- The second of two names of one inode is planned as a hard link. -/
theorem exists_hardlink (planned : Hardlinked modes scan.entries) {first second : SourceEntry}
    (placed : first ∈ modes) (also : second ∈ modes) (linkable : first.inode ≠ "")
    (names : namesInode first.inode first = true) (shares : namesInode first.inode second = true)
    (different : first.rel ≠ second.rel) :
    ∃ entry ∈ scan.retained, entry.typeName = .hardlink ∧
      (entry.writable = first.writable ∨ entry.writable = second.writable) := by
  have same : second.inode = first.inode := by
    simp only [namesInode, decide_eq_true_eq] at shares
    exact shares.2.2
  have retained : ∀ mode, namesInode first.inode mode = true → mode.retain = true := by
    intro mode named
    simp only [namesInode, decide_eq_true_eq] at named
    exact named.1
  obtain ⟨head, found⟩ : ∃ head, modes.find? (namesInode first.inode) = some head :=
    Option.isSome_iff_exists.mp (List.find?_isSome.mpr ⟨first, placed, names⟩)
  -- whichever of the two is not the first name becomes the link
  have link : ∀ mode ∈ modes, mode.inode = first.inode → namesInode first.inode mode = true →
      head.rel ≠ mode.rel → ∃ entry ∈ scan.retained, entry.typeName = .hardlink ∧
        entry.writable = mode.writable := by
    intro mode member inode named other
    obtain ⟨entry, final, linked, made, kept, retains⟩ := exists_right_of_forall₂ planned member
    rw [← inode] at named found linkable
    obtain ⟨type, keeps, writes⟩ := hardlink_of_planHardlink made linkable named found other
    have stays : linked.retain = true := keeps.trans (retained mode (inode ▸ named))
    obtain rfl := kept stays
    exact ⟨entry, List.mem_filter.mpr ⟨final, stays⟩, type, writes⟩
  by_cases here : head.rel = first.rel
  · obtain ⟨entry, final, type, writes⟩ :=
      link second also same shares fun there => different (here.symm.trans there)
    exact ⟨entry, final, type, .inr writes⟩
  · obtain ⟨entry, final, type, writes⟩ := link first placed rfl names here
    exact ⟨entry, final, type, .inl writes⟩

/--
The plan of a successful scan has no link and no program among the writable entries
exactly when no two regular files under writable rules share an inode.
-/
theorem plain_state_iff {source : Source} {scan : SourceScan}
    (scanned : scanAndPlan library source record policy = .ok scan) :
    PlainState scan ↔ UnsharedState source policy := by
  obtain ⟨stages⟩ := nonempty_stages scanned
  obtain ⟨modes, moded, planned⟩ := modes_of_stages stages
  constructor
  · intro plain first second visits also state other some same
    by_contra different
    obtain ⟨mode, placed, path, inode, keeps, writes, regular⟩ :=
      mode_of_visitsRegular stages moded visits state
    obtain ⟨twin, there, place, shared, kept, wrote, file⟩ :=
      mode_of_visitsRegular stages moded also other
    obtain ⟨entry, final, hardlink, written⟩ := exists_hardlink planned placed there
      (by rwa [inode]) (by simp [namesInode, keeps, regular])
      (by simp [namesInode, kept, file, inode, shared, same]) (by rwa [path, place])
    have writable : entry.writable = true := by
      rcases written with as | as
      · exact as.trans writes
      · exact as.trans wrote
    exact (plain entry final writable).2.1 hardlink
  · intro unshared entry member writes
    obtain ⟨final, keeps⟩ := List.mem_filter.mp member
    obtain ⟨mode, placed, linked, made, kept, retains⟩ := exists_left_of_forall₂ planned final
    obtain rfl := kept (retains.symm.trans keeps)
    rcases planHardlink_cases made with
      rfl | ⟨some, names, first, among, shares, other, wrote, rfl⟩
    · obtain ⟨minimized, before, plans⟩ := exists_left_of_forall₂ moded placed
      have shape := planMode_shape plans
      obtain ⟨_, _, _, _, same⟩ := shape
      rw [same] at keeps writes
      exact plain_of_planMode plans keeps writes
    · have written : mode.writable = true := writes
      simp only [namesInode, decide_eq_true_eq] at names shares
      obtain ⟨file, visits, path, inode, state⟩ :=
        visitsRegular_of_mode stages moded placed names.2.1 written
      obtain ⟨twin, also, place, shared, twinState⟩ :=
        visitsRegular_of_mode stages moded among shares.2.1 (wrote.trans written)
      have same := unshared file twin visits also state twinState (by rwa [inode])
        (by rw [inode, shared, shares.2.2])
      exact absurd (by rw [← path, ← place, same]) other

end State

namespace Sample

/-- The policy of the sample scan without the minimal profile. -/
def wholePolicy : NormalizedPolicy :=
  { policy with allowlist := { policy.allowlist with pruningProfile := "" } }

/-- Two files below the writable rule `var/d`, the second of which has the given inode. -/
def stateSource (inode : String) : Source where
  root := "/s"
  walk :=
    [directory "Cellar", directory "Cellar/d", directory "Cellar/d/1", directory "opt",
      symlink "opt/d" "../Cellar/d/1", directory "var", directory "var/d",
      (file "var/d/a").map ({ · with inode := "1" }), (file "var/d/b").map ({ · with inode })]

/-- Whether a scan plans a writable entry of a type. -/
def plansWritable (typeName : EntryType) (scan : SourceScan) : Bool :=
  scan.retained.any fun entry => entry.writable = true ∧ entry.typeName = typeName

theorem exists_writable {source : Source} {typeName : EntryType}
    (planned : (scanAndPlan library source record wholePolicy).toOption.any
      (plansWritable typeName) = true) :
    ∃ scan, scanAndPlan library source record wholePolicy = .ok scan ∧
      ∃ entry ∈ scan.retained, entry.writable = true ∧ entry.typeName = typeName := by
  cases scanned : scanAndPlan library source record wholePolicy with
  | error failure =>
    rw [scanned] at planned
    cases planned
  | ok scan =>
    rw [scanned] at planned
    obtain ⟨entry, member, found⟩ := List.any_eq_true.mp planned
    exact ⟨scan, rfl, entry, member, of_decide_eq_true found⟩

theorem unsharedState_two : UnsharedState (stateSource "2") wholePolicy := by
  have apart : ∀ first ∈ (stateSource "2").walk, ∀ second ∈ (stateSource "2").walk,
      first.toOption.all fun one => second.toOption.all fun two =>
        one.inode = "" ∨ one.inode ≠ two.inode ∨ one.path = two.path := by decide
  intro first second visits also _ _ some same
  rw [same] at some
  simpa [Except.toOption, some, same] using apart _ visits.1 _ also.1

end Sample

/-- Writable regular files with inodes of their own are planned as such. -/
theorem plain_state_sample :
    ∃ scan, scanAndPlan Sample.library (Sample.stateSource "2") Sample.record Sample.wholePolicy =
        .ok scan ∧
      (∃ entry ∈ scan.retained, entry.writable = true ∧ entry.typeName = .regular) ∧
      PlainState scan := by
  obtain ⟨scan, scanned, written⟩ := @Sample.exists_writable (Sample.stateSource "2") .regular
    (by decide +kernel)
  exact ⟨scan, scanned, written, (plain_state_iff scanned).mpr Sample.unsharedState_two⟩

/-- A successful scan that plans a writable hard link. -/
theorem writable_hardlink_planned :
    ∃ scan, scanAndPlan Sample.library (Sample.stateSource "1") Sample.record Sample.wholePolicy =
        .ok scan ∧
      ∃ entry ∈ scan.retained, entry.writable = true ∧ entry.typeName = .hardlink :=
  Sample.exists_writable (by decide +kernel)

end DalecHomebrew.RuntimeFS
