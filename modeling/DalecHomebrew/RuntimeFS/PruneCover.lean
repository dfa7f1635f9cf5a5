import DalecHomebrew.Foundation.Selection
import DalecHomebrew.RuntimeFS.Gates
import DalecHomebrew.RuntimeFS.PruneManifest

/-!
# What the prune manifest covers

A subtree is committed for a block of the sorted entries.  A block of at least two
entries is everything below its root, so that subtrees are disjoint and complete and
the manifest names every pruned path exactly once.  The other way round fails: a
sibling whose name continues the name of a directory with a character in front of the
slash sorts between the directory and what is below it, and the directory alone is no
block.
-/

namespace DalecHomebrew.RuntimeFS

open Foundation Foundation.GoString Foundation.Selection
open Resolution (Node Record)

variable {path : String} {entry : SourceEntry}

/-! ## Paths below a root -/

variable {path root middle high : String}

theorem isWithin_iff :
    isWithin path root = true ↔ path = root ∨ hasPrefix path (root ++ "/") = true := by
  simp [isWithin]

@[simp]
theorem isWithin_refl (path : String) : isWithin path path = true :=
  isWithin_iff.mpr (.inl rfl)

/-- A path is below a root when the root is followed by a slash or by nothing. -/
theorem isWithin_iff_toList : isWithin path root = true ↔
      path.toList = root.toList ∨ root.toList ++ ['/'] <+: path.toList := by
  rw [isWithin_iff, hasPrefix, List.isPrefixOf_iff_prefix, String.toList_append, String.toList_inj]
  rfl

theorem isWithin_trans (inner : isWithin path middle = true) (outer : isWithin middle root = true) :
    isWithin path root = true := by
  rw [isWithin_iff_toList] at *
  rcases inner with same | below
  · rwa [same]
  · rcases outer with same | above
    · exact .inr (same ▸ below)
    · exact .inr (above.trans ((List.prefix_append _ _).trans below))

theorem isPrefix_of_isWithin (within : isWithin path root = true) :
    root.toList <+: path.toList := by
  rcases isWithin_iff_toList.mp within with same | below
  · exact same ▸ List.prefix_refl _
  · exact (List.prefix_append _ _).trans below

/-- A root that begins another root of the same path is above it. -/
theorem isWithin_of_isPrefix {inner outer : String} (begins : outer.toList <+: inner.toList)
    (belowInner : isWithin path inner = true) (belowOuter : isWithin path outer = true) :
    isWithin inner outer = true := by
  have innerBegins := isPrefix_of_isWithin belowInner
  rw [isWithin_iff_toList] at belowOuter ⊢
  obtain ⟨rest, continued⟩ := begins
  cases rest with
  | nil => exact .inl (by rw [← continued, List.append_nil])
  | cons head tail =>
    rw [← continued] at innerBegins ⊢
    refine .inr ((List.prefix_append_right_inj _).mpr ?_)
    rcases belowOuter with same | below
    · exact absurd innerBegins.length_le (by rw [same]; simp)
    · obtain ⟨remainder, whole⟩ := below
      rw [← whole, List.append_assoc, List.prefix_append_right_inj] at innerBegins
      obtain ⟨rfl, _⟩ := List.cons_prefix_cons.mp innerBegins
      exact ⟨tail, rfl⟩

/-- Two roots of one path lie one below the other. -/
theorem isWithin_or_isWithin {left right : String} (belowLeft : isWithin path left = true)
    (belowRight : isWithin path right = true) :
    isWithin left right = true ∨ isWithin right left = true := by
  rcases List.prefix_or_prefix_of_prefix (isPrefix_of_isWithin belowLeft)
    (isPrefix_of_isWithin belowRight) with begins | begins
  · exact .inr (isWithin_of_isPrefix begins belowRight belowLeft)
  · exact .inl (isWithin_of_isPrefix begins belowLeft belowRight)

/-- What lies properly below a root is an interval of the sorted paths. -/
theorem isWithin_of_between {low : String} (properly : root < low)
    (above : low ≤ middle) (below : middle ≤ high) (lowWithin : isWithin low root = true)
    (highWithin : isWithin high root = true) :
    isWithin middle root = true := by
  have begins : ∀ path, root < path → isWithin path root = true →
      hasPrefix path (root ++ "/") = true := fun path later within =>
    (isWithin_iff.mp within).resolve_left later.ne'
  exact isWithin_iff.mpr (.inr (Lexicographic.hasPrefix_of_between (begins low properly lowWithin)
    (begins high (properly.trans_le (above.trans below)) highWithin) above below))

/-- A sibling that sorts between a directory and what is below it. -/
def interrupts (path root : String) : Bool :=
  hasPrefix path root = true ∧ ((path.toList.drop root.toList.length).head?.any (· < '/')) = true

theorem interrupts_iff : interrupts path root = true ↔
      ∃ head tail, path.toList = root.toList ++ head :: tail ∧ head < '/' := by
  simp only [interrupts, hasPrefix, List.isPrefixOf_iff_prefix, decide_eq_true_eq]
  constructor
  · rintro ⟨⟨rest, whole⟩, before⟩
    rw [← whole, List.drop_left] at before
    cases rest with
    | nil => simp at before
    | cons head tail => exact ⟨head, tail, whole.symm, by simpa using before⟩
  · rintro ⟨head, tail, whole, before⟩
    refine ⟨⟨head :: tail, whole.symm⟩, ?_⟩
    rw [whole, List.drop_left]
    simpa using before

/-- What sorts between a root and a path properly below it, and is not below it itself,
interrupts the block of the root. -/
theorem interrupts_of_between (later : root < middle)
    (below : middle ≤ high) (outside : isWithin middle root = false)
    (within : isWithin high root = true) :
    interrupts middle root = true := by
  have highBegins : root.toList ++ ['/'] <+: high.toList :=
    (isWithin_iff_toList.mp within).resolve_left fun same =>
      absurd (String.toList_inj.mp same) (later.trans_le below).ne'
  have begins : root.toList <+: middle.toList :=
    Lexicographic.isPrefix_of_between (List.prefix_refl _)
      ((List.prefix_append _ _).trans highBegins)
      (String.le_iff_toList_le.mp later.le) (String.le_iff_toList_le.mp below)
  obtain ⟨rest, whole⟩ := begins
  obtain ⟨remainder, highWhole⟩ := highBegins
  cases rest with
  | nil =>
    rw [List.append_nil, String.toList_inj] at whole
    exact absurd whole later.ne
  | cons head tail =>
    refine interrupts_iff.mpr ⟨head, tail, whole.symm, ?_⟩
    have ordered : head :: tail ≤ '/' :: remainder := by
      have := String.le_iff_toList_le.mp below
      rw [← whole, ← highWhole, List.append_assoc] at this
      exact Lexicographic.append_le_append.mp this
    rcases Lexicographic.cons_le_cons.mp ordered with before | ⟨same, _⟩
    · exact before
    · subst same
      have : isWithin middle root = true :=
        isWithin_iff_toList.mpr (.inr ⟨tail, by rw [← whole]; simp⟩)
      rw [outside] at this
      cases this

/-- An interrupting sibling sorts in front of everything properly below the root. -/
theorem lt_of_interrupts (between : interrupts middle root = true)
    (properly : root ≠ high) (within : isWithin high root = true) :
    root < middle ∧ middle < high := by
  obtain ⟨head, tail, whole, before⟩ := interrupts_iff.mp between
  obtain ⟨remainder, highWhole⟩ := (isWithin_iff_toList.mp within).resolve_left fun same =>
    properly (String.toList_inj.mp same).symm
  constructor
  · refine lt_of_le_of_ne ?_ fun same => ?_
    · rw [String.le_iff_toList_le, whole]
      exact Lexicographic.le_of_isPrefix (List.prefix_append _ _)
    · rw [← same] at whole
      simp at whole
  · rw [String.lt_iff_toList_lt, whole, ← highWhole, List.append_assoc, ← not_le,
      Lexicographic.append_le_append, List.singleton_append, Lexicographic.cons_le_cons]
    rintro (after | ⟨same, _⟩)
    · exact lt_asymm before after
    · exact before.ne same.symm

/-! ## Blocks of the sorted entries -/

/-- The order of the scanned entries. -/
abbrev Ordered (entries : List SourceEntry) : Prop :=
  entries.Pairwise fun left right => left.rel < right.rel

/-- Whether an entry lies below the root of a subtree. -/
def below (entry root : SourceEntry) : Bool := isWithin entry.rel root.rel

/-- The entries at or below a path. -/
def inside (entries : List SourceEntry) (root : String) : List SourceEntry :=
  entries.filter fun entry => isWithin entry.rel root

theorem mem_inside {entries : List SourceEntry} :
    entry ∈ inside entries root ↔ entry ∈ entries ∧ isWithin entry.rel root = true := by
  simp [inside]

section Block

variable {before rest : List SourceEntry} {root : SourceEntry}

theorem lt_of_ordered (ordered : Ordered (before ++ root :: rest)) :
    (∀ entry ∈ before, entry.rel < root.rel) ∧ ∀ entry ∈ rest, root.rel < entry.rel := by
  obtain ⟨_, later, across⟩ := List.pairwise_append.mp ordered
  exact ⟨fun entry member => across entry member root List.mem_cons_self,
    (List.pairwise_cons.mp later).1⟩

theorem ordered_rest (ordered : Ordered (before ++ root :: rest)) : Ordered rest :=
  (List.pairwise_cons.mp (List.pairwise_append.mp ordered).2.1).2

/-- A block of two entries begins with an entry below the root. -/
theorem head_below (two : 2 ≤ (block root rest).length) :
    ∀ entry ∈ rest.head?, below entry root = true := by
  intro entry first
  cases rest with
  | nil => simp at first
  | cons head tail =>
    simp only [List.head?_cons, Option.mem_some_iff] at first
    subst first
    by_contra outside
    rw [block, List.takeWhile_cons_of_neg (by simpa [below] using outside)] at two
    simp at two

section

variable (ordered : Ordered (before ++ root :: rest))

include ordered

/-- Nothing behind a block of two entries lies below its root. -/
theorem not_below_of_behind (two : 2 ≤ (block root rest).length)
    (behind : entry ∈ rest.dropWhile fun entry => below entry root) :
    below entry root = false := by
  have sorted : rest.Pairwise fun left right => root.rel < left.rel ∧ left.rel < right.rel :=
    (ordered_rest ordered).imp_of_mem fun member _ less =>
      ⟨(lt_of_ordered ordered).2 _ member, less⟩
  refine not_of_mem_dropWhile sorted ?_ (head_below two) behind
  intro low middle high first second lowBelow highBelow
  exact isWithin_of_between first.1 first.2.le second.2.le lowBelow highBelow

/-- A block of two entries is everything below its root. -/
theorem block_eq_inside (two : 2 ≤ (block root rest).length) :
    block root rest = inside (before ++ root :: rest) root.rel := by
  have front : before.filter (fun entry => isWithin entry.rel root.rel) = [] := by
    rw [List.filter_eq_nil_iff]
    intro entry member within
    exact absurd (le_of_isWithin within) (not_le_of_gt ((lt_of_ordered ordered).1 entry member))
  have following : rest.filter (fun entry => isWithin entry.rel root.rel) =
      rest.takeWhile fun entry => isWithin entry.rel root.rel := by
    conv_lhs => rw [← List.takeWhile_append_dropWhile (l := rest)
      (p := fun entry => isWithin entry.rel root.rel)]
    rw [List.filter_append]
    have stays := List.filter_eq_self.mpr fun entry member =>
      List.mem_takeWhile_imp (p := fun entry : SourceEntry => isWithin entry.rel root.rel)
        (l := rest) member
    have empty := List.filter_eq_nil_iff.mpr fun entry member =>
      (Bool.eq_false_iff.mp (not_below_of_behind ordered two member) : ¬ _)
    rw [stays]
    exact (congrArg _ empty).trans (List.append_nil _)
  simp only [inside, List.filter_append, front, List.filter_cons, isWithin_refl, if_true, following,
    List.nil_append, block]

/-- A root has a block exactly when something is below it and nothing interrupts. -/
theorem two_le_block_iff :
    2 ≤ (block root rest).length ↔
      (∃ entry ∈ before ++ root :: rest, entry.rel ≠ root.rel ∧ below entry root = true) ∧
        ∀ entry ∈ before ++ root :: rest, interrupts entry.rel root.rel = false := by
  obtain ⟨earlier, later⟩ := lt_of_ordered ordered
  constructor
  · intro two
    cases rest with
    | nil => simp [block] at two
    | cons head tail =>
      have within : below head root = true := head_below two head rfl
      have above : root.rel < head.rel := later head List.mem_cons_self
      refine ⟨⟨head, by simp, above.ne', within⟩, fun entry member => ?_⟩
      by_contra interrupting
      rw [Bool.not_eq_false] at interrupting
      obtain ⟨afterRoot, beforeHead⟩ := lt_of_interrupts interrupting above.ne within
      rcases List.mem_append.mp member with front | following
      · exact lt_asymm afterRoot (earlier entry front)
      · rcases List.mem_cons.mp following with rfl | among
        · exact lt_irrefl _ afterRoot
        · rcases List.mem_cons.mp among with rfl | deeper
          · exact lt_irrefl _ beforeHead
          · exact lt_asymm beforeHead
              ((List.pairwise_cons.mp (ordered_rest ordered)).1 entry deeper)
  · rintro ⟨⟨entry, member, other, within⟩, uninterrupted⟩
    have among : entry ∈ rest := by
      rcases List.mem_append.mp member with front | following
      · exact absurd (le_of_isWithin within) (not_le_of_gt (earlier entry front))
      · exact (List.mem_cons.mp following).resolve_left fun same => other (same ▸ rfl)
    cases rest with
    | nil => cases among
    | cons head tail =>
      have first : isWithin head.rel root.rel = true := by
        by_contra outside
        rw [Bool.not_eq_true] at outside
        have reaches : head.rel ≤ entry.rel := by
          rcases List.mem_cons.mp among with rfl | deeper
          · exact le_refl _
          · exact ((List.pairwise_cons.mp (ordered_rest ordered)).1 entry deeper).le
        have found := interrupts_of_between (later head List.mem_cons_self) reaches outside within
        rw [uninterrupted head (by simp)] at found
        cases found
      rw [block, List.takeWhile_cons_of_pos (by simpa using first)]
      simp

end

end Block

/-! ## Committed subtrees -/

section Commit

variable {digest : SubtreeCommitment → Except String String} {root package formulaID : String}
  {reason : PruneReason} {entries : List SourceEntry} {subtree : PruneSubtree} {record : Record}
  {already : List String}

theorem path_of_commitmentEntry {root : String} {item : CommitmentEntry}
    (made : commitmentEntry root entry = .ok item) : item.path = entry.rel := by
  simp only [commitmentEntry] at made
  split at made
  · cases made
  · split at made <;> (try split at made) <;> cases made <;> rfl

/-- What a subtree says about the entries that it stands for. -/
structure Commits (digest : SubtreeCommitment → Except String String) (entries : List SourceEntry)
    (subtree : PruneSubtree) where
  items : List CommitmentEntry
  itemized : List.Forall₂ (fun entry item => commitmentEntry subtree.path entry = .ok item)
    entries items
  counted : subtree.entryCount = entries.length
  digested : digest
    { schema := subtree.commitmentSchema
      root := subtree.path
      reason := subtree.reason
      package := subtree.package
      formulaID := subtree.formulaID
      entryCount := subtree.entryCount
      regularBytes := subtree.regularBytes
      entries := sortByKey (·.path) items } = .ok subtree.commitmentDigest

/-- A subtree that commits to the entries of a root. -/
def IsCommitment (digest : SubtreeCommitment → Except String String) (entries : List SourceEntry)
    (root : String) (reason : PruneReason) (package : String) (subtree : PruneSubtree) : Prop :=
  Nonempty (Commits digest entries subtree) ∧ subtree.path = root ∧ subtree.reason = reason ∧
    subtree.package = package

theorem commitPrunedSubtreeVersion_eq_ok {schema : CommitmentSchema}
    (made : commitPrunedSubtreeVersion digest schema root reason package formulaID entries =
      .ok subtree) :
    IsCommitment digest entries root reason package subtree := by
  simp only [commitPrunedSubtreeVersion, throw_bind, ite_error_eq_ok, bind_eq_ok, pure_eq_ok] at made
  obtain ⟨_, _, items, itemized, _, _, _, commitmentDigest, digested, rfl⟩ := made
  have paired := mapM_eq_ok.mp itemized
  have counted : (sortByKey (·.path) items).length = entries.length := by
    rw [(sortByKey_perm _ items).length_eq, paired.length_eq]
  exact ⟨⟨⟨items, paired, counted, digested⟩⟩, rfl, rfl, rfl⟩

theorem commitPrunedSubtreeV2_eq_ok
    (made : commitPrunedSubtreeV2 digest root reason package formulaID entries = .ok subtree) :
    IsCommitment digest entries root reason package subtree := by
  simp only [commitPrunedSubtreeV2, throw_bind, ite_error_eq_ok] at made
  exact commitPrunedSubtreeVersion_eq_ok made.2

/-- A subtree that stands for everything below a root. -/
structure Represents (digest : SubtreeCommitment → Except String String)
    (entries : List SourceEntry) (root : SourceEntry) (subtree : PruneSubtree) : Prop where
  commits : Nonempty (Commits digest (inside entries root.rel) subtree)
  path : subtree.path = root.rel
  reason : root.pruneReason = some subtree.reason
  package : subtree.package = root.packageName

/-! ## The pass over the sorted entries -/

/-- What is committed at a position. -/
theorem isCommitted_iff {root : SourceEntry} {rest : List SourceEntry} :
    isCommitted record already root rest = true ↔
      isCompactableRoot record already root = true ∧ 2 ≤ (block root rest).length ∧
        ∀ entry ∈ block root rest, prunedLike root entry = true ∧ entry.rel ∉ already := by
  simp [isCommitted]

theorem selects_of_compactFrom {whole entries before : List SourceEntry}
    {subtrees : List PruneSubtree} {compacted : List String} (ordered : Ordered whole)
    (split : whole = before ++ entries)
    (made : compactFrom digest record already entries = .ok (subtrees, compacted)) :
    ∃ roots, Selects below (isCommitted record already) entries roots ∧
      List.Forall₂ (Represents digest whole) roots subtrees ∧
      ∀ rel, rel ∈ compacted ↔ ∃ root ∈ roots, ∃ entry ∈ inside whole root.rel, entry.rel = rel := by
  induction entries using compactFrom.induct record already
    generalizing before subtrees compacted with
  | case1 =>
    rw [compactFrom] at made
    cases made
    exact ⟨[], .nil, .nil, by simp⟩
  | case2 root rest refused ih =>
    rw [compactFrom, if_pos refused] at made
    have remaining : whole = (before ++ [root]) ++ rest := by
      rw [split, List.append_assoc]
      rfl
    obtain ⟨roots, selects, represents, paths⟩ := ih remaining made
    exact ⟨roots, .pass refused selects, represents, paths⟩
  | case3 root rest chosen ih =>
    rw [compactFrom, if_neg chosen] at made
    obtain ⟨subtree, commit, ⟨later, others⟩, next, result⟩ := by
      simpa only [bind_eq_ok] using made
    cases result
    rw [Bool.not_eq_false] at chosen
    obtain ⟨compactable, two, _⟩ := isCommitted_iff.mp chosen
    have complete : block root rest = inside whole root.rel := by
      rw [split] at ordered ⊢
      exact block_eq_inside ordered two
    have remaining : whole =
        (before ++ root :: rest.takeWhile fun entry => isWithin entry.rel root.rel) ++
          rest.dropWhile fun entry => isWithin entry.rel root.rel := by
      rw [split, List.append_assoc, List.cons_append, List.takeWhile_append_dropWhile]
    obtain ⟨roots, selects, represents, paths⟩ := ih remaining next
    simp only [isCompactableRoot, decide_eq_true_eq, Option.any_eq_true] at compactable
    obtain ⟨reason, known, _⟩ := compactable.2.2.1
    rw [complete, known] at commit
    obtain ⟨commits, path, reasoned, package⟩ := commitPrunedSubtreeV2_eq_ok commit
    refine ⟨root :: roots, .take chosen selects, .cons ?_ represents, fun rel => ?_⟩
    · exact ⟨commits, path, by rw [known, reasoned]; rfl, package⟩
    · simp only [complete, List.mem_append, List.mem_map, paths, List.mem_cons, exists_eq_or_imp]

end Commit

/-! ## The subtrees of a manifest -/

/-- No path lies below both roots. -/
def Apart (left right : String) : Prop :=
  ∀ path, ¬ (isWithin path left = true ∧ isWithin path right = true)

/-- Every entry below a path is pruned for one reason and one package. -/
def PrunedFor (entries : List SourceEntry) (subtree : PruneSubtree) : Prop :=
  ∀ entry ∈ inside entries subtree.path,
    entry.retain = false ∧ entry.pruneReason = some subtree.reason ∧
      entry.packageName = subtree.package

/-- Subtrees that stand for the compacted paths. -/
structure Covering (digest : SubtreeCommitment → Except String String) (entries : List SourceEntry)
    (subtrees : List PruneSubtree) (compacted : List String) : Prop where
  commits : ∀ subtree ∈ subtrees, Nonempty (Commits digest (inside entries subtree.path) subtree)
  pruned : ∀ subtree ∈ subtrees, PrunedFor entries subtree
  apart : subtrees.Pairwise fun left right => Apart left.path right.path
  paths : ∀ rel, rel ∈ compacted ↔
    ∃ subtree ∈ subtrees, ∃ entry ∈ inside entries subtree.path, entry.rel = rel

section Covering

variable {digest : SubtreeCommitment → Except String String} {record : Record}
  {entries : List SourceEntry} {already compacted : List String} {subtrees : List PruneSubtree}

theorem covering_nil : Covering digest entries [] [] :=
  ⟨by simp, by simp, List.Pairwise.nil, by simp⟩

/-- The checkout is either compacted as a whole or left alone. -/
theorem compactHomebrewRepository_eq_ok
    (made : compactHomebrewRepository digest record entries = .ok (subtrees, compacted)) :
    (subtrees = [] ∧ compacted = []) ∨ (∃ root ∈ entries, root.rel = homebrewRepositoryRoot) ∧
        ∃ subtree, subtrees = [subtree] ∧ subtree.path = homebrewRepositoryRoot ∧
          subtree.reason = .repository ∧ Covering digest entries subtrees compacted := by
  simp only [compactHomebrewRepository] at made
  split at made
  · cases made
    exact .inl ⟨rfl, rfl⟩
  next uniform =>
  simp only [not_or, Bool.not_eq_false] at uniform
  obtain ⟨rooted, alike, _⟩ := uniform
  rw [Option.any_eq_true] at rooted
  obtain ⟨root, found, _⟩ := rooted
  have committed : ∃ subtree, subtrees = [subtree] ∧
      compacted = (inside entries homebrewRepositoryRoot).map (·.rel) ∧
      IsCommitment digest (inside entries homebrewRepositoryRoot) homebrewRepositoryRoot
        .repository "" subtree := by
    split at made
    · obtain ⟨subtree, commit, result⟩ := bind_eq_ok.mp made
      cases result
      exact ⟨subtree, rfl, rfl, commitPrunedSubtreeV2_eq_ok commit⟩
    · obtain ⟨subtree, commit, result⟩ := bind_eq_ok.mp made
      cases result
      exact ⟨subtree, rfl, rfl, commitPrunedSubtreeVersion_eq_ok commit⟩
  obtain ⟨subtree, rfl, rfl, commits, path, reason, package⟩ := committed
  refine .inr ⟨⟨root, mem_of_byPath found, rel_of_byPath found⟩, subtree, rfl, path, reason, ?_⟩
  refine ⟨?_, ?_, List.pairwise_singleton _ _, ?_⟩
  · intro other member
    rw [List.mem_singleton.mp member, path]
    exact commits
  · intro other member entry within
    rw [List.mem_singleton.mp member] at within ⊢
    rw [path] at within
    have repository := List.all_eq_true.mp alike entry within
    simp only [isRepositoryEntry, decide_eq_true_eq] at repository
    exact ⟨repository.1, by rw [reason]; exact repository.2.1, by
      rw [package]; exact repository.2.2.1⟩
  · intro rel
    simp only [List.mem_map, List.mem_singleton, exists_eq_left, path]

section Runtime

variable {roots : List SourceEntry}

section

variable (ordered : Ordered entries)
  (selects : Selects below (isCommitted record already) entries roots)

include ordered selects

/-- Blocks of chosen roots are complete. -/
theorem apart_of_selects :
    roots.Pairwise fun left right => Apart left.rel right.rel := by
  have unnested := selects.apart fun before root rest split yes entry behind => by
    subst split
    exact not_below_of_behind ordered (isCommitted_iff.mp yes).2.1 behind
  have increasing : Ordered roots := ordered.sublist selects.sublist
  refine (unnested.and increasing).imp fun {left right} both path shared => ?_
  rcases isWithin_or_isWithin shared.1 shared.2 with above | inner
  · exact absurd (le_of_isWithin above) (not_le_of_gt both.2)
  · exact absurd inner (Bool.eq_false_iff.mp both.1)

/-- What the choice of a root says about everything below it. -/
theorem chosen_inside {root : SourceEntry} (member : root ∈ roots) :
    isCompactableRoot record already root = true ∧
      (∃ entry ∈ entries, entry.rel ≠ root.rel ∧ below entry root = true) ∧
      (∀ entry ∈ entries, interrupts entry.rel root.rel = false) ∧
      ∀ entry ∈ inside entries root.rel, prunedLike root entry = true ∧ entry.rel ∉ already := by
  obtain ⟨before, rest, rfl, yes⟩ := selects.accepted member
  obtain ⟨compactable, two, alike⟩ := isCommitted_iff.mp yes
  obtain ⟨descendant, uninterrupted⟩ := (two_le_block_iff ordered).mp two
  refine ⟨compactable, descendant, uninterrupted, fun entry within => alike entry ?_⟩
  rwa [block_eq_inside ordered two]

theorem covering_of_selects (represents : List.Forall₂ (Represents digest entries) roots subtrees)
    (paths : ∀ rel, rel ∈ compacted ↔
      ∃ root ∈ roots, ∃ entry ∈ inside entries root.rel, entry.rel = rel) :
    Covering digest entries subtrees compacted := by
  refine ⟨?_, ?_, ?_, ?_⟩
  · intro subtree member
    obtain ⟨root, _, shape⟩ := exists_left_of_forall₂ represents member
    rw [shape.path]
    exact shape.commits
  · intro subtree member entry within
    obtain ⟨root, chosen, shape⟩ := exists_left_of_forall₂ represents member
    rw [shape.path] at within
    obtain ⟨alike, _⟩ := (chosen_inside ordered selects chosen).2.2.2 entry within
    simp only [prunedLike, decide_eq_true_eq] at alike
    exact ⟨alike.1, alike.2.1.trans shape.reason, alike.2.2.1.trans shape.package.symm⟩
  · have same : roots.map (·.rel) = subtrees.map (·.path) :=
      map_eq_map_of_forall₂ represents fun _ _ shape => shape.path.symm
    have separate := List.pairwise_map.mpr (apart_of_selects ordered selects)
    rw [same] at separate
    exact List.pairwise_map.mp separate
  · intro rel
    rw [paths]
    constructor
    · rintro ⟨root, chosen, entry, within, rfl⟩
      obtain ⟨subtree, member, shape⟩ := exists_right_of_forall₂ represents chosen
      exact ⟨subtree, member, entry, shape.path ▸ within, rfl⟩
    · rintro ⟨subtree, member, entry, within, rfl⟩
      obtain ⟨root, chosen, shape⟩ := exists_left_of_forall₂ represents member
      exact ⟨root, chosen, entry, shape.path ▸ within, rfl⟩

end

end Runtime

/-- Coverings whose roots are apart join. -/
theorem Covering.append {others : List PruneSubtree} {more : List String}
    (first : Covering digest entries subtrees compacted)
    (second : Covering digest entries others more)
    (across : ∀ left ∈ subtrees, ∀ right ∈ others, Apart left.path right.path) :
    Covering digest entries (subtrees ++ others) (compacted ++ more) := by
  refine ⟨?_, ?_, List.pairwise_append.mpr ⟨first.apart, second.apart, across⟩, ?_⟩
  · intro subtree member
    exact (List.mem_append.mp member).elim (first.commits subtree) (second.commits subtree)
  · intro subtree member
    exact (List.mem_append.mp member).elim (first.pruned subtree) (second.pruned subtree)
  · intro rel
    simp only [List.mem_append, first.paths, second.paths, or_and_right, exists_or]

/-- Everything that the first pass compacts lies in the checkout. -/
theorem apart_of_repository {repository : List PruneSubtree} {roots : List SourceEntry}
    (ordered : Ordered entries)
    (made : compactHomebrewRepository digest record entries = .ok (repository, already))
    (selects : Selects below (isCommitted record already) entries roots) :
    ∀ subtree ∈ repository, ∀ root ∈ roots, Apart subtree.path root.rel := by
  intro subtree member root chosen path shared
  rcases compactHomebrewRepository_eq_ok made with ⟨rfl, _⟩ | ⟨⟨home, among, named⟩, checkout, rfl,
    located, _, covering⟩
  · cases member
  · obtain rfl := List.mem_singleton.mp member
    have fresh := (chosen_inside ordered selects chosen).2.2.2
    have listed : ∀ entry ∈ entries, isWithin entry.rel subtree.path = true →
        entry.rel ∈ already := fun entry member within =>
      (covering.paths entry.rel).mpr ⟨subtree, List.mem_singleton_self _, entry,
        mem_inside.mpr ⟨member, within⟩, rfl⟩
    have rootMember : root ∈ entries := selects.sublist.subset chosen
    rcases isWithin_or_isWithin shared.1 shared.2 with above | inner
    · rw [located, ← named] at above
      refine (fresh home (mem_inside.mpr ⟨among, above⟩)).2 (listed home among ?_)
      rw [located, named]
      exact isWithin_refl _
    · exact (fresh root (mem_inside.mpr ⟨rootMember, isWithin_refl _⟩)).2
        (listed root rootMember inner)

end Covering

/-! ## The manifest of a scan -/

section Manifest

variable {library : HostLibrary} {source : Source} {record : Record} {policy : NormalizedPolicy}
  {scan : SourceScan} {manifest : PruneManifest} {resolutionDigest : String}
  {digest : SubtreeCommitment → Except String String} {entries : List SourceEntry}
  {subtrees : List PruneSubtree} {compacted : List String}

theorem ordered_of_scanAndPlan (scanned : scanAndPlan library source record policy = .ok scan) :
    Ordered scan.entries := by
  obtain ⟨stages⟩ := nonempty_stages scanned
  have walked := List.pairwise_map.mpr stages.ordered
  rw [← stages.rel_entries] at walked
  exact List.pairwise_map.mp walked

theorem sortByKey_of_ordered (ordered : Ordered entries) :
    sortByKey (·.rel) entries = entries :=
  (ordered.imp fun less => less.le).insertionSort_eq

section

variable (ordered : Ordered entries)
  (made : compactSubtrees digest record entries = .ok (subtrees, compacted))

include ordered made

/-- The subtrees of a V2 manifest: the checkout and the chosen roots. -/
theorem compactSubtrees_eq_ok :
    ∃ repository already runtime more,
      compactHomebrewRepository digest record entries = .ok (repository, already) ∧
      subtrees = repository ++ runtime ∧ compacted = already ++ more ∧
      if isV2RuntimeRecord record then
        ∃ roots, Selects below (isCommitted record already) entries roots ∧
          List.Forall₂ (Represents digest entries) roots runtime ∧
          ∀ rel, rel ∈ more ↔ ∃ root ∈ roots, ∃ entry ∈ inside entries root.rel, entry.rel = rel
      else runtime = [] ∧ more = [] := by
  obtain ⟨⟨repository, already⟩, first, rest⟩ := bind_eq_ok.mp made
  rw [reportAs_eq_ok] at first
  split_ifs at rest with versioned
  · obtain ⟨⟨runtime, more⟩, second, result⟩ := bind_eq_ok.mp rest
    cases result
    rw [reportAs_eq_ok, compactV2RuntimeSubtrees, sortByKey_of_ordered ordered] at second
    refine ⟨repository, already, runtime, more, first, rfl, rfl, ?_⟩
    rw [if_pos versioned]
    exact selects_of_compactFrom ordered (List.nil_append entries).symm second
  · cases rest
    refine ⟨_, _, [], [], first, by simp, by simp, ?_⟩
    rw [if_neg versioned]
    exact ⟨rfl, rfl⟩

theorem covering_of_compactSubtrees :
    Covering digest entries subtrees compacted := by
  obtain ⟨repository, already, runtime, more, first, rfl, rfl, second⟩ :=
    compactSubtrees_eq_ok ordered made
  have checkout : Covering digest entries repository already := by
    rcases compactHomebrewRepository_eq_ok first with ⟨rfl, rfl⟩ | ⟨_, _, _, _, _, covering⟩
    · exact covering_nil
    · exact covering
  split_ifs at second with versioned
  · obtain ⟨roots, selects, represents, paths⟩ := second
    refine checkout.append (covering_of_selects ordered selects represents paths) ?_
    intro left leftMember right rightMember
    obtain ⟨root, chosen, shape⟩ := exists_left_of_forall₂ represents rightMember
    rw [shape.path]
    exact apart_of_repository ordered first selects left leftMember root chosen
  · obtain ⟨rfl, rfl⟩ := second
    simpa using checkout

end

theorem buildPruneManifest_eq_ok
    (built : buildPruneManifest digest scan record policy resolutionDigest = .ok manifest) :
    ∃ subtrees compacted, compactSubtrees digest record scan.entries = .ok (subtrees, compacted) ∧
      manifest.subtrees = sortByKey (·.path) subtrees ∧
      manifest.entries = sortByKey (·.path)
        ((scan.pruned.filter fun entry => entry.rel ∉ compacted).map (buildPruneEntry record)) := by
  obtain ⟨⟨subtrees, compacted⟩, made, result⟩ := bind_eq_ok.mp built
  cases result
  exact ⟨subtrees, compacted, made, rfl, rfl⟩

/-- How often a manifest names a path itself, and how often below a subtree. -/
def PruneManifest.named (manifest : PruneManifest) (rel : String) : Nat :=
  manifest.entries.countP (·.path = rel)

def PruneManifest.covered (manifest : PruneManifest) (rel : String) : Nat :=
  manifest.subtrees.countP fun subtree => isWithin rel subtree.path

theorem countP_sortByKey {Item : Type} (key : Item → String) (items : List Item)
    (holds : Item → Bool) : (sortByKey key items).countP holds = items.countP holds :=
  (sortByKey_perm key items).countP_eq holds

/-- Below disjoint subtrees a path lies once or not at all. -/
theorem Covering.countP_eq (covering : Covering digest scan.entries subtrees compacted)
    (member : entry ∈ scan.entries) :
    subtrees.countP (fun subtree => isWithin entry.rel subtree.path) =
      if entry.rel ∈ compacted then 1 else 0 := by
  split_ifs with listed
  · obtain ⟨subtree, among, other, within, same⟩ := (covering.paths entry.rel).mp listed
    refine countP_eq_one (covering.apart.imp fun separate both => separate _ both) ?_
    exact ⟨subtree, among, same ▸ (mem_inside.mp within).2⟩
  · rw [List.countP_eq_zero]
    intro subtree among within
    exact listed ((covering.paths entry.rel).mpr
      ⟨subtree, among, entry, mem_inside.mpr ⟨member, within⟩, rfl⟩)

/-- A pruned path has an entry of its own unless a subtree stands for it. -/
theorem countP_explicit (ordered : Ordered scan.entries) (member : entry ∈ scan.entries) :
    ((scan.pruned.filter fun entry => entry.rel ∉ compacted).map (buildPruneEntry record)).countP
        (fun item => item.path = entry.rel) =
      if entry.retain = false ∧ entry.rel ∉ compacted then 1 else 0 := by
  have distinct : ∀ other ∈ scan.entries, other.rel = entry.rel → other = entry := by
    intro other among same
    have nodup : (scan.entries.map (·.rel)).Nodup :=
      List.pairwise_map.mpr (ordered.imp fun less => less.ne)
    exact List.inj_on_of_nodup_map nodup among member same
  rw [List.countP_map]
  split_ifs with explicit
  · refine countP_eq_one ?_ ⟨entry, ?_, ?_⟩
    · refine (((ordered.filter _).filter _).imp ?_)
      intro left right less both
      exact less.ne ((of_decide_eq_true both.1).trans (of_decide_eq_true both.2).symm)
    · simp [SourceScan.pruned, member, explicit]
    · simp [buildPruneEntry]
  · rw [List.countP_eq_zero]
    intro other among same
    simp only [SourceScan.pruned, List.mem_filter, Bool.not_eq_eq_eq_not, Bool.not_true,
      decide_eq_true_eq] at among
    obtain rfl := distinct other among.1.1 (of_decide_eq_true same)
    exact explicit ⟨among.1.2, among.2⟩

end Manifest

end DalecHomebrew.RuntimeFS
