import DalecHomebrew.RuntimeFS.Scan

/-!
# The minimal runtime profile

`pruneMinimalRuntimeProfile` of `internal/runtimefs`.  The entries of removable path
classes become candidates.  The ancestors of what stays are taken back, the global
copies of and links to candidates join them, and whatever a protected link needs is
taken back again.  The candidates that are left are pruned.
-/

namespace DalecHomebrew.RuntimeFS

open Foundation Foundation.GoString Foundation.GoPath
open Resolution (Node Record)

/-! ## Classes -/

def exactCoreRuntimeProfileNode (node : Node) : Bool :=
  let id := "homebrew/core/" ++ node.name
  node.policyFormulaID ≠ "" ∧ node.policyFormulaID = id ∧ node.fullName = id

def pythonStdlibTestPath (package sub : String) (policy : NormalizedPolicy) : Bool :=
  (policy.pythonTests.lookup package).any (isWithin sub)

/-- The removable class of a path inside a keg. -/
def removableClass (package sub : String) (policy : NormalizedPolicy) : Option PruneReason :=
  if isWithin sub "include" then some .runtimeHeaders
  else if isWithin sub "share/man" || isWithin sub "share/info" then some .runtimeDocs
  else if buildMetadataRoots.any (isWithin sub) then some .runtimeBuild
  else if pythonStdlibTestPath package sub policy then some .runtimeTests
  else if shellCompletionRuntimePath sub then some .runtimeShell
  else if staticArchiveRuntimePath sub then some .runtimeStatic
  else none

/-- The removable class of an entry, with its path inside the keg.  Only the kegs of
exact core packages that nobody asked for have classes. -/
def minimalRuntimePathClass (rel packageName : String) (policy : NormalizedPolicy) :
    Option (PruneReason × String) :=
  if isMinimal policy = false then none
  else
    match kegLocation rel policy.nodes with
    | none => none
    | some (package, sub) =>
      if package ≠ packageName ∨ package ∈ policy.requested ∨
          (policy.nodes.lookup package).any exactCoreRuntimeProfileNode = false then none
      else (removableClass package sub policy).map fun reason => (reason, sub)

/-- The reason to prune an entry by its own path. -/
def minimalRuntimePruneReason (rel packageName : String) (policy : NormalizedPolicy) :
    Option PruneReason :=
  match minimalRuntimePathClass rel packageName policy with
  | none => none
  | some (reason, sub) =>
    if packageName ∈ policy.toolchainDev ∧
        reason ∈ [PruneReason.runtimeHeaders, .runtimeBuild, .runtimeStatic] then none
    else if minimalRuntimeAlwaysRetainedPath sub then none
    else if equalFold (ext sub) ".a" = true ∧ staticArchiveRuntimePath sub = false then none
    else some reason

def minimalRuntimeAliasPath (rel : String) (reason : PruneReason) (package : String)
    (policy : NormalizedPolicy) : Bool :=
  if minimalRuntimeAlwaysRetainedPath rel then false
  else
    match reason with
    | .runtimeHeaders => headerAliasRuntimePath rel
    | .runtimeDocs => isWithin rel "share/man" || isWithin rel "share/info"
    | .runtimeBuild => buildMetadataRoots.any (isWithin rel)
    | .runtimeTests => (policy.pythonTests.lookup package).any (isWithin rel)
    | .runtimeShell => shellCompletionRuntimePath rel
    | .runtimeStatic => staticArchiveAliasRuntimePath rel
    | _ => false

/-- Whether two files are names of one inode or have the same content. -/
def sameContent (left right : SourceEntry) : Bool :=
  (left.inode ≠ "" ∧ left.inode = right.inode) ∨
    (left.sha256 ≠ "" ∧ left.sha256 = right.sha256 ∧ left.size = right.size ∧
      left.mode.perm &&& 0o111 = right.mode.perm &&& 0o111)

def minimalRuntimeAliasContentMatches (copy target : SourceEntry) : Bool :=
  copy.typeName = .regular ∧ target.typeName = .regular ∧ sameContent copy target = true

/-- A link at a protected path, or in the keg of a requested package, keeps what it
leads to. -/
def minimalRuntimeAliasRetainsTarget (rel : String) (policy : NormalizedPolicy) : Bool :=
  minimalRuntimeAlwaysRetainedPath rel ||
    (kegLocation rel policy.nodes).any fun location => location.1 ∈ policy.requested

/-! ## Candidates -/

/-- The entries to prune, with their reasons. -/
abbrev Candidates := Table String PruneReason

variable (policy : NormalizedPolicy)

/-- Candidates by their own path. -/
def classifyCandidates (entries : List SourceEntry) : Candidates :=
  entries.foldl
    (fun candidates entry =>
      match minimalRuntimePruneReason entry.rel entry.packageName policy with
      | some reason =>
        if entry.retain = true ∧ (reason ≠ .runtimeStatic ∨ entry.typeName ≠ .directory) then
          candidates.insert entry.rel reason
        else candidates
      | none => candidates)
    ∅

def eraseAll (candidates : Candidates) (paths : List String) : Candidates :=
  paths.foldl (fun candidates path => candidates.erase path) candidates

/-- The directories above a retained entry that stays are taken back. -/
def retainAncestors (entries : List SourceEntry) (candidates : Candidates) : Candidates :=
  entries.foldl
    (fun candidates entry =>
      if entry.retain = true ∧ (candidates.lookup entry.rel).isNone then
        eraseAll candidates (ancestors entry.rel)
      else candidates)
    candidates

/-- Whether a candidate of the same package lets an entry at an alias path join it. -/
def joins (entry target : SourceEntry) (reason : PruneReason) : Bool :=
  entry.packageName ≠ "" ∧ entry.packageName = target.packageName ∧
    minimalRuntimeAliasPath entry.rel reason target.packageName policy = true

/-- The file that a global copy would be a copy of. -/
def kegCounterpart (entries : List SourceEntry) (entry : SourceEntry) : Option SourceEntry :=
  match policy.nodes.lookup entry.packageName with
  | none => none
  | some node => byPath entries (pathJoin ["Cellar", node.name, node.pkgVersion, entry.rel])

/-- A global copy of a candidate becomes a candidate. -/
def addCopy (entries : List SourceEntry) (candidates : Candidates)
    (entry : SourceEntry) : Candidates :=
  if entry.retain = false ∨ entry.typeName ≠ .regular ∨ (candidates.lookup entry.rel).isSome then
    candidates
  else
    match kegCounterpart policy entries entry with
    | none => candidates
    | some target =>
      match candidates.lookup target.rel with
      | none => candidates
      | some reason =>
        if minimalRuntimeAliasContentMatches entry target = true ∧
            joins policy entry target reason = true then
          candidates.insert entry.rel reason
        else candidates

/-- A link to a candidate becomes a candidate. -/
def addLink (entries : List SourceEntry) (candidates : Candidates)
    (entry : SourceEntry) : Except RuntimeError Candidates :=
  if entry.retain = false ∨ entry.typeName ≠ .symlink ∨ (candidates.lookup entry.rel).isSome then
    .ok candidates
  else do
    let target ← finalLinkTarget entries entry.rel
    match candidates.lookup target.rel with
    | none => return candidates
    | some reason =>
      return if joins policy entry target reason then candidates.insert entry.rel reason
        else candidates

/-! ## What protected links need -/

variable (entries : List SourceEntry)

/-- The entry at the end of a link and the entries on the way, none of which may be
pruned already. -/
def minimalRuntimeLinkRequirements (rel : String) :
    Except RuntimeError (SourceEntry × List String) :=
  let lookup := fun path => (byPath entries path).map fun entry =>
    if entry.retain then linkNode entry else .barred
  match LinkWalk.resolve lookup rel with
  | .error failure => .error (linkFailure rel failure)
  | .ok (resolved, required) => do
      let target ← retainedTarget entries rel resolved
      return (target, required)

/-- The state of the queue that `retainMinimalRuntimeAliasTargets` works off.  The
source marks the paths it has consumed in an index over the sorted paths. -/
structure Retention where
  queue : List String
  seen : List String := []
  consumed : List String := []
  candidates : Candidates

/-- The entries that have not been taken from the queue yet. -/
def unseen (seen : List String) : List SourceEntry :=
  entries.filter fun entry => entry.rel ∉ seen

/-- The retained paths below a directory that no earlier directory has covered. -/
def freshDescendants (consumed : List String) (root : String) : List String :=
  ((entries.filter fun entry => entry.retain = true ∧ hasPrefix entry.rel (root ++ "/") = true).map
    (·.rel)).filter (· ∉ consumed)

/-- The links among some paths. -/
def linksAmong (paths : List String) : List String :=
  paths.filter fun path => (byPath entries path).any (·.typeName = .symlink)

/-- What one link taken from the queue keeps. -/
def retainTargets (state : Retention) (rel : String) : Except RuntimeError Retention := do
  let (target, required) ← minimalRuntimeLinkRequirements entries rel
  let kept :=
    { state with
      candidates := eraseAll state.candidates required
      queue := state.queue ++ linksAmong entries required }
  if target.typeName ≠ .directory then return kept
  else
    let covered := freshDescendants entries kept.consumed target.rel
    return { kept with
      consumed := kept.consumed ++ covered
      candidates := eraseAll kept.candidates covered
      queue := kept.queue ++ linksAmong entries covered }

variable {entries : List SourceEntry}

theorem retainTargets_seen {state next : Retention} {rel : String}
    (kept : retainTargets entries state rel = .ok next) : next.seen = state.seen := by
  unfold retainTargets at kept
  obtain ⟨requirements, _, kept⟩ := bind_eq_ok.mp kept
  simp only [pure, Except.pure] at kept
  split at kept
  · cases kept
    rfl
  · cases kept
    rfl

theorem unseen_cons_lt {seen : List String} {entry : SourceEntry}
    (member : entry ∈ entries) (fresh : entry.rel ∉ seen) :
    (unseen entries (entry.rel :: seen)).length < (unseen entries seen).length := by
  have split : unseen entries (entry.rel :: seen) =
      (unseen entries seen).filter fun other => other.rel ≠ entry.rel := by
    rw [unseen, unseen, List.filter_filter]
    congr 1
    funext other
    simp [List.mem_cons, not_or]
  rw [split]
  refine List.length_filter_lt_length_iff_exists.mpr ⟨entry, ?_, by simp⟩
  exact List.mem_filter.mpr ⟨member, by simpa using fresh⟩

/-- Works off the queue.  A path that is not in the list of the entries cannot be
queued. -/
def retainQueued (entries : List SourceEntry) (state : Retention) :
    Except RuntimeError Candidates :=
  match state with
  | { queue := [], candidates, .. } => .ok candidates
  | { queue := rel :: queue, seen, consumed, candidates } =>
    if rel ∈ seen then retainQueued entries { queue, seen, consumed, candidates }
    else
      match _found : byPath entries rel with
      | none => retainQueued entries { queue, seen, consumed, candidates }
      | some _ =>
        let marked : Retention := { queue, seen := rel :: seen, consumed, candidates }
        if (candidates.lookup rel).isSome then retainQueued entries marked
        else
          match _kept : retainTargets entries marked rel with
          | .error failure => .error failure
          | .ok next => retainQueued entries next
termination_by ((unseen entries state.seen).length, state.queue.length)
decreasing_by
  all_goals simp_wf
  · exact Prod.Lex.right _ (by simp)
  · exact Prod.Lex.right _ (by simp)
  · refine Prod.Lex.left _ _ ?_
    have := unseen_cons_lt (mem_of_byPath _found) (by rwa [rel_of_byPath _found])
    rwa [rel_of_byPath _found] at this
  · refine Prod.Lex.left _ _ ?_
    rw [retainTargets_seen _kept]
    have := unseen_cons_lt (mem_of_byPath _found) (by rwa [rel_of_byPath _found])
    rwa [rel_of_byPath _found] at this

/-- The links whose targets have to stay. -/
def protectedLinks (entries : List SourceEntry) : List String :=
  (entries.filter fun entry =>
    entry.retain = true ∧ entry.typeName = .symlink ∧
      minimalRuntimeAliasRetainsTarget entry.rel policy = true).map (·.rel)

def retainMinimalRuntimeAliasTargets (entries : List SourceEntry) (candidates : Candidates) :
    Except RuntimeError Candidates :=
  retainQueued entries { queue := protectedLinks policy entries, candidates }

/-! ## The profile -/

/-- The classified entries and their aliases. -/
def aliasCandidates (entries : List SourceEntry) : Except RuntimeError Candidates :=
  let classified := retainAncestors entries (classifyCandidates policy entries)
  let copied := entries.foldl (addCopy policy entries) classified
  entries.foldlM (addLink policy entries) copied

/-- The candidates that the profile removes in the end. -/
def minimalCandidates (entries : List SourceEntry) : Except RuntimeError Candidates := do
  let linked ← aliasCandidates policy entries
  retainMinimalRuntimeAliasTargets policy entries linked

/-- Prunes an entry that is a candidate. -/
def pruneCandidate (candidates : Candidates) (entry : SourceEntry) : SourceEntry :=
  match candidates.lookup entry.rel with
  | some reason => { entry with retain := false, pruneReason := some reason }
  | none => entry

def pruneMinimalRuntimeProfile (entries : List SourceEntry) :
    Except RuntimeError (List SourceEntry) :=
  if isMinimal policy = false then .ok entries
  else do
    let candidates ← minimalCandidates policy entries
    return entries.map (pruneCandidate candidates)

end DalecHomebrew.RuntimeFS
