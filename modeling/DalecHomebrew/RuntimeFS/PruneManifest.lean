import DalecHomebrew.RuntimeFS.Plan

/-!
# The prune manifest

`buildPruneManifest` of `internal/runtimefs/evidence.go`: the record of everything
that is not copied.  The Homebrew checkout and, for V2 records, the uniformly pruned
directories of packages are committed as whole subtrees; every other pruned path is an
entry of its own.

The canonical encoding of a commitment and its digest are a parameter.
-/

namespace DalecHomebrew.RuntimeFS

open Foundation Foundation.GoString Foundation.GoPath
open Resolution (Node Record)

/-! ## Documents -/

inductive CommitmentSchema where
  | v1
  | v2
deriving DecidableEq

def CommitmentSchema.text : CommitmentSchema → String
  | v1 => "dalec-homebrew-prune-subtree-commitment/v1"
  | v2 => "dalec-homebrew-prune-subtree-commitment/v2"

structure CommitmentEntry where
  path : String
  type : EntryType
  mode : String
  size : Int
  contentSHA256 : String := ""
  linkTarget : String := ""
  hardlinkTarget : String := ""
deriving DecidableEq

/-- What a subtree commits to.  Package and Formula identity are empty in a V1
commitment, whose document has no such members. -/
structure SubtreeCommitment where
  schema : CommitmentSchema
  root : String
  reason : PruneReason
  package : String
  formulaID : String
  entryCount : Nat
  regularBytes : Int
  entries : List CommitmentEntry
deriving DecidableEq

structure PruneSubtree where
  path : String
  reason : PruneReason
  package : String
  formulaID : String
  entryCount : Nat
  regularBytes : Int
  commitmentSchema : CommitmentSchema
  commitmentDigest : String
deriving DecidableEq

structure PruneEntry where
  path : String
  type : EntryType
  mode : String
  size : Int
  sha256 : String
  linkTarget : String
  reason : PruneReason
  package : String
  formulaID : String
  metadataExport : Option MetadataKind
  exportedTo : List String
deriving DecidableEq

structure PruneManifest where
  schemaVersion : String
  policyVersion : String
  resolutionDigest : String
  pruningPolicyDigest : String
  sourceDateEpoch : Int
  installPrefix : String
  subtrees : List PruneSubtree
  entries : List PruneEntry
deriving DecidableEq

/-! ## Records -/

def isV2RuntimeRecord (record : Record) : Bool :=
  record.policyVersion = Resolution.policyVersionV2

def pruneSchemaVersion (record : Record) : String :=
  if isV2RuntimeRecord record then "dalec-homebrew-prune-manifest/v4"
  else "dalec-homebrew-prune-manifest/v2"

/-- The Formula identity of the package in a rack, for V2 records. -/
def formulaIDForRack (record : Record) (rack : String) : String :=
  if isV2RuntimeRecord record = false ∨ rack = "" then ""
  else ((record.nodes.find? (·.name = rack)).map (·.fullName)).getD ""

/-! ## Entries -/

/-- `%04o`. -/
def modeText (mode : Nat) : String :=
  let digits := (Nat.digits 8 mode).reverse.map fun digit => Char.ofNat (digit + 48)
  String.ofList (List.replicate (4 - digits.length) '0' ++ digits)

example : modeText 0o755 = "0755" := by decide

example : modeText 0o4755 = "4755" := by decide

def pruneCommitmentModeString (mode : FileMode) : String :=
  modeText (mode.perm ||| (if mode.setuid then 0o4000 else 0) |||
    (if mode.setgid then 0o2000 else 0) ||| (if mode.sticky then 0o1000 else 0))

def buildPruneEntry (record : Record) (entry : SourceEntry) : PruneEntry :=
  let sha256 := if entry.typeName = .directory then "" else entry.sha256
  let metadataExport := if entry.typeName = .regular then entry.metadataExport else none
  { path := entry.rel
    type := entry.typeName
    mode := modeText entry.mode.perm
    size := if entry.typeName = .directory then 0 else entry.size
    sha256 := sha256
    linkTarget := entry.linkSource
    reason := entry.pruneReason.getD .notAllowlisted
    package := entry.packageName
    formulaID := formulaIDForRack record entry.packageName
    metadataExport := metadataExport
    exportedTo := if metadataExport.isSome ∧ sha256 ≠ "" then ["manifest.json"] else [] }

/-! ## Commitments -/

section Commit

variable (digest : SubtreeCommitment → Except String String)

def commitmentEntry (root : String) (entry : SourceEntry) : Except String CommitmentEntry :=
  if isWithin entry.rel root = false then .error "entry is nil or outside root"
  else
    let item : CommitmentEntry :=
      { path := entry.rel
        type := entry.typeName
        mode := pruneCommitmentModeString entry.mode
        size := entry.size }
    match entry.typeName with
    | .directory => .ok { item with size := 0 }
    | .regular =>
      if entry.sha256 = "" then
        .error ("regular file " ++ quote entry.rel ++ " has no content digest")
      else .ok { item with contentSHA256 := entry.sha256 }
    | .symlink =>
      if entry.linkSource = "" then .error ("symlink " ++ quote entry.rel ++ " has no target")
      else .ok { item with size := byteLength entry.linkSource, linkTarget := entry.linkSource }
    | .hardlink =>
      if entry.hardlinkTo = "" then .error ("hardlink " ++ quote entry.rel ++ " has no target")
      else .ok { item with hardlinkTarget := entry.hardlinkTo, contentSHA256 := entry.sha256 }

def checkCommitmentEntries (root : String) (items : List CommitmentEntry) : Except String Unit := do
  match (items.zip items.tail).find? fun pair => pair.1.path = pair.2.path with
  | some pair => throw ("duplicate path " ++ quote pair.2.path)
  | none => pure ()
  if items.head?.any (·.path ≠ root) then throw ("subtree root " ++ quote root ++ " is absent")
  if items.head?.any (·.type ≠ .directory) then
    throw ("subtree root " ++ quote root ++ " is not a directory")

def regularBytes (entries : List SourceEntry) : Int :=
  ((entries.filter (·.typeName = .regular)).map (·.size)).sum

def commitPrunedSubtreeVersion (schema : CommitmentSchema) (root : String) (reason : PruneReason)
    (package formulaID : String) (entries : List SourceEntry) :
    Except String PruneSubtree := do
  if root = "" then throw "empty subtree root"
  if entries = [] then throw "empty subtree"
  let items ← entries.mapM (commitmentEntry root)
  let sorted := sortByKey (·.path) items
  checkCommitmentEntries root sorted
  if schema = .v1 ∧ (package ≠ "" ∨ formulaID ≠ "") then
    throw "v1 subtree commitment cannot carry package attribution"
  let commitmentDigest ← digest
    { schema, root, reason, package, formulaID
      entryCount := sorted.length
      regularBytes := regularBytes entries
      entries := sorted }
  pure
    { path := root, reason, package, formulaID
      entryCount := sorted.length
      regularBytes := regularBytes entries
      commitmentSchema := schema
      commitmentDigest }

def commitPrunedSubtreeV2 (root : String) (reason : PruneReason) (package formulaID : String)
    (entries : List SourceEntry) :
    Except String PruneSubtree := do
  if (package = "") ≠ (formulaID = "") then
    throw "package and formula identity must both be empty or both be set"
  commitPrunedSubtreeVersion digest .v2 root reason package formulaID entries

def homebrewRepositoryRoot : String := "Homebrew"

/-- Whether an entry belongs to a uniform repository without attribution. -/
def isRepositoryEntry (entry : SourceEntry) : Bool :=
  entry.retain = false ∧ entry.pruneReason = some .repository ∧ entry.packageName = "" ∧
    entry.metadataExport = none

variable (record : Record)

/-- The subtree of the Homebrew checkout, with the paths that it stands for. -/
def compactHomebrewRepository (entries : List SourceEntry) :
    Except String (List PruneSubtree × List String) :=
  let isRoot := (byPath entries homebrewRepositoryRoot).any fun root =>
    root.typeName = .directory ∧ root.retain = false ∧ root.pruneReason = some .repository
  let inside := entries.filter fun entry => isWithin entry.rel homebrewRepositoryRoot
  if isRoot = false ∨ inside.all isRepositoryEntry = false ∨ inside = [] then .ok ([], [])
  else do
    let subtree ←
      if isV2RuntimeRecord record then
        commitPrunedSubtreeV2 digest homebrewRepositoryRoot .repository "" "" inside
      else
        commitPrunedSubtreeVersion digest .v1 homebrewRepositoryRoot .repository "" "" inside
    pure ([subtree], inside.map (·.rel))

def compactableV2RuntimeReason : PruneReason → Bool
  | .runtimeHeaders | .runtimeDocs | .runtimeBuild | .runtimeTests | .runtimeShell => true
  | _ => false

/-- Whether a directory can be the root of a committed subtree of its package. -/
def isCompactableRoot (already : List String) (root : SourceEntry) : Bool :=
  root.typeName = .directory ∧ root.retain = false ∧
    root.pruneReason.any compactableV2RuntimeReason = true ∧ root.rel ∉ already ∧
    root.packageName ≠ "" ∧ root.metadataExport = none ∧
    formulaIDForRack record root.packageName ≠ ""

/-- Whether an entry is pruned like the root of its subtree. -/
def prunedLike (root entry : SourceEntry) : Bool :=
  entry.retain = false ∧ entry.pruneReason = root.pruneReason ∧
    entry.packageName = root.packageName ∧ entry.metadataExport = none

/-- The entries that follow a root and lie below it. -/
def block (root : SourceEntry) (rest : List SourceEntry) : List SourceEntry :=
  root :: rest.takeWhile fun entry => isWithin entry.rel root.rel

/-- Whether the subtree at this position is committed. -/
def isCommitted (already : List String) (root : SourceEntry) (rest : List SourceEntry) : Bool :=
  isCompactableRoot record already root = true ∧ 2 ≤ (block root rest).length ∧
    (block root rest).all fun entry =>
      prunedLike root entry = true ∧ entry.rel ∉ already

/-- The loop over the sorted entries; it continues behind a committed subtree. -/
def compactFrom (record : Record) (already : List String) :
    List SourceEntry → Except String (List PruneSubtree × List String)
  | [] => .ok ([], [])
  | root :: rest =>
    if isCommitted record already root rest = false then compactFrom record already rest
    else do
      let subtree ← commitPrunedSubtreeV2 digest root.rel (root.pruneReason.getD .notAllowlisted)
        root.packageName (formulaIDForRack record root.packageName) (block root rest)
      let (subtrees, compacted) ← compactFrom record already
        (rest.dropWhile fun entry => isWithin entry.rel root.rel)
      pure (subtree :: subtrees, (block root rest).map (·.rel) ++ compacted)
termination_by entries => entries.length
decreasing_by
  · simp
  · exact Nat.lt_succ_of_le (List.dropWhile_sublist _).length_le

def compactV2RuntimeSubtrees (entries : List SourceEntry) (already : List String) :
    Except String (List PruneSubtree × List String) :=
  compactFrom digest record already (sortByKey (·.rel) entries)

/-- The subtrees of a manifest and the paths that they stand for. -/
def compactSubtrees (entries : List SourceEntry) :
    Except RuntimeError (List PruneSubtree × List String) := do
  let repository ← reportAs .evidence homebrewRepositoryRoot "commit pruned repository subtree: "
    (compactHomebrewRepository digest record entries)
  if isV2RuntimeRecord record then
    let runtime ← reportAs .evidence "" "commit pruned runtime subtree: "
      (compactV2RuntimeSubtrees digest record entries repository.2)
    pure (repository.1 ++ runtime.1, repository.2 ++ runtime.2)
  else pure repository

def buildPruneManifest (scan : SourceScan) (record : Record) (policy : NormalizedPolicy)
    (resolutionDigest : String) :
    Except RuntimeError PruneManifest := do
  let (subtrees, compacted) ← compactSubtrees digest record scan.entries
  let explicit := scan.pruned.filter fun entry => entry.rel ∉ compacted
  pure
    { schemaVersion := pruneSchemaVersion record
      policyVersion := record.policyVersion
      resolutionDigest
      pruningPolicyDigest := policy.digest
      sourceDateEpoch := record.sourceDateEpoch
      installPrefix := policy.installPrefix
      subtrees := sortByKey (·.path) subtrees
      entries := sortByKey (·.path) (explicit.map (buildPruneEntry record)) }

end Commit

end DalecHomebrew.RuntimeFS
