import DalecHomebrew.RuntimeFS.Profile

/-!
# Planning the runtime prefix

The second half of `scanAndPlan` of `internal/runtimefs`: the requested
executables, the owners and modes of what is retained, hard links, and the
package-manager metadata that is exported before it is left out.
-/

namespace DalecHomebrew.RuntimeFS

open Foundation Foundation.GoString Foundation.GoPath
open Resolution (Node Record)

/-! ## Requested executables -/

def validateExecutable (entries : List SourceEntry) (node : Node) (executable : String) :
    Except RuntimeError Unit := do
  let kegPath := pathJoin ["Cellar", node.name, node.pkgVersion, executable]
  if (byPath entries kegPath).all (·.retain = false) then
    runtimeError .missingKeg kegPath "requested executable is absent"
  let target ← finalLinkTarget entries kegPath
  if target.typeName ≠ .regular ∨ target.mode.executable = false then
    runtimeError .verification kegPath "requested executable is not an executable regular file"
  if node.kegOnly = false ∧
      (hasPrefix executable "bin/" = true ∨ hasPrefix executable "sbin/" = true) then
    match byPath entries executable with
    | none =>
      runtimeError .verification executable "requested executable is not exposed globally"
    | some exposed =>
      if exposed.retain = false then
        runtimeError .verification executable "requested executable is not exposed globally"
      else if exposed.packageName ≠ node.name then
        runtimeError .verification executable
          ("requested executable is attributed to " ++ quote exposed.packageName ++
            ", expected " ++ quote node.name)

def validateRequestedExecutables (record : Record) (policy : NormalizedPolicy)
    (entries : List SourceEntry) :
    Except RuntimeError Unit :=
  record.requested.forM fun root =>
    match policy.nodes.lookup root.canonical with
    | none => .ok ()
    | some node => node.executablePaths.forM (validateExecutable entries node)

/-! ## Owners, modes and hard links -/

def desiredMode (entry : SourceEntry) : Nat :=
  match entry.typeName with
  | .symlink => 0o777
  | .directory => if entry.writable || entry.statePath then 0o755 else 0o555
  | .regular | .hardlink =>
    if entry.writable || entry.statePath then
      if entry.mode.executable then 0o755 else 0o644
    else if entry.mode.executable then 0o555 else 0o444

/-- The owner and the mode of a retained entry. -/
def planMode (record : Record) (entry : SourceEntry) : Except RuntimeError SourceEntry :=
  if entry.retain = false then .ok entry
  else
    let state := { entry with
      statePath := entry.statePath || firstSegment entry.rel = "etc" ||
        firstSegment entry.rel = "var" }
    if state.writable = true ∧ (state.typeName = .symlink ∨ state.typeName = .hardlink ∨
        (state.typeName = .regular ∧ state.mode.executable = true)) then
      runtimeError .unexpectedWritable entry.rel
        "writable runtime-state paths cannot contain executable code or links"
    else
      .ok { state with
        uid := if state.writable then record.runtime.uid else 0
        gid := if state.writable then record.runtime.gid else 0
        desiredMode := desiredMode state }

/-- Whether an entry takes part in the hard links of an inode. -/
def namesInode (inode : String) (entry : SourceEntry) : Bool :=
  entry.retain = true ∧ entry.typeName = .regular ∧ entry.inode = inode

/-- A file whose inode an earlier entry names becomes a hard link to the first one,
with which it has to agree. -/
def planHardlink (planned : List SourceEntry) (entry : SourceEntry) :
    Except RuntimeError SourceEntry :=
  if entry.inode = "" ∨ namesInode entry.inode entry = false then .ok entry
  else
    match planned.find? (namesInode entry.inode) with
    | none => .ok entry
    | some first =>
      if first.rel = entry.rel then .ok entry
      else if first.packageName ≠ "" ∧ entry.packageName ≠ "" ∧
          first.packageName ≠ entry.packageName then
        runtimeError .verification entry.rel
          ("hardlink crosses package boundary between " ++ quote first.packageName ++ " and " ++
            quote entry.packageName)
      else if first.uid ≠ entry.uid ∨ first.gid ≠ entry.gid ∨
          first.desiredMode ≠ entry.desiredMode ∨ first.writable ≠ entry.writable then
        runtimeError .unexpectedWritable entry.rel
          ("hardlink crosses ownership or write-policy boundary with " ++ quote first.rel)
      else .ok { entry with hardlinkTo := first.rel, typeName := .hardlink }

def planModesAndHardlinks (record : Record) (entries : List SourceEntry) :
    Except RuntimeError (List SourceEntry) := do
  let planned ← entries.mapM (planMode record)
  planned.mapM (planHardlink planned)

/-! ## Exported metadata -/

/-- Whether the metadata of an entry is exported. -/
def isExported (entry : SourceEntry) : Bool :=
  entry.retain = false ∧ entry.metadataExport ≠ none ∧ entry.typeName ≠ .directory

/-- An entry without a package gets the one of its rack. -/
def attributeExport (nodes : Table String Node) (entry : SourceEntry) : SourceEntry :=
  if entry.packageName = "" then
    { entry with packageName := packageFromCellarPath entry.rel nodes }
  else entry

/-- Receipts and Formula files have to be those of their package. -/
def validateIdentity (library : HostLibrary) (record : Record) (nodes : Table String Node)
    (entry : SourceEntry) : MetadataKind → Except RuntimeError Unit
  | .installReceipt =>
    reportAs .verification entry.rel "receipt identity: "
      (library.validateReceiptIdentity entry (nodes.lookup entry.packageName) record.nodes)
  | .formula =>
    reportAs .verification entry.rel "Formula identity: "
      (library.validateFormulaIdentity entry entry.packageName)
  | .homebrewMetadata | .packageManagerSBOM => .ok ()

/-- The export of one entry. -/
def exportEntry (library : HostLibrary) (record : Record) (nodes : Table String Node)
    (entry : SourceEntry) : Except RuntimeError (SourceEntry × Option MetadataExport) :=
  match entry.metadataExport with
  | none => .ok (entry, none)
  | some kind =>
    if isExported entry = false then .ok (entry, none)
    else if entry.typeName ≠ .regular then
      runtimeError .verification entry.rel "exportable package metadata must be a regular file"
    else
      let named := attributeExport nodes entry
      if named.packageName = "" then
        runtimeError .unattributed entry.rel "package metadata cannot be attributed"
      else do
        validateIdentity library record nodes named kind
        return (named, some {
          package := named.packageName, kind, sourcePath := named.rel, sha256 := named.sha256,
          size := named.size })

def collectMetadataExports (library : HostLibrary) (record : Record) (entries : List SourceEntry) :
    Except RuntimeError (List SourceEntry × List MetadataExport) := do
  let nodes := Table.ofList (·.name) record.nodes
  let collected ← entries.mapM (exportEntry library record nodes)
  return (collected.map (·.1),
    sortByKey (fun item : MetadataExport => [item.package, item.kind.text, item.sourcePath])
      (collected.filterMap (·.2)))

/-! ## The whole scan -/

/-- The passes up to the minimal profile. -/
def prepareEntries (library : HostLibrary) (sourceRoot : String) (record : Record)
    (policy : NormalizedPolicy) (walked : List SourceEntry) :
    Except RuntimeError (List SourceEntry) := do
  let classified ← walked.mapM (classifyRetention library.toPolicyLibrary policy)
  validateExpectedLayout record policy classified
  let linked ← normalizeLinks library sourceRoot policy classified
  let attributed ← attributeEntries policy linked
  return pruneOptionalDependencyTooling library.toPolicyLibrary policy attributed

/-- The passes after the minimal profile. -/
def finishEntries (library : HostLibrary) (record : Record) (policy : NormalizedPolicy)
    (minimized : List SourceEntry) :
    Except RuntimeError SourceScan := do
  validateRetainedLinks minimized
  validateRequestedExecutables record policy minimized
  let planned ← planModesAndHardlinks record minimized
  let (entries, metadata) ← collectMetadataExports library record planned
  return { entries, metadata }

def scanAndPlan (library : HostLibrary) (source : Source) (record : Record)
    (policy : NormalizedPolicy) :
    Except RuntimeError SourceScan := do
  let walked ← walkSource library source
  let prepared ← prepareEntries library source.root record policy walked
  let minimized ← pruneMinimalRuntimeProfile policy prepared
  finishEntries library record policy minimized

end DalecHomebrew.RuntimeFS
