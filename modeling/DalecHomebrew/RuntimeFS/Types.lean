import DalecHomebrew.Foundation.Container
import DalecHomebrew.Resolution.Types

/-!
# Runtime file systems

The values of `internal/runtimefs`: the allowlist a caller asks for, what the walk
over a source prefix reports, and the entries that the scan plans.

The walk itself belongs to the host.  A `Source` records what the host reports on
one scan: the visited files in the order of the visit, each with what `Lstat`,
the extended attributes, the content and the link target came back with, or the
error that ended the walk there.
-/

namespace DalecHomebrew.RuntimeFS

open Foundation

/-! ## Errors -/

/-- The failure categories.  `cancelled` stands for the error of the caller's
context, which the source returns as it is. -/
inductive ErrorCode where
  | invalidOptions
  | invalidRecord
  | unsafeSource
  | unsafeType
  | unsafeMode
  | unsafeXAttr
  | unexpectedKeg
  | missingKeg
  | invalidOptLink
  | unsafeLink
  | danglingLink
  | unattributed
  | copy
  | verification
  | unexpectedWritable
  | evidence
  | cancelled
deriving DecidableEq

structure RuntimeError where
  code : ErrorCode
  path : String
  message : String
deriving DecidableEq

/-- `runtimeError` with the formatted message. -/
def runtimeError {Value : Type} (code : ErrorCode) (path message : String) :
    Except RuntimeError Value :=
  .error ⟨code, path, message⟩

/-- A reported error ends the computation. -/
theorem error_bind {Value Result : Type} (error : RuntimeError)
    (next : Value → Except RuntimeError Result) :
    ((.error error : Except RuntimeError Value) >>= next) = .error error := rfl

/-! ## Allowlists -/

/-- One package-owned subtree below `etc`, `var` or a global root. -/
structure PathRule where
  path : String
  package : String
  writable : Bool := false
  required : Bool := false
deriving DecidableEq

/-! ## What a walk reports -/

/-- The permission bits and the special bits of a mode. -/
structure FileMode where
  perm : Nat
  setuid : Bool := false
  setgid : Bool := false
  sticky : Bool := false
deriving DecidableEq

/-- `mode.Perm() & 0o111 != 0`. -/
def FileMode.executable (mode : FileMode) : Bool := mode.perm &&& 0o111 ≠ 0

/-- The type of a visited file, with what the host read of it. -/
inductive FileKind where
  | directory
  | regular (content : Except String (List UInt8))
  | symlink (target : Except String String)
  | special (mode : String)

/-- One visited file.  The inode key is empty for a file with one name. -/
structure SourceFile where
  path : String
  kind : FileKind
  mode : FileMode
  size : Int := 0
  inode : String := ""
  securityXattrs : Except String Unit := .ok ()

/-- What the host reports of a source prefix: whether its root is a real
directory, and the visited files or the error that ended the walk. -/
structure Source where
  root : String
  rootIsDirectory : Except String Bool := .ok true
  walk : List (Except RuntimeError SourceFile)

/-! ## Entries -/

inductive EntryType where
  | directory
  | regular
  | symlink
  | hardlink
deriving DecidableEq

inductive PruneReason where
  | notAllowlisted
  | repository
  | brewExecutable
  | cache
  | log
  | managerState
  | formulaMetadata
  | receipt
  | packageSBOM
  | tooling
  | optionalTooling
  | runtimeBase
  | runtimeHeaders
  | runtimeDocs
  | runtimeBuild
  | runtimeTests
  | runtimeStatic
  | runtimeShell
  | runtimeShareDoc
deriving DecidableEq

/-- The reasons of the minimal runtime profile.  `runtimeShareDoc` is kept for the
evidence of older releases. -/
def PruneReason.isMinimal : PruneReason → Bool
  | .runtimeHeaders | .runtimeDocs | .runtimeBuild | .runtimeTests | .runtimeStatic
  | .runtimeShell | .runtimeShareDoc => true
  | _ => false

/-- The kinds of package-manager metadata that are exported before they are removed. -/
inductive MetadataKind where
  | homebrewMetadata
  | formula
  | packageManagerSBOM
  | installReceipt
deriving DecidableEq

def MetadataKind.text : MetadataKind → String
  | .homebrewMetadata => "homebrew_metadata"
  | .formula => "formula"
  | .packageManagerSBOM => "package_manager_sbom"
  | .installReceipt => "install_receipt"

/-- One path of the source prefix with what the scan has decided about it. -/
structure SourceEntry where
  rel : String
  typeName : EntryType
  mode : FileMode
  size : Int := 0
  sha256 : String := ""
  inode : String := ""
  linkSource : String := ""
  linkOutput : String := ""
  linkResolved : String := ""
  retain : Bool := false
  pruneReason : Option PruneReason := none
  metadataExport : Option MetadataKind := none
  packageName : String := ""
  writable : Bool := false
  statePath : Bool := false
  uid : Int := 0
  gid : Int := 0
  desiredMode : Nat := 0
  hardlinkTo : String := ""
deriving DecidableEq

structure MetadataExport where
  package : String
  kind : MetadataKind
  sourcePath : String
  sha256 : String
  size : Int
deriving DecidableEq

/-- A finished scan: the entries in the order of their paths. -/
structure SourceScan where
  entries : List SourceEntry
  metadata : List MetadataExport
deriving DecidableEq

namespace SourceScan

def retained (scan : SourceScan) : List SourceEntry := scan.entries.filter (·.retain)

def pruned (scan : SourceScan) : List SourceEntry := scan.entries.filter (!·.retain)

end SourceScan

/-- `byPath[rel]`. -/
def byPath (entries : List SourceEntry) (rel : String) : Option SourceEntry :=
  entries.find? (·.rel = rel)

variable {entries : List SourceEntry} {entry : SourceEntry}

theorem mem_of_byPath {rel : String} (found : byPath entries rel = some entry) : entry ∈ entries :=
  List.mem_of_find?_eq_some found

theorem rel_of_byPath {rel : String}
    (found : byPath entries rel = some entry) : entry.rel = rel := by
  simpa using List.find?_some found

theorem byPath_of_mem (distinct : (entries.map (·.rel)).Nodup)
    (member : entry ∈ entries) : byPath entries entry.rel = some entry := by
  induction entries with
  | nil => simp at member
  | cons head tail ih =>
    rw [List.map_cons, List.nodup_cons] at distinct
    rcases List.mem_cons.mp member with rfl | later
    · simp [byPath]
    · have other : head.rel ≠ entry.rel := by
        intro same
        exact distinct.1 (same ▸ List.mem_map_of_mem later)
      simpa [byPath, other] using ih distinct.2 later

end DalecHomebrew.RuntimeFS
