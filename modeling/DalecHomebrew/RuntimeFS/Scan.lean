import DalecHomebrew.Foundation.LinkWalk
import DalecHomebrew.RuntimeFS.Policy
import Mathlib

/-!
# Scanning a source prefix

The first half of `scanAndPlan` of `internal/runtimefs`: the walk over the source
prefix, the decision by path which entries are retained, the links, and the
packages that own the entries.

The source keeps pointers to mutable entries.  Here a pass over the entries is a
function on the list of entries, which is sorted by path and has no path twice.
-/

namespace DalecHomebrew.RuntimeFS

open Foundation Foundation.GoString Foundation.GoPath
open Resolution (Node Record)

/-- What the scan takes from outside: the embedded policy, the hash, the host's
links and the identity checks of exported metadata files, which read them again. -/
structure HostLibrary extends PolicyLibrary where
  sha256 : List UInt8 → String
  evalSymlinks : String → Option String
  validateReceiptIdentity : SourceEntry → Option Node → List Node → Except String Unit
  validateFormulaIdentity : SourceEntry → String → Except String Unit

/-- The UTF-8 bytes of a text. -/
def textBytes (value : String) : List UInt8 := value.toUTF8.toList

/-- An error of a helper, reported with a code and a path. -/
def reportAs {Value : Type} (code : ErrorCode) (path context : String) :
    Except String Value → Except RuntimeError Value
  | .error cause => runtimeError code path (context ++ cause)
  | .ok value => .ok value

@[simp]
theorem reportAs_eq_ok {Value : Type} {code : ErrorCode} {path context : String}
    {result : Except String Value} {value : Value} :
    reportAs code path context result = .ok value ↔ result = .ok value := by
  cases result <;> simp [reportAs, runtimeError]

/-! ## The walk -/

def classifyMode : FileKind → Except String EntryType
  | .directory => .ok .directory
  | .regular _ => .ok .regular
  | .symlink _ => .ok .symlink
  | .special mode => .error ("special file mode " ++ mode ++ " is forbidden")

/-- The entry with what was read of the file: the digest of its content or its link
target. -/
def readEntry (library : HostLibrary) (entry : SourceEntry) :
    FileKind → Except RuntimeError SourceEntry
  | .regular content => do
      let content ← reportAs .unsafeSource entry.rel "hash source: " content
      return { entry with sha256 := library.sha256 content, size := content.length }
  | .symlink target => do
      let target ← reportAs .unsafeLink entry.rel "read symlink: " target
      if containsChar target (Char.ofNat 0) = true ∨ target = "" then
        runtimeError .unsafeLink entry.rel "empty or NUL-containing target"
      else
        return { entry with
          linkSource := target
          size := byteLength target
          sha256 := library.sha256 (textBytes target) }
  | _ => .ok entry

/-- The entry of one visited file. -/
def scanFile (library : HostLibrary) (file : SourceFile) : Except RuntimeError SourceEntry := do
  reportAs .unsafeSource file.path "" (validateRelativePath file.path)
  let typeName ← reportAs .unsafeType file.path "" (classifyMode file.kind)
  if file.mode.setuid = true ∨ file.mode.setgid = true then
    runtimeError .unsafeMode file.path "setuid or setgid mode is forbidden"
  reportAs .unsafeXAttr file.path "" file.securityXattrs
  readEntry library
    { rel := file.path, typeName, mode := file.mode, size := file.size, inode := file.inode }
    file.kind

/-- One call of the function that walks the source prefix. -/
def visit (library : HostLibrary) (entries : List SourceEntry)
    (visited : Except RuntimeError SourceFile) : Except RuntimeError (List SourceEntry) := do
  let file ← visited
  let entry ← scanFile library file
  if (byPath entries entry.rel).isSome then
    runtimeError .unsafeSource entry.rel "duplicate normalized path"
  else return entries ++ [entry]

/-- The walk, and the entries in the order of their paths. -/
def walkSource (library : HostLibrary) (source : Source) :
    Except RuntimeError (List SourceEntry) := do
  let directory ← reportAs .unsafeSource "" "stat source prefix: " source.rootIsDirectory
  if directory = false then
    runtimeError .unsafeSource "" "source prefix must be a real directory"
  let entries ← source.walk.foldlM (visit library) []
  return sortByKey (·.rel) entries

/-! ## Retention by path -/

/-- A package rule of the embedded policy, or what the record of a V1 resolution
says. -/
def runtimeFSRule (library : PolicyLibrary) (node : Node) (rule : String) (legacy : Bool) : Bool :=
  if node.policyFormulaID ≠ "" then library.hasEmbeddedRule node.policyFormulaID rule else legacy

/-- The dynamic loader of the prefix: provided by the runtime base, or brewed. -/
def classifyLoader (library : PolicyLibrary) (policy : NormalizedPolicy) (entry : SourceEntry) :
    Except RuntimeError SourceEntry := do
  let expected ← reportAs .invalidRecord entry.rel "" (runtimeBaseLoaderTarget policy.architecture)
  if entry.typeName ≠ .symlink then
    runtimeError .unsafeLink entry.rel "runtime loader path must be a symlink"
  else if entry.linkSource = expected then
    return { entry with pruneReason := some .runtimeBase }
  else
    let brewed := (policy.nodes.lookup "glibc").any fun glibc =>
      runtimeFSRule library glibc "brewed-loader"
        (glibc.name = "glibc" ∧ glibc.fullName = "homebrew/core/glibc")
    if brewed = false ∨ entry.linkSource ≠ pathJoin [policy.installPrefix, "opt/glibc/bin/ld.so"] then
      runtimeError .unsafeLink entry.rel
        ("runtime loader target " ++ quote entry.linkSource ++ " does not match base target " ++
          quote expected)
    else return { entry with retain := policy.allowlist.lib }

def classifyCellar (policy : NormalizedPolicy) (entry : SourceEntry) :
    Except RuntimeError SourceEntry :=
  let retained := { entry with retain := policy.allowlist.cellar }
  match splitChar entry.rel '/' with
  | _ :: rack :: rest =>
    match policy.nodes.lookup rack with
    | none =>
      runtimeError .unexpectedKeg entry.rel
        ("rack " ++ quote rack ++ " is not in the resolution closure")
    | some node =>
      if rest.head?.any (· ≠ node.pkgVersion) then
        runtimeError .unexpectedKeg entry.rel
          ("keg version " ++ quote (rest.headD "") ++ " does not match resolved " ++
            quote node.pkgVersion)
      else .ok { retained with packageName := node.name }
  | _ => .ok retained

def classifyOpt (policy : NormalizedPolicy) (entry : SourceEntry) :
    Except RuntimeError SourceEntry :=
  let retained := { entry with retain := policy.allowlist.opt }
  match splitChar entry.rel '/' with
  | _ :: name :: _ =>
    match policy.nodes.lookup name with
    | none =>
      runtimeError .unexpectedKeg entry.rel
        ("opt entry " ++ quote name ++ " is not in the resolution closure")
    | some node => .ok { retained with packageName := node.name }
  | _ => .ok retained

/-- Below `etc` and `var` the rules decide; a directory above a rule is retained
without an owner. -/
def classifyState (rules : List NormalizedRule) (entry : SourceEntry) (writes : Bool) :
    SourceEntry :=
  match matchingRule entry.rel rules with
  | some rule =>
    { entry with
      statePath := true
      retain := true
      packageName := rule.package
      writable := writes && rule.writable }
  | none => { entry with statePath := true, retain := isRuleAncestor entry.rel rules }

def classifyRoot (policy : NormalizedPolicy) (entry : SourceEntry) :
    Except RuntimeError SourceEntry :=
  let root := firstSegment entry.rel
  if root = "Cellar" then classifyCellar policy entry
  else if root = "opt" then classifyOpt policy entry
  else if root ∈ ["bin", "sbin", "lib", "share"] then
    .ok { entry with retain := globalRootEnabled root policy.allowlist }
  else if root = "etc" then .ok (classifyState policy.allowlist.etc.rules entry false)
  else if root = "var" then .ok (classifyState policy.allowlist.var.rules entry true)
  else .ok entry

def classifyRetention (library : PolicyLibrary) (policy : NormalizedPolicy) (entry : SourceEntry) :
    Except RuntimeError SourceEntry :=
  if entry.rel = "lib/ld.so" then classifyLoader library policy entry
  else
    match forcedPrune entry.rel with
    | some (reason, kind) =>
      .ok { entry with
        pruneReason := some reason
        metadataExport := kind
        packageName := packageFromCellarPath entry.rel policy.nodes.table }
    | none => do
        let classified ← classifyRoot policy entry
        return if classified.retain then classified
          else { classified with pruneReason := some .notAllowlisted }

/-! ## The expected layout -/

def validateKeg (entries : List SourceEntry) (node : Node) : Except RuntimeError Unit := do
  let keg := pathJoin ["Cellar", node.name, node.pkgVersion]
  if (byPath entries keg).all (fun entry => entry.typeName ≠ .directory ∨ entry.retain = false) then
    runtimeError .missingKeg keg "resolved keg directory is absent"
  let optPath := pathJoin ["opt", node.name]
  if (byPath entries optPath).all (fun opt => opt.typeName ≠ .symlink ∨ opt.retain = false) then
    runtimeError .invalidOptLink optPath "resolved opt link is absent or is not a symlink"

def validateRequiredRule (entries : List SourceEntry) (rule : NormalizedRule) :
    Except RuntimeError Unit := do
  if rule.required then
    if (byPath entries rule.path).all (·.retain = false) then
      runtimeError .invalidOptions rule.path "required allowlist path is absent"
    if rule.writable = true ∧ (byPath entries rule.path).any (·.typeName ≠ .directory) then
      runtimeError .invalidOptions rule.path "writable path root must be a directory"

def validateExpectedLayout (record : Record) (policy : NormalizedPolicy)
    (entries : List SourceEntry) :
    Except RuntimeError Unit := do
  record.nodes.forM (validateKeg entries)
  (policy.allowlist.etc.rules ++ policy.allowlist.var.rules ++ policy.allowlist.owners.rules).forM
    (validateRequiredRule entries)

/-! ## Links -/

/-- The target of a link relative to the prefix, and the target to write. -/
def normalizeLinkTarget (library : HostLibrary) (rel target sourceRoot installPrefix : String) :
    Except String (String × String) := do
  if isAbs target then
    let cleaned := clean target
    if cleaned = installPrefix then throw "target resolves to prefix root"
    else if hasPrefix cleaned (installPrefix ++ "/") then
      let relTarget := trimPrefix cleaned (installPrefix ++ "/")
      validateRelativePath relTarget
      return (relTarget, cleaned)
    else
      let host := (library.evalSymlinks cleaned).getD cleaned
      if sourceRoot ≠ "" ∧ hasPrefix host (sourceRoot ++ "/") = true then
        let relTarget := trimPrefix host (sourceRoot ++ "/")
        validateRelativePath relTarget
        return (relTarget, pathJoin [installPrefix, relTarget])
      else throw ("absolute target " ++ quote target ++ " escapes install prefix")
  else
    let cleanTarget := clean target
    let resolved := clean (pathJoin [dir rel, cleanTarget])
    match validateRelativePath resolved with
    | .error cause => throw ("target " ++ quote target ++ " escapes install prefix: " ++ cause)
    | .ok () => return (resolved, cleanTarget)

/-- An entry as a node of the tree that links are resolved in. -/
def linkNode (entry : SourceEntry) : LinkWalk.Node :=
  match entry.typeName with
  | .directory => .directory
  | .symlink => .link (splitChar entry.linkResolved '/')
  | .regular | .hardlink => .file

/-- The failure of a resolution, reported for the path it was started from. -/
def linkFailure (rel : String) : LinkWalk.Failure → RuntimeError
  | .escapes => ⟨.unsafeLink, rel, "target escapes prefix"⟩
  | .barred path => ⟨.danglingLink, rel, "required path " ++ quote path ++ " is pruned"⟩
  | .notDirectory path => ⟨.danglingLink, rel, "component " ++ quote path ++ " is not a directory"⟩
  | .cycle path => ⟨.unsafeLink, rel, "symlink cycle through " ++ quote path⟩

variable (entries : List SourceEntry)

/-- The path that a resolution in the scanned tree ends at. -/
def resolveLink (rel : String) : Except LinkWalk.Failure (String × List String) :=
  LinkWalk.resolve (fun path => (byPath entries path).map linkNode) rel

/-- The end of a resolution, which has to be a retained entry. -/
def retainedTarget (rel resolved : String) : Except RuntimeError SourceEntry :=
  match byPath entries resolved with
  | some entry =>
    if entry.retain then .ok entry
    else runtimeError .danglingLink rel
      ("target " ++ quote resolved ++ " is absent or pruned")
  | none => runtimeError .danglingLink rel ("target " ++ quote resolved ++ " is absent or pruned")

/-- The entry at the end of a link.  The source returns its path. -/
def finalLinkTarget (rel : String) : Except RuntimeError SourceEntry :=
  match resolveLink entries rel with
  | .error failure => .error (linkFailure rel failure)
  | .ok (resolved, _) => retainedTarget entries rel resolved

def normalizeLink (library : HostLibrary) (sourceRoot : String) (policy : NormalizedPolicy)
    (entry : SourceEntry) :
    Except RuntimeError SourceEntry :=
  if entry.typeName ≠ .symlink ∨ entry.pruneReason = some .runtimeBase then .ok entry
  else do
    let (resolved, output) ← reportAs .unsafeLink entry.rel ""
      (normalizeLinkTarget library entry.rel entry.linkSource sourceRoot policy.installPrefix)
    let linked := { entry with linkResolved := resolved, linkOutput := output }
    return if linked.retain = true ∧ pointsToManagerState resolved = true then
      { linked with retain := false, pruneReason := some .managerState }
    else linked

/-- Every retained link ends at a retained entry. -/
def validateRetainedLinks : Except RuntimeError Unit :=
  entries.forM fun entry => do
    if entry.retain = true ∧ entry.typeName = .symlink then
      let _ ← finalLinkTarget entries entry.rel

/-- The `opt` link of a package ends at its keg. -/
def validateOptLink (name : String) (node : Node) : Except RuntimeError Unit := do
  let optPath := pathJoin ["opt", name]
  if (byPath entries optPath).all (·.retain = false) then
    runtimeError .invalidOptLink optPath "resolved opt link was pruned"
  let expected := pathJoin ["Cellar", name, node.pkgVersion]
  let final ← finalLinkTarget entries optPath
  if final.rel ≠ expected then
    runtimeError .invalidOptLink optPath
      ("target " ++ quote final.rel ++ " does not resolve to " ++ quote expected)

def normalizeLinks (library : HostLibrary) (sourceRoot : String) (policy : NormalizedPolicy)
    (entries : List SourceEntry) :
    Except RuntimeError (List SourceEntry) := do
  let linked ← entries.mapM (normalizeLink library sourceRoot policy)
  validateRetainedLinks linked
  policy.nodes.table.entries.forM fun entry => validateOptLink linked entry.1 entry.2
  return linked

/-! ## Attribution -/

/-- A regular file of a keg: its package and the path inside the keg. -/
structure KegFile where
  package : String
  sub : String
  inode : String
  digest : String
  executable : Bool
deriving DecidableEq

variable (policy : NormalizedPolicy)

def isMinimal : Bool :=
  policy.allowlist.pruningProfile = Resolution.runtimeProfileMinimalV1

/-- The entries of a keg belong to its package. -/
def attributeKegEntry (entry : SourceEntry) : SourceEntry :=
  match kegLocation entry.rel policy.nodes with
  | some (package, _) =>
    if entry.retain = true ∧ (entry.typeName = .regular ∨ isMinimal policy = true) then
      { entry with packageName := package }
    else entry
  | none => entry

/-- The retained regular files of the kegs. -/
def kegFiles (entries : List SourceEntry) : List KegFile :=
  entries.filterMap fun entry =>
    if entry.retain = true ∧ entry.typeName = .regular then
      (kegLocation entry.rel policy.nodes).map fun (package, sub) =>
        { package, sub, inode := entry.inode, digest := entry.sha256,
          executable := entry.mode.executable }
    else none

/-- The value that all elements share, if there is exactly one. -/
def onePackage (packages : List String) : String :=
  match packages.dedup with
  | [package] => package
  | _ => ""

/-- The package whose keg has the same file at the same path. -/
def packageForGlobalCopy (files : List KegFile) (entry : SourceEntry) : String :=
  onePackage ((files.filter fun file =>
    file.sub = entry.rel ∧ file.digest = entry.sha256 ∧
      file.executable = entry.mode.executable).map (·.package))

/-- A regular file outside the kegs belongs to the package whose keg file it is a
hard link or a copy of, or to the package of an owner rule. -/
def attributeFile (files : List KegFile) (entry : SourceEntry) : SourceEntry :=
  if entry.retain = false ∨ entry.typeName = .directory ∨ entry.typeName = .symlink ∨
      entry.packageName ≠ "" then entry
  else
    let linked :=
      if entry.inode ≠ "" then
        onePackage ((files.filter (·.inode = entry.inode)).map (·.package))
      else ""
    let copied :=
      if linked = "" ∧ entry.typeName = .regular then packageForGlobalCopy files entry else linked
    let owned :=
      if copied = "" ∧ entry.typeName = .regular then
        ((matchingRule entry.rel policy.allowlist.owners.rules).map (·.package)).getD ""
      else copied
    { entry with packageName := owned }

/-- A link outside the kegs belongs to the package of what it ends at.  Only links
are given an owner in this pass and no resolution ends at a link, so that all
of them can be looked up in the entries before the pass. -/
def attributeLink (entry : SourceEntry) : Except RuntimeError SourceEntry :=
  if entry.retain = false ∨ entry.typeName ≠ .symlink ∨ entry.packageName ≠ "" then .ok entry
  else do
    let final ← finalLinkTarget entries entry.rel
    return { entry with packageName := final.packageName }

def validateAttribution (entry : SourceEntry) : Except RuntimeError Unit := do
  if entry.retain = true ∧ entry.typeName ≠ .directory ∧ entry.packageName = "" then
    runtimeError .unattributed entry.rel
      "retained non-directory path cannot be attributed to the resolution closure"

def attributeDirectory (entry : SourceEntry) : SourceEntry :=
  if entry.retain = false ∨ entry.typeName ≠ .directory ∨ entry.packageName ≠ "" then entry
  else if packageFromCellarPath entry.rel policy.nodes.table ≠ "" then
    { entry with packageName := packageFromCellarPath entry.rel policy.nodes.table }
  else
    match matchingRule entry.rel (policy.allowlist.etc.rules ++ policy.allowlist.var.rules) with
    | some rule => { entry with packageName := rule.package }
    | none => entry

def attributeEntries (entries : List SourceEntry) : Except RuntimeError (List SourceEntry) := do
  let files := kegFiles policy entries
  let attributed := (entries.map (attributeKegEntry policy)).map (attributeFile policy files)
  let linked ← attributed.mapM (attributeLink attributed)
  linked.forM validateAttribution
  return linked.map (attributeDirectory policy)

/-! ## Optional tooling -/

def optionalLLVMGlobalExecutables : List String :=
  ["bin/analyze-build", "bin/git-clang-format", "bin/hmaptool", "bin/intercept-build",
    "bin/run-clang-tidy", "bin/scan-build-py", "bin/scan-view"]

def optionalDependencyTooling (library : PolicyLibrary) (node : Node) (rel : String) : Bool :=
  if rel = "bin/psl-make-dafsa" then
    runtimeFSRule library node "optional-libpsl-tooling"
      (node.name = "libpsl" ∧ node.fullName = "homebrew/core/libpsl")
  else if rel ∉ optionalLLVMGlobalExecutables then false
  else
    runtimeFSRule library node "optional-llvm-tooling"
      ((node.name = "llvm" ∨ hasPrefix node.name "llvm@" = true) ∧
        node.fullName = "homebrew/core/" ++ node.name)

/-- Leaves out a global link to optional tooling of a package that was not asked for. -/
def pruneOptionalLink (library : PolicyLibrary) (policy : NormalizedPolicy) (entry : SourceEntry) :
    SourceEntry :=
  let optional := (policy.nodes.lookup entry.packageName).any fun node =>
    optionalDependencyTooling library node entry.rel
  if entry.retain = true ∧ entry.typeName = .symlink ∧ optional = true ∧
      entry.packageName ∉ policy.requested then
    { entry with retain := false, pruneReason := some .optionalTooling }
  else entry

def pruneOptionalDependencyTooling (library : PolicyLibrary) (policy : NormalizedPolicy)
    (entries : List SourceEntry) :
    List SourceEntry :=
  entries.map (pruneOptionalLink library policy)

end DalecHomebrew.RuntimeFS
