import DalecHomebrew.Foundation.Container
import DalecHomebrew.Foundation.Findings
import DalecHomebrew.Foundation.GoPath
import DalecHomebrew.Homebrew.FormulaID
import DalecHomebrew.Resolution.Types

/-!
# Bottle tabs of OCI images

The annotations of a bottle manifest that `internal/homebrew/oci` reads into a
resolution: the tab with its runtime dependencies and changed files, and the list
of executables.  The JSON decoder is a parameter.
-/

namespace DalecHomebrew.OCI

open Foundation Foundation.GoString Homebrew
open Resolution (BottleTab BuiltOn Platform RuntimeDependency)

def annotationBottleTab : String := "sh.brew.tab"
def annotationPathExecFiles : String := "sh.brew.path_exec_files"
def homebrewCoreRepository : String := "homebrew/core"

/-! ## Wire documents -/

/-- A runtime dependency as it is decoded; a missing `pkg_version` is no raw message. -/
structure RuntimeDependencyWire where
  fullName : String := ""
  version : String := ""
  revision : Int := 0
  bottleRebuild : Int := 0
  pkgVersion : Option String := none
  declaredDirectly : Bool := false
deriving DecidableEq

structure BottleTabWire where
  homebrewVersion : String := ""
  arch : String := ""
  compiler : String := ""
  changedFiles : List String := []
  builtOn : BuiltOn := {}
  dependencies : List RuntimeDependencyWire := []
deriving DecidableEq

/-- `decodeJSON` at the three types that a tab is read at. -/
structure TabCodec where
  fields : String → Except String (Table String String)
  tab : String → Except String BottleTabWire
  text : String → Except String String

/-! ## Names and versions -/

/-- The characters of `formulaNameRE` after the first one. -/
def isFormulaNameCharacter (character : Char) : Bool :=
  isLowerAlphaNumeric character || "@+._-".toList.contains character

def validateFormulaName (name : String) : Except String Unit := do
  if ¬ (name.toList.head?.any isLowerAlphaNumeric ∧
      name.toList.tail.all isFormulaNameCharacter) then
    throw ("invalid canonical Formula name " ++ quote name)
  if 1 < countChar name '@' ∨ hasSuffix name "@" then
    throw ("invalid versioned Formula name " ++ quote name)

def pkgVersion (version : String) (revision : Int) : Except String String := do
  if trimSpace version ≠ version ∨ version = "" then
    throw "version must be non-empty and have no surrounding whitespace"
  if containsAny version (String.ofList ['/', '\\', Char.ofNat 0, '\r', '\n', '\t', ' ']) then
    throw ("unsafe version " ++ quote version)
  if revision < 0 then throw ("negative Formula revision " ++ decimalInt revision)
  if revision = 0 then return version
  return version ++ "_" ++ decimalInt revision

def canonicalDependencyName (fullName : String) : Except String String := do
  let core := hasPrefix fullName (homebrewCoreRepository ++ "/")
  if !core ∧ containsChar fullName '/' then
    throw ("dependency " ++ quote fullName ++ " is outside homebrew/core")
  let name := if core then trimPrefix fullName (homebrewCoreRepository ++ "/") else fullName
  validateFormulaName name
  return name

def canonicalAuthenticatedDependencyName (fullName : String) : Except String String :=
  (parse fullName).map FormulaIdentity.string

/-! ## Path lists -/

/-- One more changed file; the ones before it are what `seen` holds. -/
def addChangedFile (out : List String) (value : String) : Except String (List String) :=
  if value = "" ∨ GoPath.isAbs value ∨ containsChar value '\\' ∨ GoPath.clean value ≠ value ∨
      value = "." ∨ hasPrefix value "../" then
    .error ("invalid changed_files path " ++ quote value)
  else if value ∈ out then .error ("duplicate changed_files path " ++ quote value)
  else .ok (out ++ [value])

def validateChangedFiles (values : List String) : Except String (List String) := do
  let out ← values.foldlM addChangedFile []
  return sortByKey id out

def addExecutablePath (result : List String) (item : String) : Except String (List String) :=
  if item = "" ∨ trimSpace item ≠ item ∨
      containsAny item (String.ofList ['\\', Char.ofNat 0, '\r', '\n']) ∨ GoPath.isAbs item ∨
      GoPath.clean item ≠ item ∨ item = "." ∨ item = ".." ∨ hasPrefix item "../" then
    .error ("invalid " ++ annotationPathExecFiles ++ " entry " ++ quote item)
  else if item ∈ result then
    .error ("duplicate " ++ annotationPathExecFiles ++ " entry " ++ quote item)
  else .ok (result ++ [item])

def parseExecutablePaths (value : String) : Except String (List String) := do
  if value = "" then return []
  let result ← (splitChar value ',').foldlM addExecutablePath []
  return sortByKey id result

/-! ## Tabs -/

section Parse

variable (codec : TabCodec) (canonicalizeDependency : String → Except String String)

/-- The version of a dependency: the derived one, which an annotated one has to equal. -/
def dependencyPkgVersion (name : String) (dependency : RuntimeDependencyWire) :
    Except String String := do
  let label := "runtime dependency " ++ quote name
  let expected ← withContext label (pkgVersion dependency.version dependency.revision)
  match dependency.pkgVersion with
  | none => return expected
  | some raw =>
    if trimSpace raw = "null" then throw (label ++ " pkg_version cannot be null")
    let annotated ← withContext (label ++ " pkg_version") (codec.text raw)
    if annotated ≠ expected then
      throw (label ++ " pkg_version " ++ quote annotated ++ ", expected " ++ quote expected)
    return annotated

/-- One more runtime dependency; the names before it are what `seen` holds. -/
def addRuntimeDependency (dependencies : List RuntimeDependency)
    (entry : RuntimeDependencyWire × Nat) :
    Except String (List RuntimeDependency) := do
  let name ← withContext ("runtime dependency " ++ decimal entry.2)
    (canonicalizeDependency entry.1.fullName)
  if dependencies.any fun earlier => earlier.fullName == name then
    throw ("duplicate runtime dependency " ++ quote name)
  let version ← dependencyPkgVersion codec name entry.1
  if entry.1.bottleRebuild < 0 then
    throw ("runtime dependency " ++ quote name ++ " has negative bottle rebuild")
  return dependencies ++ [{
    fullName := name, version := entry.1.version, revision := entry.1.revision,
    bottleRebuild := entry.1.bottleRebuild, pkgVersion := version,
    declaredDirectly := entry.1.declaredDirectly }]

def validateTabTarget (wire : BottleTabWire) (target : Platform) (allBottle : Bool) :
    Except String Unit :=
  let expectedArch := if target.architecture = "arm64" then "arm64" else "x86_64"
  if allBottle then
    if wire.arch ≠ "" ∨ wire.builtOn ≠ {} then
      .error ("all bottle " ++ annotationBottleTab ++ " must omit arch and built_on")
    else .ok ()
  else if wire.arch ≠ expectedArch then
    .error ("tab architecture " ++ quote wire.arch ++ ", expected " ++ quote expectedArch)
  else if wire.builtOn.os ≠ "Linux" then
    .error ("tab built_on OS " ++ quote wire.builtOn.os ++ ", expected Linux")
  else .ok ()

/-- The fields that a tab must have before it is decoded. -/
def validateTabFields (rawFields : Table String String) : Except String Unit := do
  if (rawFields.lookup "homebrew_version").isNone then
    throw (annotationBottleTab ++ " has no homebrew_version")
  if (rawFields.lookup "runtime_dependencies").isNone then
    throw (annotationBottleTab ++ " has no runtime_dependencies")
  if (rawFields.lookup "runtime_dependencies").map trimSpace = some "null" then
    throw (annotationBottleTab ++ " runtime_dependencies cannot be null")

/-- `parseBottleTabWith`. -/
def parseBottleTabWith (value : String) (target : Platform) (allBottle : Bool) :
    Except String BottleTab := do
  let rawFields ← withContext ("decode " ++ annotationBottleTab) (codec.fields value)
  validateTabFields rawFields
  let wire ← withContext ("decode " ++ annotationBottleTab) (codec.tab value)
  if isBlank wire.homebrewVersion then
    throw (annotationBottleTab ++ " has an empty homebrew_version")
  validateTabTarget wire target allBottle
  let dependencies ←
    wire.dependencies.zipIdx.foldlM (addRuntimeDependency codec canonicalizeDependency) []
  let changed ← validateChangedFiles wire.changedFiles
  return {
    homebrewVersion := wire.homebrewVersion, arch := wire.arch, compiler := wire.compiler,
    changedFiles := changed, builtOn := wire.builtOn,
    dependencies := sortByKey RuntimeDependency.fullName dependencies }

end Parse

def parseBottleTab (codec : TabCodec) : String → Platform → Bool → Except String BottleTab :=
  parseBottleTabWith codec canonicalDependencyName

def parseAuthenticatedBottleTab (codec : TabCodec) :
    String → Platform → Bool → Except String BottleTab :=
  parseBottleTabWith codec canonicalAuthenticatedDependencyName

/-! ## Accepted paths -/

variable {out next : List String} {value : String}

theorem normal_of_addChangedFile (kept : ∀ path ∈ out, GoPath.Normal path)
    (added : addChangedFile out value = .ok next) : ∀ path ∈ next, GoPath.Normal path := by
  simp only [addChangedFile, ite_error_eq_ok, not_or, not_not, Bool.not_eq_true,
    Except.ok.injEq] at added
  obtain ⟨⟨-, relative, -, clean, -, parent⟩, -, rfl⟩ := added
  exact List.forall_mem_append.mpr ⟨kept, List.forall_mem_singleton.mpr ⟨relative, clean, parent⟩⟩

variable {values result : List String}

/-- A successful loop over changed files collects them in order. -/
theorem foldlM_addChangedFile
    (loop : values.foldlM addChangedFile out = .ok result) : result = out ++ values := by
  have collected : result = out ++ ([] ++ values) :=
    foldlM_history (motive := fun seen next => next = out ++ seen) ?_ loop (by simp)
  · simpa using collected
  · rintro seen source item target rfl added
    simp only [addChangedFile, ite_error_eq_ok, Except.ok.injEq] at added
    rw [← added.2.2, List.append_assoc]

theorem validateChangedFiles_ok (valid : validateChangedFiles values = .ok result) :
    (∀ path ∈ result, GoPath.Normal path) ∧ ∀ path, path ∈ result ↔ path ∈ values := by
  simp only [validateChangedFiles, bind_eq_ok, pure_eq_ok] at valid
  obtain ⟨out, loop, rfl⟩ := valid
  have same := foldlM_addChangedFile loop
  rw [List.nil_append] at same
  subst same
  have normal : ∀ path ∈ out, GoPath.Normal path :=
    foldlM_preserves (motive := fun next : List String => ∀ path ∈ next, GoPath.Normal path)
      (fun _ _ _ _ => normal_of_addChangedFile) loop (by simp)
  exact ⟨fun path member => normal path (mem_sortByKey.mp member), fun path => mem_sortByKey⟩

theorem normal_of_addExecutablePath {item : String}
    (kept : ∀ path ∈ result, GoPath.Normal path ∧ path ≠ "..")
    (added : addExecutablePath result item = .ok next) :
    ∀ path ∈ next, GoPath.Normal path ∧ path ≠ ".." := by
  simp only [addExecutablePath, ite_error_eq_ok, not_or, not_not, Bool.not_eq_true,
    Except.ok.injEq] at added
  obtain ⟨⟨-, -, -, relative, clean, -, self, parent⟩, -, rfl⟩ := added
  exact List.forall_mem_append.mpr
    ⟨kept, List.forall_mem_singleton.mpr ⟨⟨relative, clean, parent⟩, self⟩⟩

theorem normal_of_parseExecutablePaths (parsed : parseExecutablePaths value = .ok result) :
    ∀ path ∈ result, GoPath.Normal path ∧ path ≠ ".." := by
  unfold parseExecutablePaths at parsed
  split at parsed
  · cases parsed
    simp
  simp only [bind_eq_ok, pure_eq_ok] at parsed
  obtain ⟨out, loop, rfl⟩ := parsed
  have normal : ∀ path ∈ out, GoPath.Normal path ∧ path ≠ ".." :=
    foldlM_preserves
      (motive := fun next : List String => ∀ path ∈ next, GoPath.Normal path ∧ path ≠ "..")
      (fun _ _ _ _ => normal_of_addExecutablePath) loop (by simp)
  exact fun path member => normal path (mem_sortByKey.mp member)

/-- The changed files of a parsed tab are the ones of its annotation. -/
theorem changedFiles_of_parseBottleTabWith {codec : TabCodec}
    {canonicalize : String → Except String String} {target : Platform}
    {allBottle : Bool} {tab : BottleTab}
    (parsed : parseBottleTabWith codec canonicalize value target allBottle = .ok tab) :
    ∃ wire, codec.tab value = .ok wire ∧
      validateChangedFiles wire.changedFiles = .ok tab.changedFiles := by
  simp only [parseBottleTabWith, bind_eq_ok, throw_bind, withContext_eq_ok, ite_error_eq_ok,
    pure_eq_ok] at parsed
  obtain ⟨rawFields, -, _, -, wire, read, -, _, -, dependencies, -, changed, valid, rfl⟩ := parsed
  exact ⟨wire, read, valid⟩

end DalecHomebrew.OCI
