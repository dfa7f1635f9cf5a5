import DalecHomebrew.Foundation.GoPath
import DalecHomebrew.RuntimeFS.Types

/-!
# Path predicates of the runtime file system

What `internal/runtimefs` decides from a path alone: whether it is a safe relative
path, whether it belongs to the package manager, whether it names a legal text,
and which removable class of the minimal profile it is in.
-/

namespace DalecHomebrew.RuntimeFS

open Foundation Foundation.GoString Foundation.GoPath

def firstSegment (value : String) : String :=
  (splitChar value '/').headD ""

def isWithin (candidate root : String) : Bool :=
  candidate = root ∨ hasPrefix candidate (root ++ "/") = true

def validateRelativePath (rel : String) : Except String Unit := do
  if rel = "" ∨ rel = "." ∨ isAbs rel = true then
    throw "path is not a non-empty relative path"
  if containsChar rel (Char.ofNat 0) then
    throw "path is not valid UTF-8 text"
  if rel.toList.any fun character => character.toNat < 0x20 ∨ character.toNat = 0x7f then
    throw "path contains a control character"
  if clean rel ≠ rel ∨ clean rel = ".." ∨ hasPrefix (clean rel) "../" = true then
    throw ("path " ++ quote rel ++ " is not normalized or escapes the prefix")

def validatePathComponent (value : String) : Except String Unit := do
  if value = "" ∨ value = "." ∨ value = ".." ∨ containsAny value "/\\" = true then
    throw "value is not a safe path component"
  validateRelativePath value

/-! ## The package manager's own paths -/

def looksLikeSBOM (base : String) : Bool :=
  let base := toLower base
  containsText base "sbom" || hasSuffix base ".spdx.json" || hasSuffix base ".cdx.json" ||
    hasSuffix base ".cyclonedx.json"

/-- The paths that are pruned whatever the allowlist says, with the kind of
metadata that is exported for them. -/
def forcedPrune (rel : String) : Option (PruneReason × Option MetadataKind) :=
  let lower := toLower rel
  let base := toLower (base rel)
  let parts := splitChar rel '/'
  if ["Homebrew", "Library", ".git"].any (isWithin rel) then some (.repository, none)
  else if rel = "bin/brew" ∨ rel = "sbin/brew" then some (.brewExecutable, none)
  else if [".cache", "cache", "var/cache"].any (isWithin rel) then some (.cache, none)
  else if ["logs", "var/log/homebrew"].any (isWithin rel) then some (.log, none)
  else if ["var/homebrew", "var/run/homebrew", "var/locks/homebrew", "Caskroom"].any (isWithin rel)
  then some (.managerState, none)
  else if
    ["share/doc/homebrew", "share/info/dir", "share/man/man1/brew.1",
      "share/zsh/site-functions/_brew",
      "share/fish/vendor_completions.d/brew.fish",
      "share/bash-completion/completions/brew",
      "etc/bash_completion.d/brew"].any (isWithin rel)
  then some (.managerState, none)
  else if
    rel ∈ ["libexec/dalec-homebrew-materializer", "libexec/dalec-homebrew-test-runner",
      "libexec/dalec-homebrew-record-verify"]
  then some (.tooling, none)
  else if isWithin rel "share/dalec-homebrew-tools" then some (.tooling, none)
  else if 4 ≤ parts.length ∧ parts.head? = some "Cellar" ∧ parts[3]? = some ".brew" then
    if hasSuffix lower ".rb" then some (.formulaMetadata, some .formula)
    else if looksLikeSBOM base then some (.packageSBOM, some .packageManagerSBOM)
    else some (.formulaMetadata, some .homebrewMetadata)
  else if parts.length = 4 ∧ parts.head? = some "Cellar" ∧
      equalFold (parts[3]?.getD "") "INSTALL_RECEIPT.json" then
    some (.receipt, some .installReceipt)
  else none

def pointsToManagerState (rel : String) : Bool :=
  rel = "bin/brew" || rel = "sbin/brew" || isWithin rel "Homebrew" || isWithin rel "Library" ||
    isWithin rel "var/homebrew"

/-- The system dynamic loader of the runtime base image. -/
def runtimeBaseLoaderTarget (architecture : String) : Except String String :=
  if architecture = "amd64" then .ok "/lib64/ld-linux-x86-64.so.2"
  else if architecture = "arm64" then .ok "/lib/ld-linux-aarch64.so.1"
  else .error ("unsupported runtime loader architecture " ++ quote architecture)

/-! ## Legal texts -/

/-- Whether what follows a legal name reads as a separator or as a version. -/
def legalTextSuffix (suffix : String) : Bool :=
  match suffix.toList with
  | [] => true
  | first :: others =>
    if first = '.' ∨ first = '-' ∨ first = '_' then true
    else
      let rest := if first = 'v' ∧ others ≠ [] then others else first :: others
      let after := rest.dropWhile isDigit
      rest.length ≠ after.length ∧
        (after = [] ∨ after.head? = some '.' ∨ after.head? = some '-' ∨ after.head? = some '_')

def legalFamilyTextSuffix (suffix : String) : Bool :=
  if suffix = "" then true
  else
    let extensions :=
      [".txt", ".md", ".markdown", ".rst", ".adoc", ".html", ".htm", ".1", ".3", ".5", ".7"]
    let stripped :=
      match extensions.find? (hasSuffix suffix) with
      | some extension => trimSuffix suffix extension
      | none => suffix
    if stripped = "" then true
    else
      let separated :=
        if hasPrefix stripped "-" || hasPrefix stripped "_" then
          String.ofList (stripped.toList.drop 1)
        else stripped
      let family := trimPrefix (trimPrefix separated "license-") "licence-"
      if family = "license" ∨ family = "licence" then true
      else
        let version :=
          if 1 < family.toList.length ∧ family.toList.head? = some 'v' then family.toList.drop 1
          else family.toList
        let number := version.takeWhile fun character => isDigit character || character = '.'
        let rest := String.ofList (version.drop number.length)
        if number = [] ∨ number.head? = some '.' ∨ number.getLast? = some '.' ∨
            containsText (String.ofList number) ".." = true then false
        else
          rest ∈ ["", "+", "-only", "-or-later", "-clause", "-clause-clear", "-simplified", "-new",
            "-old", "-with-autoconf-exception", "-with-classpath-exception",
            "-with-gcc-exception", "-with-llvm-exception"]

def legalContainerNames : List String :=
  ["license", "licenses", "licence", "licences", "copying", "notice", "notices",
    "copyright", "copyrights",
    "patent", "patents",
    "unlicense", "unlicenses", "unlicence", "unlicences",
    "legal", "eula", "eulas",
    "author", "authors", "contributor", "contributors", "credits",
    "disclaimer", "disclaimers", "trademark", "trademarks",
    "third_party_notice", "third_party_notices", "third-party-notice", "third-party-notices",
    "thirdpartynotice", "thirdpartynotices",
    "third_party_license", "third_party_licenses", "third-party-license", "third-party-licenses",
    "thirdpartylicense", "thirdpartylicenses",
    "third_party_licence", "third_party_licences", "third-party-licence", "third-party-licences",
    "thirdpartylicence", "thirdpartylicences"]

def legalFamilies : List String :=
  ["perlgpl", "perlartistic",
    "agpl", "apache", "artistic", "bsd", "bsl", "cc0", "cddl", "epl", "eupl", "gpl", "isc", "lgpl",
    "mit", "mpl", "ofl", "openssl", "unicode", "wtfpl", "zlib", "zpl"]

/-- Whether a name is one of the given names followed by an accepted suffix. -/
def namesWithSuffix (names : List String) (accepts : String → Bool) (base : String) : Bool :=
  names.any fun name =>
    let suffix := trimPrefix base name
    suffix ≠ base ∧ accepts suffix = true

def looksLikeLegalContainer (component : String) : Bool :=
  let base := toLower (base component)
  legalContainerNames.contains base || namesWithSuffix legalContainerNames legalTextSuffix base

def looksLikeLegalText (filename : String) : Bool :=
  let base := toLower (base filename)
  looksLikeLegalContainer base || namesWithSuffix legalFamilies legalFamilyTextSuffix base

def pathContainsLegalText (rel : String) : Bool :=
  let components := splitChar rel '/'
  components.dropLast.any looksLikeLegalContainer ||
    components.getLast?.any looksLikeLegalText

/-! ## The classes of the minimal profile -/

variable (rel : String)

/-- The path inside its keg, for a path of the Cellar. -/
def cellarKegSubpath : Option String :=
  let parts := splitChar rel '/'
  if parts.length < 4 ∨ parts.head? ≠ some "Cellar" then none else some (join (parts.drop 3) "/")

def formulaShareDocRuntimePath : Bool :=
  isWithin rel "share/doc" || (cellarKegSubpath rel).any fun sub => isWithin sub "share/doc"

def minimalRuntimeProtectedDataPath : Bool :=
  (splitChar rel '/').any fun component =>
    toLower component ∈
      ["libexec", "etc", "conf", "config", "configuration", "locale", "locales", "site-packages",
        "ensurepip", "venv", "plugin", "plugins", "node_modules"]

def sharedObjectRuntimePath : Bool :=
  let base := toLower (base rel)
  hasSuffix base ".so" || containsText base ".so."

def minimalRuntimeAlwaysRetainedPath : Bool :=
  pathContainsLegalText rel || formulaShareDocRuntimePath rel ||
    minimalRuntimeProtectedDataPath rel || sharedObjectRuntimePath rel

def buildMetadataRoots : List String :=
  ["lib/pkgconfig", "share/pkgconfig", "lib/cmake", "share/cmake", "share/aclocal"]

def shellCompletionRuntimePath : Bool :=
  ["share/bash-completion/completions", "share/fish/vendor_completions.d",
    "share/zsh/site-functions"].any (isWithin rel)

def staticArchiveRuntimePath : Bool :=
  equalFold (ext rel) ".a" && hasPrefix rel "lib/" && !minimalRuntimeProtectedDataPath rel

def staticArchiveAliasRuntimePath : Bool :=
  !minimalRuntimeProtectedDataPath rel &&
    (staticArchiveRuntimePath rel || (cellarKegSubpath rel).any staticArchiveRuntimePath)

def headerAliasRuntimePath : Bool :=
  isWithin rel "include" || (cellarKegSubpath rel).any fun sub => isWithin sub "include"

def pythonStdlibTestRootForFormulaID (formulaID : String) : Option String :=
  if formulaID = "homebrew/core/python@3.13" then some "lib/python3.13/test"
  else if formulaID = "homebrew/core/python@3.14" then some "lib/python3.14/test"
  else none

end DalecHomebrew.RuntimeFS
