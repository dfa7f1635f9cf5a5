import Mathlib.Data.List.Basic

/-!
# The release-bound tap policy

The prebuilt-archive authorizations of `policy/v2`.  The embedded policy
document is one value of these types; the results are about every policy.
-/

namespace DalecHomebrew.Policy

structure PrebuiltArchivePlatformPolicy where
  platform : String
  url : String
  sha256 : String

structure PrebuiltArchiveMemberPolicy where
  path : String
  type : String
  mode : String

structure PrebuiltArchiveConstraints where
  format : String
  singleGzipMember : Bool
  maxCompressedBytes : Int
  maxExpandedBytes : Int
  maxExpansionRatio : Int
  maxEntries : Int
  maxFileBytes : Int
  maxDepth : Int
  maxPathBytes : Int
  members : List PrebuiltArchiveMemberPolicy

structure PrebuiltArchiveInstallPolicy where
  source : String
  destination : String
  mode : String

structure PrebuiltBinaryMachinePolicy where
  platform : String
  machine : String

structure PrebuiltBinaryPolicy where
  format : String
  machines : List PrebuiltBinaryMachinePolicy
  linkage : String
  interpreter : String
  neededLibraries : List String
  rpath : String
  writableExecutableSegments : String
  goModule : String
  cgoEnabled : Option Bool

/-- An exact authorization to derive a bottle from one upstream archive. -/
structure PrebuiltArchivePolicy where
  formulaID : String
  policyVersion : String
  version : String
  formulaSourceDigest : String
  license : String
  rootOnly : Bool
  requireNoBottle : Bool
  dependencies : List String
  platforms : List PrebuiltArchivePlatformPolicy
  archive : PrebuiltArchiveConstraints
  install : PrebuiltArchiveInstallPolicy
  binary : PrebuiltBinaryPolicy

/-- The part of `TapPolicy` that decides about prebuilt archives. -/
structure TapPolicy where
  prebuiltArchives : List PrebuiltArchivePolicy

/-- `TapPolicy.PrebuiltArchiveForFormula`: the exact identity, and no fallback. -/
def TapPolicy.prebuiltArchiveForFormula (policy : TapPolicy) (id : String) :
    Option PrebuiltArchivePolicy :=
  policy.prebuiltArchives.find? fun archive => archive.formulaID == id

/-- The only entry of `prebuilt_archives` in the embedded `tap-policy.json`. -/
def embeddedPrebuiltArchive : PrebuiltArchivePolicy where
  formulaID := "sozercan/repo/a365"
  policyVersion := "prebuilt-derived-bottle-v1"
  version := "0.3.3"
  formulaSourceDigest := "sha256:d6c00086e77905de6f2c93c59ff2b560101925dc77a1f3094468fd154a89e997"
  license := "MIT"
  rootOnly := true
  requireNoBottle := true
  dependencies := []
  platforms := [
    { platform := "linux/amd64"
      url := "https://github.com/sozercan/a365cli/releases/download/v0.3.3/" ++
        "a365_0.3.3_linux_amd64.tar.gz"
      sha256 := "sha256:71461c31e350cabf4e718a5e1331b39a395a6dc9183bb3ea5922f0fac67404ce" },
    { platform := "linux/arm64"
      url := "https://github.com/sozercan/a365cli/releases/download/v0.3.3/" ++
        "a365_0.3.3_linux_arm64.tar.gz"
      sha256 := "sha256:fe7e6b2efa8bab9b804e401e3664dcb6adbb4e2cdcf7d2049b05e645f3eccc83" }]
  archive := {
    format := "tar+gzip"
    singleGzipMember := true
    maxCompressedBytes := 33554432
    maxExpandedBytes := 67108864
    maxExpansionRatio := 8
    maxEntries := 3
    maxFileBytes := 16777216
    maxDepth := 1
    maxPathBytes := 255
    members := [
      { path := "LICENSE", type := "regular", mode := "0644" },
      { path := "README.md", type := "regular", mode := "0644" },
      { path := "a365", type := "regular", mode := "0755" }] }
  install := { source := "a365", destination := "bin/a365", mode := "0555" }
  binary := {
    format := "elf64"
    machines := [
      { platform := "linux/amd64", machine := "x86_64" },
      { platform := "linux/arm64", machine := "aarch64" }]
    linkage := "static"
    interpreter := "forbidden"
    neededLibraries := []
    rpath := "forbidden"
    writableExecutableSegments := "forbidden"
    goModule := "github.com/sozercan/a365cli"
    cgoEnabled := some false }

/-- The prebuilt-archive part of the embedded policy. -/
def embeddedTapPolicy : TapPolicy where
  prebuiltArchives := [embeddedPrebuiltArchive]

end DalecHomebrew.Policy
