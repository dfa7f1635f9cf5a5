import DalecHomebrew.Catalog.BottleArtifact
import DalecHomebrew.OCI.BottleTab
import DalecHomebrew.Resolution.Bindings

/-!
# Transports and paths of accepted documents

Two properties that several validators are meant to give together: every transport
value has exactly one member, and every relative path stays below the directory it
is joined to.  Each holds of most fields; the theorems name the fields that the
validators leave open and say that nothing else can go wrong.
-/

namespace DalecHomebrew.Resolution

open Foundation Foundation.GoPath Foundation.GoString Homebrew

/-! ## Sample documents -/

namespace Sample

/-- The library functions, as they answer on URLs of the form `https://host/path`. -/
def artifactLibrary : Catalog.ArtifactLibrary where
  parseURL := fun raw =>
    let rest := splitChar (trimPrefix raw "https://") '/'
    let path := "/" ++ join rest.tail "/"
    .ok {
      scheme := "https", host := rest.headD "", hostname := rest.headD "", path,
      escapedPath := path }
  isIP := fun _ => false
  repositoryPath := fun _ => none
  pathUnescape := some

def artifactVerification : Catalog.BottleVerification where
  policyVersion := Catalog.bottleVerificationPolicy
  inventoryDigest := digest 'd'
  entryCount := 1
  expandedSize := 1

/-- A local member beside the HTTPS one, and the parent directory as the payload. -/
def looseDerivation : Catalog.PrebuiltDerivation where
  policyVersion := "prebuilt-derived-bottle-v1"
  policyDigest := digest 'a'
  source := {
    filename := "app.tar.gz"
    size := 2
    sha256 := digest 'c'
    format := "tar+gzip"
    transport := {
      https := some {
        url := "https://acme.dev/app.tar.gz", expectedSize := 2, sha256 := digest 'c',
        filename := "app.tar.gz", allowedRedirectHosts := ["acme.dev"],
        fetchPolicyVersion := Catalog.httpsFetchPolicyVersion }
      «local» := some {
        policyVersion := Catalog.buildLocalArtifactPolicyVersion, sha256 := digest 'e', size := 3,
        filename := "other" } } }
  sourceInventory := { inventoryDigest := digest 'd', entryCount := 1, expandedSize := 1 }
  payload := {
    sourcePath := "..", destinationPath := "bin/app", sha256 := digest 'e', size := 1,
    archiveMode := 0o755, derivedMode := 0o555 }
  elf := {
    format := "elf64", machine := "x86_64", staticallyLinked := true, interpreter := "",
    neededLibraries := some [], rpaths := some [], writableExecutableSegments := false }
  formulaSource := {
    transport := {
      tap := {
        id := "acme/tools", repository := "https://github.com/acme/homebrew-tools",
        commit := commit, treeDigest := digest 'a', archiveDigest := digest 'a' }
      path := "Formula/app.rb" }
    sha256 := digest 'f'
    size := 1 }
  recipeDigest := digest 'a'
  derivedBottle := {
    tag := "x86_64_linux", filename := "app.bottle.tar.gz", sha256 := digest 'b', size := 1,
    verification := artifactVerification, formulaSourceDigest := digest 'f' }

def looseArtifact : Catalog.BottleArtifact where
  id := "acme/tools/app"
  platform := { os := "linux", architecture := "amd64" }
  tag := "x86_64_linux"
  filename := "app.bottle.tar.gz"
  sha256 := digest 'b'
  size := 1
  cellar := "any"
  tab := { receiptless := true, arch := "x86_64" }
  currentFormulaSourceDigest := digest 'f'
  bottleFormulaSourceDigest := digest 'f'
  bottleSourceRepository := ""
  bottleSourceCommit := ""
  bottleFormulaPath := ""
  executablePaths := ["bin/app"]
  transport := {
    «local» := some {
      policyVersion := Catalog.buildLocalArtifactPolicyVersion, sha256 := digest 'b', size := 1,
      filename := "app.bottle.tar.gz" } }
  verification := artifactVerification
  provenance := { waiver := some { policy := Catalog.prebuiltProvenanceWaiver } }
  prebuiltDerivation := some looseDerivation

theorem byteLength_replicate {digit : Char} (ascii : digit.utf8Size = 1) (count : Nat) :
    byteLength (String.ofList (List.replicate count digit)) = count := by
  induction count with
  | zero => rfl
  | succ count ih =>
    rw [byteLength] at ih ⊢
    rw [List.replicate_succ', String.ofList_append, String.utf8ByteSize_append, ih]
    simp [ascii]

theorem digests_valid : ∀ digit ∈ ['a', 'b', 'c', 'd', 'e', 'f'],
    Catalog.validateSHA256Digest (digest digit) = .ok () := by
  have checked : ['a', 'b', 'c', 'd', 'e', 'f'].all
      (fun digit => digit.utf8Size = 1 ∧ isLowerHex digit) = true := by decide
  intro digit member
  obtain ⟨ascii, hex⟩ := of_decide_eq_true (List.all_eq_true.mp checked digit member)
  have length : byteLength (checksum digit) = 64 := byteLength_replicate ascii 64
  have listed : (checksum digit).toList.all isLowerHex = true := by simp [checksum, hex]
  simp [Catalog.validateSHA256Digest, digest, length, listed]

-- The digests are treated apart: evaluating them is slow.
theorem looseArtifact_valid :
    Catalog.validateBottleArtifact artifactLibrary looseArtifact = .ok () := by
  have digests := digests_valid
  simp only [List.forall_mem_cons] at digests
  simp only [Catalog.validateBottleArtifact, joinErrors_eq_ok, List.append_eq_nil_iff,
    nested_eq_nil, Catalog.derivationFindings, looseArtifact, Catalog.validatePrebuiltDerivation,
    Catalog.validatePrebuiltSourceArtifact, looseDerivation, reported_eq_nil,
    Catalog.validatePrebuiltSourceInventory, Catalog.validatePrebuiltPayloadEvidence,
    Catalog.validatePrebuiltFormulaSourceEvidence, Catalog.validateTapSource,
    Catalog.validatePrebuiltDerivedBottleRelation, Catalog.validateBottleVerification,
    artifactVerification, Catalog.validateHTTPSTransport, Catalog.validateTransport,
    Catalog.validateLocalTransport, digests]
  and_intros
  all_goals decide

/-- The same derivation in a record. -/
def looseRecord : RecordV2 :=
  derivedRecord
    (some {
      policyVersion := buildLocalArtifactPolicyV1
      sha256 := digest 'e'
      size := 3
      filename := "other" }) ".."

theorem looseRecord_valid : validateV2 derivedLibraries looseRecord = .ok () := by decide +kernel

end Sample

/-! ## Transport unions -/

/-- The transport values of an artifact, the one of its source archive included. -/
def artifactTransports (artifact : Catalog.BottleArtifact) : List Catalog.Transport :=
  artifact.transport :: artifact.prebuiltDerivation.toList.map fun derivation =>
    derivation.source.transport

/-- The transport values of a bottle, the one of its source archive included. -/
def BottleV2.transports (bottle : BottleV2) : List BottleTransport :=
  bottle.transport :: bottle.prebuiltDerivation.toList.map fun derivation =>
    derivation.source.transport

variable {artifact : Catalog.BottleArtifact}

theorem source_members_iff {derivation : Catalog.PrebuiltDerivation}
    (accepted : Catalog.AcceptedDerivation artifact derivation) :
    derivation.source.transport.members = 1 ↔ derivation.source.transport.local = none := by
  obtain ⟨https, set⟩ := Option.isSome_iff_exists.mp accepted.sourceHTTPS
  simp [Catalog.Transport.members, accepted.sourceOCI, set]

variable {libraries : Libraries}

theorem source_members_iff_V2 {bottle : BottleV2} {derivation : PrebuiltDerivationV2}
    (accepted : AcceptedDerivation libraries bottle derivation) :
    derivation.source.transport.members = 1 ↔ derivation.source.transport.localArtifact = none := by
  obtain ⟨https, set, -⟩ := accepted.bound.source
  simp [BottleTransport.members, accepted.sourceOCI, set]

/--
The transports of accepted artifacts and records are tagged unions exactly when the
source transport of no prebuilt derivation has a local member beside its HTTPS one.
-/
theorem transports_tagged_iff (library : Catalog.ArtifactLibrary) (libraries : Libraries) :
    (∀ artifact, Catalog.validateBottleArtifact library artifact = .ok () →
      ((∀ transport ∈ artifactTransports artifact, transport.members = 1) ↔
        ∀ derivation, artifact.prebuiltDerivation = some derivation →
          derivation.source.transport.local = none)) ∧
    ∀ record, validateV2 libraries record = .ok () →
      ((∀ node ∈ record.nodes, ∀ transport ∈ node.bottle.transports, transport.members = 1) ↔
        ∀ node ∈ record.nodes, ∀ derivation, node.bottle.prebuiltDerivation = some derivation →
          derivation.source.transport.localArtifact = none) := by
  constructor
  · intro artifact valid
    have accepted := Catalog.acceptedArtifact_of_validate valid
    simp only [artifactTransports, List.forall_mem_cons, List.forall_mem_map, Option.mem_toList,
      accepted.members, true_and]
    refine forall₂_congr fun derivation set => ?_
    exact source_members_iff (accepted.derivation derivation set)
  · intro record valid
    refine forall₂_congr fun node member => ?_
    obtain ⟨readable, ⟨commit, bottle⟩, -⟩ := acceptedNode_of_validateV2 valid node member
    simp only [BottleV2.transports, List.forall_mem_cons, List.forall_mem_map, Option.mem_toList,
      bottle.members, true_and]
    refine forall₂_congr fun derivation set => ?_
    exact source_members_iff_V2
      (acceptedDerivation_of_validate readable (bottle.derivation derivation set))

theorem transports_tagged_sample :
    validateV2 Sample.derivedLibraries (Sample.derivedRecord none "app/app") = .ok () ∧
      ∀ node ∈ (Sample.derivedRecord none "app/app").nodes,
        ∀ transport ∈ node.bottle.transports, transport.members = 1 := by
  refine ⟨Sample.derivedRecord_valid, ((transports_tagged_iff Sample.artifactLibrary
    Sample.derivedLibraries).2 _ Sample.derivedRecord_valid).mpr ?_⟩
  intro node member derivation set
  rw [List.mem_singleton.mp member] at set
  cases set
  rfl

/-- An accepted artifact and an accepted record whose source transport has two members. -/
theorem transports_not_tagged :
    (∃ library artifact, Catalog.validateBottleArtifact library artifact = .ok () ∧
      ∃ transport ∈ artifactTransports artifact, transport.members = 2) ∧
    ∃ libraries record, validateV2 libraries record = .ok () ∧
      ∃ node ∈ record.nodes, ∃ transport ∈ node.bottle.transports, transport.members = 2 := by
  refine ⟨⟨Sample.artifactLibrary, Sample.looseArtifact, Sample.looseArtifact_valid, ?_⟩,
    Sample.derivedLibraries, Sample.looseRecord, Sample.looseRecord_valid, ?_⟩
  · exact ⟨_, List.mem_cons_of_mem _ (List.mem_singleton_self _), rfl⟩
  · exact ⟨_, List.mem_singleton_self _, _, List.mem_cons_of_mem _ (List.mem_singleton_self _), rfl⟩

/-! ## Paths -/

/-- The relative paths that an artifact carries. -/
def artifactPaths (artifact : Catalog.BottleArtifact) : List String :=
  artifact.tab.changedFiles ++ artifact.executablePaths ++ [artifact.bottleFormulaPath] ++
    artifact.prebuiltDerivation.toList.flatMap fun derivation =>
      [derivation.payload.sourcePath, derivation.payload.destinationPath,
        derivation.formulaSource.transport.path]

/-- The relative paths that a node of a record carries. -/
def NodeV2.paths (node : NodeV2) : List String :=
  node.bottle.tab.changedFiles ++ node.executablePaths ++ [node.bottle.bottleFormulaPath] ++
    node.bottle.prebuiltDerivation.toList.flatMap fun derivation =>
      [derivation.payload.sourcePath, derivation.payload.destinationPath,
        derivation.formulaSource.transport.path]

/-- What a record has to add to the checks of `ValidateV2`. -/
structure NodeV2.Confined (node : NodeV2) : Prop where
  /-- No check looks at these. -/
  unchecked : ∀ path ∈ node.bottle.tab.changedFiles ++ node.executablePaths,
    ".." ∉ splitChar path '/'
  /-- The formula path of a bottle in a registry is checked to be clean only. -/
  formulaPath : node.bottle.bottleFormulaPath ≠ ".." ∧
    hasPrefix node.bottle.bottleFormulaPath "../" = false
  sourcePath : ∀ derivation, node.bottle.prebuiltDerivation = some derivation →
    derivation.payload.sourcePath ≠ ".."

theorem contained_empty : Contained "" := by decide

theorem artifactPaths_contained_iff (accepted : Catalog.AcceptedArtifact artifact) :
    (∀ path ∈ artifactPaths artifact, Contained path) ↔
      ∀ derivation, artifact.prebuiltDerivation = some derivation →
        derivation.payload.sourcePath ≠ ".." := by
  have safe : ∀ path, Catalog.isUnsafePath path = false → Contained path := fun path safe =>
    (Catalog.normal_of_isUnsafePath safe).1.contained_iff.mpr
      (Catalog.normal_of_isUnsafePath safe).2
  have formula : ∀ path name, Catalog.validateFormulaSourcePath path name = .ok () →
      Contained path := fun path name valid =>
    (Catalog.normal_of_validateFormulaSourcePath valid).1.contained_iff.mpr
      (Catalog.normal_of_validateFormulaSourcePath valid).2
  constructor
  · intro every derivation set
    have normal := Catalog.normal_of_validateContainedSlashPath
      (accepted.derivation derivation set).sourcePath
    exact normal.contained_iff.mp (every _ (by simp [artifactPaths, set]))
  · intro apart path member
    simp only [artifactPaths, List.mem_append, List.mem_flatMap,
      Option.mem_toList, List.mem_cons, List.not_mem_nil, or_false] at member
    rcases member with ((changed | executable) | rfl) | ⟨derivation, set, rfl | rfl | rfl⟩
    · exact safe path (accepted.changedFiles path changed)
    · exact safe path (accepted.executablePaths path executable)
    · rcases accepted.formulaPath with none | valid
      · rw [none]
        exact contained_empty
      · exact formula _ _ valid
    · have normal := Catalog.normal_of_validateContainedSlashPath
        (accepted.derivation derivation set).sourcePath
      exact normal.contained_iff.mpr (apart derivation set)
    · exact safe _ (accepted.executablePaths _ (accepted.derivation derivation set).destinationPath)
    · exact formula _ _ (accepted.derivation derivation set).formulaPath

theorem normal_of_validateContainedPrebuiltPathV2 {value : String}
    (valid : validateContainedPrebuiltPathV2 value = .ok ()) : Normal value := by
  simp only [validateContainedPrebuiltPathV2, ite_error_eq_ok, not_or, not_not,
    Bool.not_eq_true] at valid
  obtain ⟨⟨-, -, relative, -⟩, -, ⟨clean, -, parent⟩, -⟩ := valid
  exact ⟨relative, clean, clean ▸ parent⟩

theorem nodePaths_contained_iff {record : RecordV2} {node : NodeV2}
    (accepted : AcceptedNode libraries record node) :
    (∀ path ∈ node.paths, Contained path) ↔ node.Confined := by
  obtain ⟨readable, ⟨commit, bottle⟩, -⟩ := accepted
  have derived : ∀ derivation, node.bottle.prebuiltDerivation = some derivation →
      AcceptedDerivation libraries node.bottle derivation := fun derivation set =>
    acceptedDerivation_of_validate readable (bottle.derivation derivation set)
  have formulaPath : Contained node.bottle.bottleFormulaPath ↔
      node.bottle.bottleFormulaPath ≠ ".." ∧
        hasPrefix node.bottle.bottleFormulaPath "../" = false := by
    rcases formulaPath_of_headerFindings bottle.header with none | ⟨relative, clean⟩
    · rw [none]
      decide
    · exact contained_iff_of_clean relative clean
  constructor
  · intro every
    refine ⟨fun path member => (every path ?_).noParent, formulaPath.mp (every _ ?_), ?_⟩
    · rw [NodeV2.paths, List.append_assoc]
      exact List.mem_append_left _ member
    · simp [NodeV2.paths]
    · intro derivation set
      have normal := normal_of_validateContainedPrebuiltPathV2 (derived derivation set).sourcePath
      exact normal.contained_iff.mp (every _ (by simp [NodeV2.paths, set]))
  · intro confined path member
    simp only [NodeV2.paths, List.mem_append, List.mem_flatMap,
      Option.mem_toList, List.mem_cons, List.not_mem_nil, or_false] at member
    rcases member with (unchecked | rfl) | ⟨derivation, set, rfl | rfl | rfl⟩
    · exact contained_iff.mpr (confined.unchecked path (List.mem_append.mpr unchecked))
    · exact formulaPath.mpr confined.formulaPath
    · have normal := normal_of_validateContainedPrebuiltPathV2 (derived derivation set).sourcePath
      exact normal.contained_iff.mpr (confined.sourcePath derivation set)
    · obtain ⟨name, named, valid⟩ := (derived derivation set).destinationPath
      refine (normal_of_validateContainedPrebuiltPathV2 valid).contained_iff.mpr fun parent => ?_
      have first := congrArg (fun text : String => text.toList.head?) (named.symm.trans parent)
      simp [String.toList_append] at first
    · obtain ⟨name, named, valid⟩ := (derived derivation set).formulaPath
      exact (normal_of_validateContainedPrebuiltPathV2 valid).contained_iff.mpr
        (ne_parent_of_base named)

/--
The paths of accepted artifacts, records, bottle tabs and executable lists are
contained exactly when they avoid the spellings that the checks miss: `..` itself as
the source path of a payload or as a changed file, and in a record whatever stands
in the two lists that no check reads and a formula path that begins with `..`.
-/
theorem accepted_paths_contained_iff (library : Catalog.ArtifactLibrary) (libraries : Libraries)
    (codec : OCI.TabCodec) (canonicalize : String → Except String String) :
    (∀ artifact, Catalog.validateBottleArtifact library artifact = .ok () →
      ((∀ path ∈ artifactPaths artifact, Contained path) ↔
        ∀ derivation, artifact.prebuiltDerivation = some derivation →
          derivation.payload.sourcePath ≠ "..")) ∧
    (∀ record, validateV2 libraries record = .ok () →
      ((∀ node ∈ record.nodes, ∀ path ∈ node.paths, Contained path) ↔
        ∀ node ∈ record.nodes, node.Confined)) ∧
    (∀ value target allBottle tab,
      OCI.parseBottleTabWith codec canonicalize value target allBottle = .ok tab →
        ((∀ path ∈ tab.changedFiles, Contained path) ↔
          ∀ wire, codec.tab value = .ok wire → ".." ∉ wire.changedFiles)) ∧
    ∀ value paths, OCI.parseExecutablePaths value = .ok paths → ∀ path ∈ paths, Contained path := by
  refine ⟨fun artifact valid => ?_, fun record valid => ?_, ?_, ?_⟩
  · exact artifactPaths_contained_iff (Catalog.acceptedArtifact_of_validate valid)
  · refine forall₂_congr fun node member => ?_
    exact nodePaths_contained_iff (acceptedNode_of_validateV2 valid node member)
  · intro value target allBottle tab parsed
    obtain ⟨wire, read, valid⟩ := OCI.changedFiles_of_parseBottleTabWith parsed
    obtain ⟨normal, same⟩ := OCI.validateChangedFiles_ok valid
    constructor
    · intro every found other parent
      obtain rfl : wire = found := Except.ok.inj (read.symm.trans other)
      have member := (same "..").mpr parent
      exact (normal _ member).contained_iff.mp (every _ member) rfl
    · intro apart path member
      refine (normal path member).contained_iff.mpr ?_
      rintro rfl
      exact apart wire read ((same "..").mp member)
  · intro value paths parsed path member
    obtain ⟨normal, self⟩ := OCI.normal_of_parseExecutablePaths parsed path member
    exact normal.contained_iff.mpr self

namespace Sample

/-- The annotation with the tab of a bottle without dependencies. -/
def tabText : String :=
  "\x7b\"homebrew_version\":\"4.6.0\",\"arch\":\"x86_64\",\"changed_files\":[\"lib/app.pc\"]," ++
    "\"runtime_dependencies\":[],\"built_on\":\x7b\"os\":\"Linux\"\x7d\x7d"

/-- The decoder as it acts on this annotation. -/
def tabCodec : OCI.TabCodec where
  fields text :=
    if text = tabText then
      .ok (((∅ : Table String String).insert "homebrew_version" "\"4.6.0\"").insert
        "runtime_dependencies" "[]")
    else .error "unexpected EOF"
  tab text :=
    if text = tabText then
      .ok { homebrewVersion := "4.6.0", arch := "x86_64", changedFiles := ["lib/app.pc"],
            builtOn := { os := "Linux" } }
    else .error "unexpected EOF"
  text _ := .error "unexpected EOF"

end Sample

/-- The paths of the first record, of a tab and of a list stay inside; those of an artifact whose
payload is `..` do not. -/
theorem accepted_paths_contained_sample :
    (∃ path ∈ artifactPaths Sample.looseArtifact, ¬ Contained path) ∧
    (validateV2 Sample.derivedLibraries (Sample.derivedRecord none "app/app") = .ok () ∧
      ∀ node ∈ (Sample.derivedRecord none "app/app").nodes, ∀ path ∈ node.paths,
        Contained path) ∧
    (∃ tab, OCI.parseBottleTab Sample.tabCodec Sample.tabText Sample.platform false = .ok tab ∧
      tab.changedFiles = ["lib/app.pc"] ∧ ∀ path ∈ tab.changedFiles, Contained path) ∧
    ∃ paths, OCI.parseExecutablePaths "sbin/appd,bin/app" = .ok paths ∧
      paths = ["bin/app", "sbin/appd"] ∧ ∀ path ∈ paths, Contained path := by
  obtain ⟨artifacts, records, tabs, lists⟩ := accepted_paths_contained_iff Sample.artifactLibrary
    Sample.derivedLibraries Sample.tabCodec OCI.canonicalDependencyName
  refine ⟨?_, ⟨Sample.derivedRecord_valid, (records _ Sample.derivedRecord_valid).mpr ?_⟩,
    ⟨_, rfl, rfl, (tabs Sample.tabText Sample.platform false _ rfl).mpr ?_⟩,
    ⟨_, rfl, by decide, lists "sbin/appd,bin/app" _ rfl⟩⟩
  · by_contra inside
    push Not at inside
    exact (artifacts _ Sample.looseArtifact_valid).mp inside _ rfl rfl
  · intro node member
    rw [List.mem_singleton.mp member]
    refine ⟨by decide, by decide, fun derivation set => ?_⟩
    cases set
    decide
  · rintro wire ⟨⟩
    decide

/-- An accepted artifact, an accepted record and accepted changed files that leave a directory. -/
theorem paths_not_contained :
    (∃ library artifact, Catalog.validateBottleArtifact library artifact = .ok () ∧
      ∃ path ∈ artifactPaths artifact, ¬ Contained path) ∧
    (∃ libraries record, validateV2 libraries record = .ok () ∧
      ∃ node ∈ record.nodes, ∃ path ∈ node.paths, ¬ Contained path) ∧
    OCI.validateChangedFiles [".."] = .ok [".."] := by
  refine ⟨⟨Sample.artifactLibrary, Sample.looseArtifact, Sample.looseArtifact_valid, "..", ?_,
      by decide⟩,
    ⟨Sample.derivedLibraries, Sample.looseRecord, Sample.looseRecord_valid, _,
      List.mem_singleton_self _, "..", ?_, by decide⟩, by decide⟩
  · decide
  · decide

end DalecHomebrew.Resolution
