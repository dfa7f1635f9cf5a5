import DalecHomebrew.RuntimeFS.Profile

/-!
# Paths inside kegs

The path of an entry inside its keg, and why a removable alias is at no protected
path: an alias path is tested as a path of the prefix, and where it lies in a keg the
path inside the keg is protected only if the whole path is.
-/

namespace DalecHomebrew.RuntimeFS

open Foundation Foundation.GoString Foundation.GoPath

variable {policy : NormalizedPolicy}

/-! ## Kegs -/

/-- The path of an entry inside its keg, or in the prefix if it is in no keg. -/
def payloadPath (nodes : NodeIndex) (rel : String) : String :=
  match kegLocation rel nodes with
  | some (_, sub) => sub
  | none => rel

variable {rel package sub : String}

theorem kegLocation_eq_some {nodes : NodeIndex}
    (located : kegLocation rel nodes = some (package, sub)) :
    ∃ version first rest node, splitChar rel '/' = "Cellar" :: package :: version :: first :: rest ∧
      sub = join (first :: rest) "/" ∧ nodes.lookup package = some node := by
  unfold kegLocation at located
  split at located
  · rename_i rack version first rest parts
    split at located
    · cases located
    rename_i node found
    split at located
    · cases located
    cases located
    have named := (nodes.named rack node found).1
    refine ⟨version, first, rest, node, ?_, rfl, ?_⟩
    · rw [named, parts]
    · rw [named]
      exact found
  · cases located

theorem components_of_isWithin {path root : String} (within : isWithin path root = true) :
    splitChar root '/' <+: splitChar path '/' := by
  simp only [isWithin, decide_eq_true_eq] at within
  rcases within with rfl | below
  · exact List.prefix_rfl
  · rw [eq_append_of_hasPrefix below]
    exact ⟨_, (splitChar_below root _).symm⟩

theorem components_of_keg {nodes : NodeIndex}
    (located : kegLocation rel nodes = some (package, sub)) :
    ∃ version, splitChar rel '/' = "Cellar" :: package :: version :: splitChar sub '/' := by
  obtain ⟨version, first, rest, _, parts, rfl, _⟩ := kegLocation_eq_some located
  refine ⟨version, ?_⟩
  have free : ∀ part ∈ first :: rest, '/' ∉ part.toList := by
    intro part member
    have among : part ∈ splitChar rel '/' := by
      rw [parts]
      exact List.mem_cons_of_mem _ (List.mem_cons_of_mem _ (List.mem_cons_of_mem _ member))
    exact not_mem_of_mem_splitChar among
  rw [parts, splitChar_joined free (List.cons_ne_nil first rest)]

/-! ## Alias paths inside a keg

They start with `include` or `lib`. -/

section AliasPaths

variable {rel sub package version : String}

/-- The class roots of aliases that a path of the Cellar can be in. -/
def KegAliasPath (sub : String) : Prop :=
  ∃ rest, splitChar sub '/' = "include" :: rest ∨ splitChar sub '/' = "lib" :: rest

variable {parts outer : List String}

theorem firstSegment_of_isWithin {root : String} (within : isWithin rel root = true) :
    firstSegment rel = firstSegment root := by
  obtain ⟨rest, whole⟩ := components_of_isWithin within
  obtain ⟨head, tail, components⟩ := List.exists_cons_of_ne_nil (splitChar_ne_nil root '/')
  rw [firstSegment, firstSegment, ← whole, components]
  rfl

theorem isWithin_lib_of_static (archive : staticArchiveRuntimePath rel = true) :
    isWithin rel "lib" = true := by
  simp only [staticArchiveRuntimePath, Bool.and_eq_true] at archive
  have root : ("lib" ++ "/" : String) = "lib/" := by decide
  simp only [isWithin, root, archive.1.2, or_true, decide_true]

theorem kegAliasPath_of_isWithin {root : String} (lib : root = "include" ∨ root = "lib")
    (within : isWithin sub root = true) : KegAliasPath sub := by
  have begins := components_of_isWithin within
  rcases lib with rfl | rfl
  · have single : splitChar "include" '/' = ["include"] := by decide
    rw [single] at begins
    obtain ⟨rest, whole⟩ := begins
    exact ⟨rest, .inl whole.symm⟩
  · have single : splitChar "lib" '/' = ["lib"] := by decide
    rw [single] at begins
    obtain ⟨rest, whole⟩ := begins
    exact ⟨rest, .inr whole.symm⟩

variable {reason : PruneReason}

/-- An alias that may be removed is below one of three roots, of the prefix or of a keg. -/
theorem aliasPath_cases (allowed : minimalRuntimeAliasPath rel reason package policy = true) :
    firstSegment rel ∈ ["include", "lib", "share"] ∨
      ∃ sub, cellarKegSubpath rel = some sub ∧ KegAliasPath sub := by
  have within : ∀ root, firstSegment root ∈ ["include", "lib", "share"] →
      isWithin rel root = true → firstSegment rel ∈ ["include", "lib", "share"] :=
    fun root known inside => firstSegment_of_isWithin inside ▸ known
  have among : ∀ roots : List String,
      (∀ root ∈ roots, firstSegment root ∈ ["include", "lib", "share"]) →
        roots.any (isWithin rel) = true → firstSegment rel ∈ ["include", "lib", "share"] := by
    intro roots known inside
    obtain ⟨root, member, under⟩ := List.any_eq_true.mp inside
    exact within root (known root member) under
  unfold minimalRuntimeAliasPath at allowed
  split at allowed
  · cases allowed
  cases reason with
  | runtimeHeaders =>
    rcases Bool.or_eq_true _ _ |>.mp allowed with whole | inside
    · exact .inl (within "include" (by decide) whole)
    · obtain ⟨sub, found, under⟩ := (Option.any_eq_true _ _).mp inside
      exact .inr ⟨sub, found, kegAliasPath_of_isWithin (.inl rfl) under⟩
  | runtimeDocs =>
    rcases Bool.or_eq_true _ _ |>.mp allowed with man | info
    · exact .inl (within "share/man" (by decide) man)
    · exact .inl (within "share/info" (by decide) info)
  | runtimeBuild => exact .inl (among buildMetadataRoots (by decide) allowed)
  | runtimeTests =>
    cases tests : policy.pythonTests.lookup package with
    | none => simp [tests] at allowed
    | some root =>
      obtain ⟨formulaID, known⟩ := policy.pythonTests.known package root tests
      simp only [tests, Option.any_some] at allowed
      unfold pythonStdlibTestRootForFormulaID at known
      repeat' split at known
      all_goals cases known
      all_goals exact .inl (within _ (by decide) allowed)
  | runtimeShell => exact .inl (among _ (by decide) allowed)
  | runtimeStatic =>
    rw [staticArchiveAliasRuntimePath, Bool.and_eq_true, Bool.or_eq_true] at allowed
    rcases allowed.2 with whole | inside
    · exact .inl (within "lib" (by decide) (isWithin_lib_of_static whole))
    · obtain ⟨sub, found, under⟩ := (Option.any_eq_true _ _).mp inside
      exact .inr ⟨sub, found, kegAliasPath_of_isWithin (.inr rfl) (isWithin_lib_of_static under)⟩
  | _ => cases allowed

theorem kegAliasPath_of_aliasPath (cellar : splitChar rel '/' = "Cellar" :: parts)
    (inside : cellarKegSubpath rel = some sub)
    (allowed : minimalRuntimeAliasPath rel reason package policy = true) :
    KegAliasPath sub := by
  rcases aliasPath_cases allowed with outer | ⟨other, found, keg⟩
  · rw [firstSegment, cellar, List.headD_cons] at outer
    exact absurd outer (by decide)
  · exact Option.some.inj (found.symm.trans inside) ▸ keg

theorem base_of_components {value first : String} {rest : List String}
    (components : splitChar value '/' = outer ++ first :: rest) (some : first ≠ "") :
    base value =
      (((first :: rest).reverse.dropWhile fun component => component = "").headD "/") := by
  have present : value ≠ "" := by
    rintro rfl
    have single : splitChar "" '/' = [""] := by decide
    rw [single] at components
    cases outer with
    | nil =>
      cases components
      exact some rfl
    | cons head tail => simp at components
  have kept : (first :: rest).reverse.dropWhile (fun component => component = "") ≠ [] := by
    rw [ne_eq, List.dropWhile_eq_nil_iff]
    intro empty
    exact some (by simpa using empty first (by simp))
  obtain ⟨head, tail, cut⟩ := List.exists_cons_of_ne_nil kept
  rw [base, if_neg present, components, List.reverse_append, List.dropWhile_append, cut]
  rfl

theorem pathContainsLegalText_of_components
    (components : splitChar rel '/' = outer ++ splitChar sub '/')
    (legal : pathContainsLegalText sub = true) : pathContainsLegalText rel = true := by
  have some := splitChar_ne_nil sub '/'
  simp only [pathContainsLegalText, Bool.or_eq_true] at legal ⊢
  rw [components, List.dropLast_append_of_ne_nil some, List.getLast?_append_of_ne_nil _ some,
    List.any_append, Bool.or_eq_true]
  rcases legal with container | text
  · exact .inl (.inr container)
  · exact .inr text

theorem alwaysRetained_of_keg
    (components : splitChar rel '/' = "Cellar" :: package :: version :: splitChar sub '/')
    (inside : cellarKegSubpath rel = some sub) (path : KegAliasPath sub)
    (retained : minimalRuntimeAlwaysRetainedPath sub = true) :
    minimalRuntimeAlwaysRetainedPath rel = true := by
  obtain ⟨first, rest, inner, named, apart⟩ : ∃ first rest, splitChar sub '/' = first :: rest ∧
      first ≠ "" ∧ first ≠ "Cellar" := by
    obtain ⟨rest, inner | inner⟩ := path
    · exact ⟨"include", rest, inner, by decide, by decide⟩
    · exact ⟨"lib", rest, inner, by decide, by decide⟩
  simp only [minimalRuntimeAlwaysRetainedPath, Bool.or_eq_true] at retained ⊢
  rcases retained with ((legal | doc) | data) | object
  · have outer : splitChar rel '/' = ["Cellar", package, version] ++ splitChar sub '/' := components
    exact .inl (.inl (.inl (pathContainsLegalText_of_components outer legal)))
  · refine .inl (.inl (.inr ?_))
    have none : cellarKegSubpath sub = none := by
      simp [cellarKegSubpath, inner, apart]
    simp only [formulaShareDocRuntimePath, none, Option.any_none, Bool.or_false] at doc
    simp only [formulaShareDocRuntimePath, inside, Option.any_some, doc, Bool.or_true]
  · refine .inl (.inr ?_)
    rw [minimalRuntimeProtectedDataPath] at data ⊢
    rw [components, List.any_cons, List.any_cons, List.any_cons, data]
    simp
  · refine .inr ?_
    rw [sharedObjectRuntimePath] at object ⊢
    have outer : splitChar rel '/' = ["Cellar", package, version] ++ first :: rest := by
      rw [components, inner]
      rfl
    have whole : splitChar sub '/' = [] ++ first :: rest := inner
    rw [base_of_components outer named, ← base_of_components whole named]
    exact object

/-- An alias that may be removed is not at a protected path, in its keg or in the
prefix. -/
theorem not_alwaysRetained_of_aliasPath
    (allowed : minimalRuntimeAliasPath rel reason package policy = true) :
    minimalRuntimeAlwaysRetainedPath (payloadPath policy.nodes rel) = false := by
  have unprotected : minimalRuntimeAlwaysRetainedPath rel = false := by
    rw [← Bool.not_eq_true]
    intro retained
    simp [minimalRuntimeAliasPath, retained] at allowed
  unfold payloadPath
  split
  · rename_i owner sub located
    obtain ⟨version, components⟩ := components_of_keg located
    have inside : cellarKegSubpath rel = some sub := by
      obtain ⟨_, first, rest, _, parts, joined, _⟩ := kegLocation_eq_some located
      simp [cellarKegSubpath, parts, joined]
    rw [← Bool.not_eq_true]
    intro retained
    rw [alwaysRetained_of_keg components inside
      (kegAliasPath_of_aliasPath components inside allowed) retained] at unprotected
    cases unprotected
  · exact unprotected

end AliasPaths

end DalecHomebrew.RuntimeFS
