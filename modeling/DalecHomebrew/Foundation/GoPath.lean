import DalecHomebrew.Foundation.Fold
import DalecHomebrew.Foundation.GoString

/-!
# Slash-separated paths

The lexical operations of the Go package `path`, over the components of a
path.
-/

namespace DalecHomebrew.Foundation.GoPath

open Foundation.GoString

variable (value : String)

/-- `path.IsAbs`. -/
def isAbs : Bool := hasPrefix value "/"

/-- The effect of one component on the components kept so far, innermost first. -/
def cleanStep (rooted : Bool) (kept : List String) (component : String) : List String :=
  if component = "" ∨ component = "." then kept
  else if component = ".." then
    match kept with
    | [] => if rooted then [] else [".."]
    | last :: outer => if last = ".." then ".." :: kept else outer
  else component :: kept

/-- The components of `path.Clean`. -/
def cleanComponents : List String :=
  ((splitChar value '/').foldl (cleanStep (isAbs value)) []).reverse

/-- `path.Clean`. -/
def clean : String :=
  let relative := join (cleanComponents value) "/"
  if isAbs value then "/" ++ relative
  else if relative = "" then "." else relative

/-- `path.Base`: the last component, with trailing slashes removed. -/
def base : String :=
  if value = "" then "."
  else
    match (splitChar value '/').reverse.dropWhile (· = "") with
    | [] => "/"
    | last :: _ => last

/-- `path.Dir`: all but the last component, cleaned. -/
def dir : String :=
  if (splitChar value '/').length ≤ 1 then "."
  else clean (join (splitChar value '/').dropLast "/" ++ "/")

/-- `path.Ext`: the last component from its last dot on. -/
def ext : String :=
  let last := value.toList.reverse.takeWhile (· ≠ '/')
  if '.' ∈ last then String.ofList ('.' :: (last.takeWhile (· ≠ '.')).reverse) else ""

/-- `path.Join`: the elements that are not empty, cleaned as one path. -/
def pathJoin (elements : List String) : String :=
  let present := elements.filter (· ≠ "")
  if present = [] then "" else clean (join present "/")

/-- The directories that `path.Dir` comes to from a clean relative path, innermost
first. -/
def ancestors : List String :=
  ((splitChar value '/').inits.tail.dropLast.map fun components => join components "/").reverse

/-! ## Components -/

theorem singleton_slash : String.singleton '/' = "/" := by decide

theorem splitChar_joined {parts : List String} (free : ∀ part ∈ parts, '/' ∉ part.toList)
    (some : parts ≠ []) : splitChar (join parts "/") '/' = parts := by
  rw [← singleton_slash]
  exact splitChar_join free some

theorem splitChar_below (root rest : String) :
    splitChar (root ++ "/" ++ rest) '/' = splitChar root '/' ++ splitChar rest '/' := by
  rw [← singleton_slash]
  exact splitChar_append root rest '/'

/-! ## Containment -/

/-- The components that `path.Clean` keeps of a path without `..`. -/
def names : List String :=
  (splitChar value '/').filter fun component => component ≠ "" ∧ component ≠ "."

/-- A path that stays below any directory it is joined to. -/
structure Contained (value : String) : Prop where
  noParent : ".." ∉ splitChar value '/'
  inside : ∀ directory, directory ≠ "" →
    cleanComponents (directory ++ "/" ++ value) = cleanComponents directory ++ names value

variable {rooted : Bool} {kept : List String} {component name value : String}

theorem cleanStep_skipped
    (skipped : component = "" ∨ component = ".") : cleanStep rooted kept component = kept := by
  unfold cleanStep
  rw [if_pos skipped]

theorem cleanStep_name (named : ¬ (component = "" ∨ component = ".")) (inner : component ≠ "..") :
    cleanStep rooted kept component = component :: kept := by
  unfold cleanStep
  rw [if_neg named, if_neg inner]

variable {components kept : List String}

theorem foldl_cleanStep_of_noParent (noParent : ".." ∉ components) :
    components.foldl (cleanStep rooted) kept =
      (components.filter fun component => component ≠ "" ∧ component ≠ ".").reverse ++ kept := by
  induction components generalizing kept with
  | nil => rfl
  | cons head tail ih =>
    simp only [List.mem_cons, not_or] at noParent
    rw [List.foldl_cons, ih noParent.2]
    by_cases skipped : head = "" ∨ head = "."
    · rw [cleanStep_skipped skipped, List.filter_cons_of_neg]
      simpa [imp_iff_not_or] using skipped
    · rw [cleanStep_name skipped (Ne.symm noParent.1), List.filter_cons_of_pos]
      · simp
      · simpa [not_or] using skipped

theorem isAbs_append {directory : String} (rest : String) (some : directory ≠ "") :
    isAbs (directory ++ rest) = isAbs directory := by
  cases characters : directory.toList with
  | nil => exact absurd (String.toList_eq_nil_iff.mp characters) some
  | cons head tail => simp [isAbs, hasPrefix, String.toList_append, characters, List.isPrefixOf]

variable {value : String}

theorem contained_iff : Contained value ↔ ".." ∉ splitChar value '/' := by
  refine ⟨Contained.noParent, fun noParent => ⟨noParent, fun directory some => ?_⟩⟩
  have rooted : isAbs (directory ++ "/" ++ value) = isAbs directory := by
    rw [String.append_assoc, isAbs_append _ some]
  rw [cleanComponents, cleanComponents, rooted, splitChar_below, List.foldl_append,
    foldl_cleanStep_of_noParent noParent, List.reverse_append, List.reverse_reverse, names]

instance (value : String) : Decidable (Contained value) := decidable_of_iff' _ contained_iff

/-- A relative path after cleaning, innermost component first: `..` at the front only. -/
def Cleaned (kept : List String) : Prop :=
  ∃ inner depth, kept = inner ++ List.replicate depth ".." ∧ ".." ∉ inner

theorem cleaned_cleanStep (component : String) (cleaned : Cleaned kept) :
    Cleaned (cleanStep false kept component) := by
  obtain ⟨inner, depth, rfl, noParent⟩ := id cleaned
  by_cases skipped : component = "" ∨ component = "."
  · rw [cleanStep_skipped skipped]
    exact cleaned
  by_cases parent : component = ".."
  · subst parent
    match inner, depth, noParent with
    | [], 0, _ => exact ⟨[], 1, rfl, by simp⟩
    | [], depth + 1, _ => exact ⟨[], depth + 2, rfl, by simp⟩
    | last :: outer, depth, noParent =>
      simp only [List.mem_cons, not_or] at noParent
      refine ⟨outer, depth, ?_, noParent.2⟩
      simp [cleanStep, Ne.symm noParent.1]
  · rw [cleanStep_name skipped parent]
    exact ⟨component :: inner, depth, rfl, by simp [Ne.symm parent, noParent]⟩

theorem cleanStep_subset
    (member : name ∈ cleanStep rooted kept component) : name ∈ kept ∨ name = component := by
  unfold cleanStep at member
  grind

theorem foldl_cleanStep_subset (member : name ∈ components.foldl (cleanStep rooted) kept) :
    name ∈ kept ∨ name ∈ components := by
  rcases foldl_origin (motive := (name ∈ ·))
    (fun _ component (member : name ∈ cleanStep rooted _ component) => cleanStep_subset member)
    member with old | ⟨_, among, rfl⟩
  · exact .inl old
  · exact .inr among

theorem not_mem_of_mem_cleanComponents
    (member : name ∈ cleanComponents value) : '/' ∉ name.toList := by
  rcases foldl_cleanStep_subset (List.mem_reverse.mp member) with old | part
  · simp at old
  · exact not_mem_of_mem_splitChar part

theorem cleanComponents_relative (relative : isAbs value = false) :
    ∃ depth inner, cleanComponents value = List.replicate depth ".." ++ inner ∧ ".." ∉ inner := by
  obtain ⟨inner, depth, split, noParent⟩ : Cleaned ((splitChar value '/').foldl _ []) :=
    List.foldlRecOn _ (cleanStep false) ⟨[], 0, rfl, by simp⟩
      fun _ cleaned component _ => cleaned_cleanStep component cleaned
  refine ⟨depth, inner.reverse, ?_, by simpa using noParent⟩
  rw [cleanComponents, relative, split, List.reverse_append, List.reverse_replicate]

/-- A clean relative path escapes only through its first component. -/
theorem contained_of_clean (relative : isAbs value = false)
    (clean : clean value = value) (self : value ≠ "..") (parent : hasPrefix value "../" = false) :
    Contained value := by
  rw [contained_iff]
  rw [GoPath.clean, relative] at clean
  simp only [Bool.false_eq_true, if_false] at clean
  split at clean
  · rw [← clean]
    decide
  case isFalse some =>
      obtain ⟨depth, inner, split, noParent⟩ := cleanComponents_relative relative
      have components : splitChar value '/' = cleanComponents value := by
        have free : ∀ part ∈ cleanComponents value, '/' ∉ part.toList :=
          fun part => not_mem_of_mem_cleanComponents
        have parts := splitChar_joined free (by
          rintro none
          exact some (by rw [none]; rfl))
        rwa [clean] at parts
      rw [components, split]
      match depth with
      | 0 => simpa using noParent
      | depth + 1 =>
        exfalso
        rw [split, List.replicate_succ, List.cons_append] at clean
        match rest : List.replicate depth ".." ++ inner with
        | [] =>
          rw [rest] at clean
          exact self clean.symm
        | second :: others =>
          rw [rest, join_cons_cons] at clean
          rw [← clean, String.append_assoc] at parent
          change hasPrefix ("../" ++ _) "../" = false at parent
          rw [hasPrefix_append] at parent
          cases parent

/-- What the lexical checks of path fields have in common. -/
structure Normal (value : String) : Prop where
  relative : isAbs value = false
  clean : clean value = value
  parent : hasPrefix value "../" = false

/-- The one escaping spelling that the common checks leave. -/
theorem Normal.contained_iff (normal : Normal value) :
    Contained value ↔ value ≠ ".." := by
  refine ⟨?_, fun self => contained_of_clean normal.relative normal.clean self normal.parent⟩
  rintro contained rfl
  exact contained.noParent (by decide)

theorem not_contained_of_parent (parent : hasPrefix value "../" = true) :
    ¬ Contained value := by
  rw [contained_iff, not_not, eq_append_of_hasPrefix parent]
  have split := splitChar_append ".." (trimPrefix value "../") '/'
  change splitChar ("../" ++ _) '/' = _ at split
  rw [split]
  exact List.mem_append_left _ (by decide)

/-- A clean relative path is contained exactly when it does not start with `..`. -/
theorem contained_iff_of_clean (relative : isAbs value = false) (clean : clean value = value) :
    Contained value ↔ value ≠ ".." ∧ hasPrefix value "../" = false := by
  constructor
  · intro contained
    have parent : hasPrefix value "../" = false :=
      Bool.eq_false_iff.mpr fun parent => not_contained_of_parent parent contained
    exact ⟨(Normal.mk relative clean parent).contained_iff.mp contained, parent⟩
  · rintro ⟨self, parent⟩
    exact contained_of_clean relative clean self parent

/-- The last component of a path that names a file with an extension is not `..`. -/
theorem ne_parent_of_base (named : base value = name ++ ".rb") : value ≠ ".." := by
  rintro rfl
  have last := congrArg (fun text : String => text.toList.getLast?) named
  simp [base, String.toList_append] at last
  revert last
  decide

end DalecHomebrew.Foundation.GoPath
