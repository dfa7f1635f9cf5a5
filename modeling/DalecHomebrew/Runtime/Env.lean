import DalecHomebrew.Foundation.Container
import DalecHomebrew.Foundation.Upsert

/-!
# The environment of the image

`MergeEnv` merges lists of variables by the key in front of the first equals sign, and
`EnvValue` reads a variable.
-/

namespace DalecHomebrew.Runtime

open Foundation Foundation.Upsert

/-- `strings.Cut` at the first equals sign. -/
def cut (entry : String) : Option (String × String) :=
  match entry.toList.span (· ≠ '=') with
  | (_, []) => none
  | (key, _ :: value) => some (String.ofList key, String.ofList value)

/-- The key of a well-formed entry. -/
def envKey (entry : String) : Option String :=
  match cut entry with
  | none => none
  | some (key, _) => if key = "" then none else some key

/-- The merged entries and the positions of their keys after one more entry. -/
def place (out : List String) (positions : Table String Nat) (entry : String) :
    List String × Table String Nat :=
  match envKey entry with
  | none => (out ++ [entry], positions)
  | some key =>
    match positions.lookup key with
    | some index => (out.set index entry, positions)
    | none => (out ++ [entry], positions.insert key out.length)

theorem place_spec {out : List String} {positions : Table String Nat} (entry : String)
    (indexed : ∀ key, positions.lookup key = position envKey key out) :
    (place out positions entry).1 = upsert envKey out entry ∧
      ∀ key, (place out positions entry).2.lookup key =
        position envKey key (upsert envKey out entry) := by
  simp only [position_upsert, ← indexed]
  unfold place upsert
  cases known : envKey entry with
  | none => simp
  | some key =>
    simp only [Option.bind_some, ← indexed]
    cases found : positions.lookup key with
    | some index =>
      refine ⟨rfl, fun other => ?_⟩
      by_cases same : key = other
      · subst same
        simp [found]
      · simp [same]
    | none =>
      refine ⟨rfl, fun other => ?_⟩
      by_cases same : key = other
      · subst same
        simp [found]
      · simp [same, AList.lookup_insert_ne (Ne.symm same)]

/-- The state of `MergeEnv`. -/
structure EnvTable where
  out : List String := []
  positions : Table String Nat := ∅
  indexed : ∀ key, positions.lookup key = position envKey key out := by intro; rfl

def EnvTable.add (table : EnvTable) (entry : String) : EnvTable where
  out := (place table.out table.positions entry).1
  positions := (place table.out table.positions entry).2
  indexed key := by
    rw [(place_spec entry table.indexed).1, (place_spec entry table.indexed).2]

def mergeEnv (groups : List (List String)) : List String :=
  (groups.foldl (fun table group => group.foldl EnvTable.add table) ({} : EnvTable)).out

def envValue (env : List String) (key : String) : String :=
  let read entry := match cut entry with
    | some (name, value) => if name = key then some value else none
    | none => none
  (env.reverse.findSome? read).getD ""

theorem mergeEnv_eq (groups : List (List String)) :
    mergeEnv groups = merge envKey groups.flatten := by
  rw [mergeEnv, ← List.foldl_flatten]
  exact (List.foldl_hom EnvTable.out fun table entry => (place_spec entry table.indexed).1.symm).symm

/-- A variable has the value of its last entry. -/
theorem envValue_eq {key : String} (named : key ≠ "") (env : List String) :
    envValue env key =
      (((having envKey (some key) env).getLast?.bind cut).map Prod.snd).getD "" := by
  rw [having, List.getLast?_filter, envValue]
  induction env.reverse with
  | nil => rfl
  | cons entry rest ih =>
    rw [List.findSome?_cons, List.find?_cons]
    cases parts : cut entry with
    | none => simpa [envKey, parts] using ih
    | some pair =>
      by_cases same : pair.1 = key
      · simp [envKey, parts, same, named]
      · simpa [envKey, parts, same] using ih

/--
`MergeEnv` keeps every key once, in the order of the first occurrences and with the last
entry, and all entries without a key.  Merging again changes nothing, groups may be merged
in steps, and a variable keeps its value.
-/
theorem mergeEnv_laws (groups : List (List String)) (a b c : List String) :
    (mergeEnv groups).map envKey = (groups.flatten.map envKey).foldl addKey [] ∧
    having envKey none (mergeEnv groups) = having envKey none groups.flatten ∧
    (∀ key, having envKey (some key) (mergeEnv groups) =
      (having envKey (some key) groups.flatten).getLast?.toList) ∧
    mergeEnv [mergeEnv groups] = mergeEnv groups ∧
    mergeEnv [mergeEnv [a, b], c] = mergeEnv [a, b, c] ∧
    ∀ key ≠ "", envValue (mergeEnv groups) key = envValue groups.flatten key := by
  simp only [mergeEnv_eq]
  refine ⟨map_merge _, having_merge _ _, fun key => having_merge _ _, ?_, ?_, fun key named => ?_⟩
  · simpa using @merge_merge_append _ _ _ envKey groups.flatten []
  · simpa using @merge_merge_append _ _ _ envKey (a ++ b) c
  · rw [envValue_eq named, envValue_eq named, having_merge]
    cases (having envKey (some key) groups.flatten).getLast? <;> rfl

theorem mergeEnv_laws_path :
    mergeEnv [["PATH=/bin", "=x"], ["A=1", "PATH=/opt"]] = ["PATH=/opt", "=x", "A=1"] ∧
      envValue (mergeEnv [["PATH=/bin", "=x"], ["A=1", "PATH=/opt"]]) "PATH" =
        envValue ["PATH=/bin", "=x", "A=1", "PATH=/opt"] "PATH" :=
  ⟨by decide, (mergeEnv_laws [["PATH=/bin", "=x"], ["A=1", "PATH=/opt"]] [] [] []).2.2.2.2.2
    "PATH" (by decide)⟩

end DalecHomebrew.Runtime
