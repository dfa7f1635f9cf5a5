import DalecHomebrew.RuntimeFS.Scan

/-!
# Which links the planner follows

`finalLinkTarget` stops at a link that it has already followed.  A path may cross one
link more than once and still end: the planner then reports a cycle that is none.

The reference is the resolution of a path as an operating system carries it out, stated
as a relation on the components walked over and those that are left.  It has no set of
visited links and no bound.
-/

namespace DalecHomebrew.RuntimeFS

open Foundation Foundation.GoString
open Foundation.LinkWalk (advance walk maximumLinks)

/-- How the resolution of a path ends: at a path, or where it cannot go on, above the
root or below something that is no directory. -/
inductive PathEnd where
  | reached (path : String)
  | refused
deriving DecidableEq

/-- A component that names an entry of the directory walked to. -/
def IsName (component : String) : Prop :=
  component ≠ "" ∧ component ≠ "." ∧ component ≠ ".."

instance (component : String) : Decidable (IsName component) := by
  unfold IsName
  infer_instance

/--
The resolution of the components in the queue, from the directory on the stack: the links
that are crossed on the way and how it ends.  It is deterministic, so a resolution that
comes back to the same stack and queue has no end.
-/
inductive Resolves (entries : List SourceEntry) :
    List String → List String → List String → PathEnd → Prop where
  | done {stack : List String} : Resolves entries stack [] [] (.reached (join stack "/"))
  | skip {component : String} {stack queue crossed : List String} {ending : PathEnd}
      (empty : component = "" ∨ component = ".")
      (later : Resolves entries stack queue crossed ending) :
      Resolves entries stack (component :: queue) crossed ending
  | escape {queue : List String} : Resolves entries [] (".." :: queue) [] .refused
  | parent {name : String} {stack queue crossed : List String} {ending : PathEnd}
      (later : Resolves entries stack queue crossed ending) :
      Resolves entries (stack ++ [name]) (".." :: queue) crossed ending
  /-- A name that is no link, and a directory if anything follows.  One that the scan does
  not know is passed over: the end of the path decides. -/
  | enter {component : String} {stack queue crossed : List String} {ending : PathEnd}
      (name : IsName component)
      (plain : ∀ entry, byPath entries (join (stack ++ [component]) "/") = some entry →
        entry.typeName ≠ .symlink ∧ (queue = [] ∨ entry.typeName = .directory))
      (later : Resolves entries (stack ++ [component]) queue crossed ending) :
      Resolves entries stack (component :: queue) crossed ending
  | obstructed {component : String} {stack queue : List String} {entry : SourceEntry}
      (name : IsName component)
      (found : byPath entries (join (stack ++ [component]) "/") = some entry)
      (file : entry.typeName ≠ .symlink ∧ entry.typeName ≠ .directory) (more : queue ≠ []) :
      Resolves entries stack (component :: queue) [] .refused
  /-- The target of a link starts at the root of the tree. -/
  | link {component : String} {stack queue crossed : List String} {ending : PathEnd}
      {entry : SourceEntry} (name : IsName component)
      (found : byPath entries (join (stack ++ [component]) "/") = some entry)
      (symlink : entry.typeName = .symlink)
      (later : Resolves entries [] (splitChar entry.linkResolved '/' ++ queue) crossed ending) :
      Resolves entries stack (component :: queue)
        (join (stack ++ [component]) "/" :: crossed) ending

variable {entries : List SourceEntry}

theorem linkNode_of_file {entry : SourceEntry}
    (file : entry.typeName ≠ .symlink ∧ entry.typeName ≠ .directory) : linkNode entry = .file := by
  cases type : entry.typeName <;> simp_all [linkNode]

/-- Up to the first link the planner walks as the resolution does. -/
theorem advance_of_resolves {stack queue crossed : List String} {ending : PathEnd}
    (resolves : Resolves entries stack queue crossed ending) (trace : List String) :
    match advance (fun path => (byPath entries path).map linkNode) queue stack trace with
    | .error failure => crossed = [] ∧ ending = .refused ∧ ∀ path, failure ≠ .cycle path
    | .ok (.arrived last _) => crossed = [] ∧ ending = .reached (join last "/")
    | .ok (.follow path target rest _) => ∃ after, crossed = path :: after ∧
        Resolves entries [] (target ++ rest) after ending := by
  induction resolves generalizing trace with
  | done => exact ⟨rfl, rfl⟩
  | skip empty _ ih => simpa only [advance, if_pos empty] using ih trace
  | escape => simp [advance]
  | parent _ ih => simpa [advance] using ih trace
  | @enter component stack queue crossed ending name plain _ ih =>
    rw [advance, if_neg (by simp [name.1, name.2.1]), if_neg name.2.2]
    cases found : byPath entries (join (stack ++ [component]) "/") with
    | none => simpa only [found, Option.map_none] using ih trace
    | some entry =>
      obtain ⟨noLink, directory⟩ := plain entry found
      cases type : entry.typeName <;> simp_all [linkNode]
  | obstructed name found file more =>
    rw [advance, if_neg (by simp [name.1, name.2.1]), if_neg name.2.2]
    simp [found, linkNode_of_file file, more]
  | link name found symlink later _ =>
    rw [advance, if_neg (by simp [name.1, name.2.1]), if_neg name.2.2]
    simpa [found, linkNode, symlink] using later

/--
With a budget for the links of a resolution, the walk ends as the resolution does if that
crosses no link twice, and is taken for a cycle otherwise.
-/
theorem walk_of_resolves (budget : Nat) {queue crossed : List String} {ending : PathEnd}
    (resolves : Resolves entries [] queue crossed ending) (within : crossed.length ≤ budget)
    (visited trace : List String) :
    let walked := walk (fun path => (byPath entries path).map linkNode) budget visited queue trace
    (crossed.Nodup ∧ crossed.Disjoint visited →
      match walked with
      | .error failure => ending = .refused ∧ ∀ path, failure ≠ .cycle path
      | .ok (final, _) => ending = .reached final) ∧
    (¬ (crossed.Nodup ∧ crossed.Disjoint visited) → ∃ path, walked = .error (.cycle path)) := by
  have advances := advance_of_resolves resolves trace
  rw [walk]
  induction budget generalizing queue crossed visited trace with
  | zero =>
    obtain rfl := List.eq_nil_of_length_eq_zero (Nat.le_zero.mp within)
    split at advances
    case h_1 stopped => simpa [stopped] using advances
    case h_2 arrived => simpa [arrived] using advances
    case h_3 => simp at advances
  | succ budget ih =>
    split at advances
    case h_1 stopped =>
      obtain ⟨rfl, refused⟩ := advances
      simpa [stopped] using refused
    case h_2 arrived =>
      obtain ⟨rfl, reached⟩ := advances
      simpa [arrived] using reached
    case h_3 path target rest known followed =>
      obtain ⟨after, rfl, later⟩ := advances
      simp only [followed]
      by_cases again : path ∈ visited
      · simp only [if_pos again]
        exact ⟨fun fresh => absurd again (fresh.2 List.mem_cons_self), fun _ => ⟨path, rfl⟩⟩
      have same : (path :: after).Nodup ∧ (path :: after).Disjoint visited ↔
          after.Nodup ∧ after.Disjoint (path :: visited) := by
        rw [List.nodup_cons, List.disjoint_cons_left, List.disjoint_cons_right]
        tauto
      simp only [if_neg again, same]
      rw [walk]
      exact ih later (Nat.le_of_succ_le_succ within) (path :: visited) known
        (advance_of_resolves later known)

/-- A resolution of the path of a scanned entry that crosses at most 64 links. -/
def Ends (entries : List SourceEntry) (rel : String) (crossed : List String) (ending : PathEnd) :
    Prop :=
  Resolves entries [] (splitChar rel '/') crossed ending ∧ crossed.length ≤ 64

/-- The planner returns every retained end, and it reports a cycle only for a path that has no
end within the bound. -/
def FindsEnds (entries : List SourceEntry) (rel : String) : Prop :=
  (∀ crossed final entry, Ends entries rel crossed (.reached final) →
      byPath entries final = some entry → entry.retain = true →
      finalLinkTarget entries rel = .ok entry) ∧
    ∀ path, finalLinkTarget entries rel = .error (linkFailure rel (.cycle path)) →
      ∀ crossed ending, ¬ Ends entries rel crossed ending

/-- The report of a cycle is that of no other failure. -/
theorem eq_cycle_of_linkFailure {rel path : String} {failure : LinkWalk.Failure}
    (same : linkFailure rel failure = linkFailure rel (.cycle path)) :
    ∃ other, failure = .cycle other := by
  cases failure with
  | escapes =>
    have initial := congrArg (fun failure => failure.message.toList.head?) same
    simp [linkFailure] at initial
  | barred | notDirectory => simp [linkFailure] at same
  | cycle other => exact ⟨other, rfl⟩

/-- The planner follows a path to its end precisely when no link is crossed twice. -/
theorem finalLinkTarget_complete_iff (entries : List SourceEntry) (rel : String) :
    FindsEnds entries rel ↔ ∀ crossed ending, Ends entries rel crossed ending → crossed.Nodup := by
  constructor
  · intro finds crossed ending ends
    by_contra twice
    obtain ⟨path, walked⟩ := (walk_of_resolves maximumLinks ends.1 ends.2 [] []).2
      fun fresh => twice fresh.1
    refine finds.2 path ?_ crossed ending ends
    rw [finalLinkTarget, resolveLink, LinkWalk.resolve, walked]
  · intro once
    have walks (crossed : List String) (ending : PathEnd)
        (ends : Ends entries rel crossed ending) :=
      (walk_of_resolves maximumLinks ends.1 ends.2 [] []).1
        ⟨once crossed ending ends, List.disjoint_nil_right crossed⟩
    constructor
    · intro crossed final entry ends found retained
      have walked := walks crossed _ ends
      rw [finalLinkTarget, resolveLink, LinkWalk.resolve]
      split at walked
      case h_1 => simp at walked
      case h_2 last known reached =>
        obtain ⟨⟩ := walked
        simp [reached, retainedTarget, found, retained]
    · intro path cycle crossed ending ends
      have walked := walks crossed ending ends
      rw [finalLinkTarget, resolveLink, LinkWalk.resolve] at cycle
      split at walked
      case h_1 failure stopped =>
        rw [stopped] at cycle
        obtain ⟨other, rfl⟩ := eq_cycle_of_linkFailure (Except.error.inj cycle)
        exact walked.2 other rfl
      case h_2 last known reached =>
        rw [reached] at cycle
        dsimp only [retainedTarget] at cycle
        split at cycle
        · split_ifs at cycle <;> simp [runtimeError, linkFailure] at cycle
        · simp [runtimeError, linkFailure] at cycle

namespace Sample

def retainedEntry (rel : String) (typeName : EntryType) (linkResolved : String) : SourceEntry :=
  { rel, typeName, mode := { perm := 0o755 }, linkResolved, retain := true }

/-- `x` leads to `d/y` in the linked directory `d`, and `e/y` leads back through `d`. -/
def crossing : List SourceEntry :=
  [retainedEntry "d" .symlink "e", retainedEntry "e" .directory "",
    retainedEntry "e/y" .symlink "d/z", retainedEntry "e/z" .regular "",
    retainedEntry "x" .symlink "d/y"]

end Sample

/-- The link `x` ends at the retained file `e/z` after four links, and is refused. -/
theorem terminating_link_refused :
    Ends Sample.crossing "x" ["x", "d", "e/y", "d"] (.reached "e/z") ∧
      byPath Sample.crossing "e/z" = some (Sample.retainedEntry "e/z" .regular "") ∧
      finalLinkTarget Sample.crossing "x" = .error (linkFailure "x" (.cycle "d")) := by
  refine ⟨⟨?_, by decide⟩, by decide, by decide⟩
  -- `x`, `d` and `e/y` lead to `d/z`, and `d` once more to `e/z`
  refine .link (by decide) rfl rfl (.link (by decide) rfl rfl ?_)
  refine .enter (by decide) (by rintro _ ⟨⟩; decide) (.link (by decide) rfl rfl ?_)
  refine .link (by decide) rfl rfl (.enter (by decide) (by rintro _ ⟨⟩; decide) ?_)
  exact .enter (by decide) (by rintro _ ⟨⟩; decide) .done

end DalecHomebrew.RuntimeFS
