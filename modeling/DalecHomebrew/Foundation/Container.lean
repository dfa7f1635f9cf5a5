import DalecHomebrew.Foundation.Fold
import Mathlib.Data.List.AList
import Mathlib.Data.List.Induction
import Mathlib.Data.List.Sort

/-!
# Maps and sorted slices

A Go map is a finite table.  Where the source ranges over a map the order is
unspecified; the models range over the keys in the order of the table and
prove nothing that depends on it.  `slices.SortFunc` by a key is a stable
insertion sort: the library function is not stable, and no result below uses
more than that the elements stay the same.
-/

namespace DalecHomebrew.Foundation

universe u v

/-- A Go map or a directory: finitely many keys, one value each. -/
abbrev Table (Key Value : Type) := AList fun _ : Key => Value

/-- Tables are compared by their entries, so that the comparison can be evaluated. -/
instance {Key Value : Type} [DecidableEq Key] [DecidableEq Value] :
    DecidableEq (Table Key Value) :=
  fun left right => decidable_of_iff (left.entries = right.entries) AList.ext_iff.symm

namespace Table

variable {Key Value : Type} [DecidableEq Key]

/-- The value of a key, or the zero value of a slice. -/
def slice {Item : Type} (table : Table Key (List Item)) (key : Key) : List Item :=
  (table.lookup key).getD []

/-- The values of a table, in the order of its keys. -/
def values (table : Table Key Value) : List Value :=
  table.entries.map Sigma.snd

variable {table : Table Key Value}

theorem mem_values {value : Value} :
    value ∈ table.values ↔ ∃ key, table.lookup key = some value := by
  simp only [values, List.mem_map]
  constructor
  · rintro ⟨entry, member, rfl⟩
    exact ⟨entry.1, AList.mem_lookup_iff.mpr member⟩
  · rintro ⟨key, found⟩
    exact ⟨⟨key, value⟩, AList.mem_lookup_iff.mp found, rfl⟩

theorem mem_keys_iff {key : Key} :
    key ∈ table.keys ↔ ∃ value, table.lookup key = some value := by
  rw [← AList.mem_keys, ← AList.lookup_isSome, Option.isSome_iff_exists]

theorem lookup_insert_eq_some {key other : Key} {value found : Value} :
    (table.insert key value).lookup other = some found ↔
      other = key ∧ value = found ∨ other ≠ key ∧ table.lookup other = some found := by
  by_cases same : other = key
  · subst same
    simp [AList.lookup_insert]
  · simp [AList.lookup_insert_ne same, same]

theorem lookup_isNone_eq_false {key : Key} :
    (table.lookup key).isNone = false ↔ key ∈ table.keys := by
  rw [mem_keys_iff, ← Option.isSome_iff_exists]
  cases table.lookup key <;> simp

theorem length_keys_insert {key : Key} (value : Value) (absent : table.lookup key = none) :
    (table.insert key value).keys.length = table.keys.length + 1 := by
  have missing : key ∉ table.keys := by
    rw [← AList.mem_keys, ← AList.lookup_isSome, absent]
    simp
  rw [AList.keys_insert, List.erase_of_not_mem missing, List.length_cons]

/-- The map with a function applied to its values. -/
def mapValues {Other : Type} (each : Value → Other) (table : Table Key Value) : Table Key Other where
  entries := table.entries.map (Sigma.map id fun _ => each)
  nodupKeys := by
    rw [List.NodupKeys, List.keys, List.map_map]
    exact table.nodupKeys

@[simp]
theorem lookup_mapValues {Other : Type} (each : Value → Other) (table : Table Key Value)
    (key : Key) : (table.mapValues each).lookup key = (table.lookup key).map each :=
  List.dlookup_map₂ key

/-- The map that a loop over a slice fills under a key of its elements. -/
def ofList {Item : Type} (key : Item → Key) (items : List Item) : Table Key Item :=
  items.foldl (fun table item => table.insert (key item) item) ∅

section Loops

variable {Item : Type} {key : Item → Key} {value : Item → Value} {items : List Item} {wanted : Key}

/-- The last element with a key is the one that the loop leaves under it. -/
theorem lookup_foldl_insert (items : List Item) (table : Table Key Value) :
    (items.foldl (fun table item => table.insert (key item) (value item)) table).lookup wanted =
      ((items.reverse.find? fun item => key item = wanted).map value).or (table.lookup wanted) := by
  induction items generalizing table with
  | nil => simp
  | cons head tail ih =>
    rw [List.foldl_cons, ih, List.reverse_cons, List.find?_append, Option.map_or, Option.or_assoc]
    congr 1
    by_cases same : key head = wanted
    · subst same
      simp
    · rw [AList.lookup_insert_ne (Ne.symm same)]
      simp [same]

/-- A loop that inserts under a key knows only what it inserted, and something for every key. -/
theorem lookup_foldl_insertWith (items : List Item) :
    (∀ wanted found, (items.foldl (fun table item => table.insert (key item) (value item))
        (∅ : Table Key Value)).lookup wanted = some found →
        ∃ item ∈ items, key item = wanted ∧ value item = found) ∧
      ∀ item ∈ items, ∃ found, (items.foldl (fun table item => table.insert (key item) (value item))
          (∅ : Table Key Value)).lookup (key item) = some found := by
  simp only [lookup_foldl_insert, AList.lookup_empty, Option.or_none, Option.map_eq_some_iff]
  refine ⟨?_, fun item member => ?_⟩
  · rintro wanted _ ⟨item, last, rfl⟩
    exact ⟨item, List.mem_reverse.mp (List.mem_of_find?_eq_some last),
      of_decide_eq_true (List.find?_some last :), rfl⟩
  · have known : (items.reverse.find? fun other => key other = key item).isSome :=
      List.find?_isSome.mpr ⟨item, List.mem_reverse.mpr member, decide_eq_true rfl⟩
    obtain ⟨last, found⟩ := Option.isSome_iff_exists.mp known
    exact ⟨value last, last, found, rfl⟩

/-- With distinct keys the loop knows exactly the values it inserted. -/
theorem lookup_foldl_insertWith_of_nodup (distinct : (items.map key).Nodup) {found : Value} :
    (items.foldl (fun table item => table.insert (key item) (value item))
      (∅ : Table Key Value)).lookup wanted = some found ↔
      ∃ item ∈ items, key item = wanted ∧ value item = found := by
  obtain ⟨known, present⟩ := @lookup_foldl_insertWith Key Value _ Item key value items
  refine ⟨known wanted found, ?_⟩
  rintro ⟨item, member, rfl, rfl⟩
  obtain ⟨other, lookup⟩ := present item member
  obtain ⟨source, among, same, rfl⟩ := known _ _ lookup
  rw [lookup, List.inj_on_of_nodup_map distinct among member same]

/-- With distinct keys the map knows exactly the elements of the slice. -/
theorem lookup_ofList (distinct : (items.map key).Nodup) {item : Item} :
    (ofList key items).lookup wanted = some item ↔ item ∈ items ∧ key item = wanted := by
  rw [ofList]
  refine (lookup_foldl_insertWith_of_nodup distinct).trans
    ⟨?_, fun known => ⟨item, known.1, known.2, rfl⟩⟩
  rintro ⟨item, member, same, rfl⟩
  exact ⟨member, same⟩

theorem mem_keys_ofList :
    wanted ∈ (ofList key items).keys ↔ wanted ∈ items.map key := by
  rw [← AList.mem_keys, ← AList.lookup_isSome, ofList, lookup_foldl_insert, AList.lookup_empty,
    Option.or_none, Option.isSome_map, List.find?_isSome]
  simp

end Loops

/-- A loop that inserts an entry for every element knows the old entries and the new ones. -/
theorem lookup_of_insertNew {Item State Error : Type} {step : State → Item → Except Error State}
    {table : State → Table Key Value} {key : Item → Key} {value : Item → Value}
    (inserts : ∀ source item target, step source item = .ok target →
      (table source).lookup (key item) = none ∧
        table target = (table source).insert (key item) (value item))
    {items : List Item} {source target : State}
    (loop : items.foldlM step source = .ok target) (wanted : Key) (found : Value) :
    (table target).lookup wanted = some found ↔ (table source).lookup wanted = some found ∨
        ∃ item ∈ items, key item = wanted ∧ value item = found := by
  induction items generalizing source with
  | nil =>
    obtain rfl := foldlM_nil_eq_ok.mp loop
    simp
  | cons item rest ih =>
    obtain ⟨middle, first, later⟩ := foldlM_cons_eq_ok.mp loop
    obtain ⟨absent, inserted⟩ := inserts source item middle first
    have added : (table middle).lookup wanted = some found ↔
        (table source).lookup wanted = some found ∨ key item = wanted ∧ value item = found := by
      rw [inserted]
      by_cases same : key item = wanted
      · subst same
        simp [absent]
      · simp [AList.lookup_insert_ne (Ne.symm same), same]
    rw [ih later, added, List.exists_mem_cons_iff, or_assoc]

end Table

/-! ## Sorted slices -/

section SortByKey

variable {Item : Type u} {Key : Type v} [LinearOrder Key]

/-- `slices.SortFunc` with a comparison of keys. -/
def sortByKey (key : Item → Key) (items : List Item) : List Item :=
  items.insertionSort fun left right => key left ≤ key right

theorem sortByKey_perm (key : Item → Key) (items : List Item) :
    (sortByKey key items).Perm items :=
  List.perm_insertionSort _ items

@[simp]
theorem mem_sortByKey {key : Item → Key} {items : List Item} {item : Item} :
    item ∈ sortByKey key items ↔ item ∈ items :=
  (sortByKey_perm key items).mem_iff

theorem sortByKey_pairwise (key : Item → Key) (items : List Item) :
    (sortByKey key items).Pairwise fun left right => key left ≤ key right := by
  have total : Std.Total fun left right : Item => key left ≤ key right :=
    ⟨fun left right => le_total (key left) (key right)⟩
  have transitive : IsTrans Item fun left right => key left ≤ key right :=
    ⟨fun _ _ _ => le_trans⟩
  exact List.pairwise_insertionSort _ items

@[simp]
theorem sortByKey_sortByKey (key : Item → Key) (items : List Item) :
    sortByKey key (sortByKey key items) = sortByKey key items :=
  (sortByKey_pairwise key items).insertionSort_eq

/-- Elements that their keys tell apart have only one sorted order. -/
theorem sortByKey_eq_of_perm {key : Item → Key} {items others : List Item}
    (same : items.Perm others)
    (apart : ∀ left ∈ items, ∀ right ∈ items, key left = key right → left = right) :
    sortByKey key items = sortByKey key others := by
  refine List.Perm.eq_of_pairwise ?_ (sortByKey_pairwise key items) (sortByKey_pairwise key others)
    ((sortByKey_perm key items).trans (same.trans (sortByKey_perm key others).symm))
  intro left right leftMember rightMember below above
  exact apart left (mem_sortByKey.mp leftMember) right
    (same.mem_iff.mpr (mem_sortByKey.mp rightMember)) (le_antisymm below above)

end SortByKey

/-! ## Paired slices -/

section Paired

variable {Left : Type u} {Right : Type v} {related : Left → Right → Prop} {lefts : List Left}
  {rights : List Right}

theorem exists_left_of_forall₂
    (paired : List.Forall₂ related lefts rights) {right : Right} (member : right ∈ rights) :
    ∃ left ∈ lefts, related left right := by
  induction paired with
  | nil => cases member
  | @cons left other _ _ head _ ih =>
    rcases List.mem_cons.mp member with rfl | later
    · exact ⟨left, List.mem_cons_self, head⟩
    · obtain ⟨found, among, holds⟩ := ih later
      exact ⟨found, List.mem_cons_of_mem _ among, holds⟩

theorem exists_right_of_forall₂
    (paired : List.Forall₂ related lefts rights) {left : Left} (member : left ∈ lefts) :
    ∃ right ∈ rights, related left right :=
  exists_left_of_forall₂ paired.flip member

theorem forall₂_imp_of_mem {other : Left → Right → Prop}
    (paired : List.Forall₂ related lefts rights)
    (implies : ∀ left ∈ lefts, ∀ right, related left right → other left right) :
    List.Forall₂ other lefts rights := by
  induction paired with
  | nil => exact .nil
  | cons head _ ih =>
    refine .cons (implies _ List.mem_cons_self _ head) (ih fun left member => ?_)
    exact implies left (List.mem_cons_of_mem _ member)

/-- Results that every pair of elements has are the results of the paired lists. -/
theorem exists_forall₂_of_forall₂ {Result : Type*} {made : Right → Result → Prop}
    {kept : Left → Result → Prop} (paired : List.Forall₂ related lefts rights)
    (each : ∀ left ∈ lefts, ∀ right, related left right → ∃ result, made right result ∧
      kept left result) :
    ∃ results, List.Forall₂ made rights results ∧ List.Forall₂ kept lefts results := by
  induction paired with
  | nil => exact ⟨[], .nil, .nil⟩
  | cons head _ ih =>
    obtain ⟨result, first, firstKept⟩ := each _ List.mem_cons_self _ head
    obtain ⟨results, later, laterKept⟩ :=
      ih fun left member => each left (List.mem_cons_of_mem _ member)
    exact ⟨result :: results, .cons first later, .cons firstKept laterKept⟩

theorem forall₂_trans {Result : Type*} {made : Right → Result → Prop}
    {whole : Left → Result → Prop} {results : List Result}
    (through : ∀ left right result, related left right → made right result → whole left result)
    (first : List.Forall₂ related lefts rights) (second : List.Forall₂ made rights results) :
    List.Forall₂ whole lefts results := by
  induction first generalizing results with
  | nil =>
    cases second
    exact List.Forall₂.nil
  | cons head _ ih =>
    cases second with
    | cons next rest => exact List.Forall₂.cons (through _ _ _ head next) (ih rest)

theorem map_eq_map_of_forall₂ {Value : Type*} {left : Left → Value} {right : Right → Value}
    (paired : List.Forall₂ related lefts rights)
    (same : ∀ first second, related first second → left first = right second) :
    lefts.map left = rights.map right := by
  induction paired with
  | nil => rfl
  | cons head _ ih => rw [List.map_cons, List.map_cons, same _ _ head, ih]

end Paired

end DalecHomebrew.Foundation
