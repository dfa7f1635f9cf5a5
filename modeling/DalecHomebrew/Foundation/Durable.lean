import DalecHomebrew.Foundation.Container

/-!
# Directories that survive a power loss

A directory on a device: the entries that are durable, and the updates since
the last sync of the directory, oldest first.  Readers see all updates.  A
power loss keeps the durable entries and, of the later updates, any choice.

What a proof needs to know about a key is one of two things: that the directory
*may hold* it after a power loss, or that it *surely holds* it with one value.
-/

namespace DalecHomebrew.Foundation

/-- A change of one directory entry. -/
inductive Update (Key Value : Type) where
  | put (key : Key) (value : Value)
  | remove (key : Key)
deriving DecidableEq

namespace Update

variable {Key Value : Type}

def key : Update Key Value → Key
  | .put key _ => key
  | .remove key => key

variable [DecidableEq Key]

def apply (update : Update Key Value) (table : Table Key Value) : Table Key Value :=
  match update with
  | .put key value => table.insert key value
  | .remove key => table.erase key

variable {key : Key}

theorem lookup_apply_ne (update : Update Key Value) (table : Table Key Value)
    (different : update.key ≠ key) :
    (update.apply table).lookup key = table.lookup key := by
  cases update with
  | put other value => exact AList.lookup_insert_ne (Ne.symm different)
  | remove other => exact AList.lookup_erase_ne (Ne.symm different)

variable {table : Table Key Value}

/-- The entry that an update leaves was there before, or the update wrote it. -/
theorem lookup_apply_some {update : Update Key Value}
    {value : Value} (found : (update.apply table).lookup key = some value) :
    table.lookup key = some value ∨ update = .put key value := by
  by_cases same : update.key = key
  · subst same
    cases update with
    | put other written =>
      have equal : written = value :=
        Option.some.inj ((AList.lookup_insert table).symm.trans found)
      exact .inr (by rw [key, equal])
    | remove other => exact absurd ((AList.lookup_erase other table).symm.trans found) (by simp)
  · rw [lookup_apply_ne update table same] at found
    exact .inl found

/-- Apply updates in their order. -/
def applyAll (updates : List (Update Key Value)) (table : Table Key Value) : Table Key Value :=
  updates.foldl (fun table update => update.apply table) table

theorem applyAll_append (first second : List (Update Key Value)) (table : Table Key Value) :
    applyAll (first ++ second) table = applyAll second (applyAll first table) :=
  List.foldl_append

variable {updates : List (Update Key Value)}

/-- A key that no update touches keeps its entry. -/
theorem lookup_applyAll_untouched (untouched : ∀ update ∈ updates, update.key ≠ key)
    (table : Table Key Value) :
    (applyAll updates table).lookup key = table.lookup key := by
  induction updates generalizing table with
  | nil => rfl
  | cons update rest ih =>
    have later := ih (fun other member => untouched other (List.mem_cons_of_mem _ member))
      (update.apply table)
    exact later.trans (lookup_apply_ne update table (untouched update List.mem_cons_self))

/-- An entry after some updates is an old one, or one of the updates wrote it. -/
theorem lookup_applyAll_some {value : Value}
    (found : (applyAll updates table).lookup key = some value) :
    table.lookup key = some value ∨ .put key value ∈ updates := by
  refine (foldl_origin (motive := fun table : Table Key Value => table.lookup key = some value)
    (fun _ _ => lookup_apply_some) found).imp_right ?_
  rintro ⟨_, among, rfl⟩
  exact among

/-- Updates that only write values with a property leave an entry with it. -/
theorem lookup_applyAll_property {property : Value → Prop}
    (written : ∀ update ∈ updates, update.key = key →
      ∃ value, update = .put key value ∧ property value)
    (table : Table Key Value) (found : ∃ value, table.lookup key = some value ∧ property value) :
    ∃ value, (applyAll updates table).lookup key = some value ∧ property value := by
  induction updates generalizing table with
  | nil => exact found
  | cons update rest ih =>
    apply ih fun other member => written other (List.mem_cons_of_mem _ member)
    by_cases same : update.key = key
    · obtain ⟨value, rfl, holds⟩ := written update List.mem_cons_self same
      exact ⟨value, AList.lookup_insert table, holds⟩
    · rw [lookup_apply_ne update table same]
      exact found

end Update

/-- The durable entries of a directory and the updates since its last sync. -/
structure Directory (Key Value : Type) where
  durable : Table Key Value
  pending : List (Update Key Value)

namespace Directory

variable {Key Value : Type}

/-- The updates that a power loss keeps: those with a `true` at their place. -/
def selected (kept : List Bool) (updates : List (Update Key Value)) : List (Update Key Value) :=
  ((updates.zip kept).filter Prod.snd).map Prod.fst

variable {update : Update Key Value}

theorem mem_of_selected {kept : List Bool} {updates : List (Update Key Value)}
    (member : update ∈ selected kept updates) : update ∈ updates := by
  obtain ⟨⟨found, _⟩, among, rfl⟩ := List.mem_map.mp member
  exact (List.of_mem_zip (List.mem_filter.mp among).1).1

variable [DecidableEq Key]

def empty : Directory Key Value where
  durable := ∅
  pending := []

/-- What readers see. -/
def current (directory : Directory Key Value) : Table Key Value :=
  Update.applyAll directory.pending directory.durable

/-- An update that is visible and not yet durable. -/
def record (directory : Directory Key Value) (update : Update Key Value) : Directory Key Value :=
  { directory with pending := directory.pending ++ [update] }

/-- A completed sync of the directory. -/
def sync (directory : Directory Key Value) : Directory Key Value where
  durable := directory.current
  pending := []

/-- What a power loss leaves. -/
def survive (kept : List Bool) (directory : Directory Key Value) : Directory Key Value where
  durable := Update.applyAll (selected kept directory.pending) directory.durable
  pending := []

@[simp]
theorem current_record (directory : Directory Key Value) (update : Update Key Value) :
    (directory.record update).current = update.apply directory.current :=
  Update.applyAll_append directory.pending [update] directory.durable

@[simp]
theorem current_sync (directory : Directory Key Value) :
    directory.sync.current = directory.current := rfl

/-! ## What may survive and what surely survives -/

/-- Some power loss leaves an entry with this value. -/
def MayHold (directory : Directory Key Value) (key : Key) (value : Value) : Prop :=
  directory.durable.lookup key = some value ∨ .put key value ∈ directory.pending

/-- Every power loss leaves this entry. -/
def Holds (directory : Directory Key Value) (key : Key) (value : Value) : Prop :=
  directory.durable.lookup key = some value ∧ ∀ update ∈ directory.pending, update.key ≠ key

variable {directory : Directory Key Value} {key : Key} {value : Value}

theorem Holds.mayHold (holds : directory.Holds key value) : directory.MayHold key value :=
  .inl holds.1

theorem Holds.lookup_current (holds : directory.Holds key value) :
    directory.current.lookup key = some value :=
  (Update.lookup_applyAll_untouched holds.2 directory.durable).trans holds.1

theorem mayHold_of_current (found : directory.current.lookup key = some value) :
    directory.MayHold key value :=
  Update.lookup_applyAll_some found

/-- In a directory without unsynced updates the three notions agree. -/
theorem holds_of_settled (settled : directory.pending = []) (may : directory.MayHold key value) :
    directory.Holds key value := by
  rcases may with found | pending
  · exact ⟨found, by simp [settled]⟩
  · simp [settled] at pending

theorem mayHold_record : (directory.record update).MayHold key value ↔
      directory.MayHold key value ∨ update = .put key value := by
  simp only [MayHold, record, List.mem_append, List.mem_singleton, or_assoc, eq_comm]

theorem Holds.record (holds : directory.Holds key value)
    (different : update.key ≠ key) : (directory.record update).Holds key value := by
  exact ⟨holds.1, List.forall_mem_append.mpr ⟨holds.2, List.forall_mem_singleton.mpr different⟩⟩

theorem mayHold_sync :
    directory.sync.MayHold key value ↔ directory.current.lookup key = some value := by
  simp [MayHold, sync]

theorem holds_sync :
    directory.sync.Holds key value ↔ directory.current.lookup key = some value := by
  simp [Holds, sync]

theorem Holds.survive (holds : directory.Holds key value) (kept : List Bool) :
    (directory.survive kept).Holds key value := by
  refine ⟨?_, by simp [Directory.survive]⟩
  refine (Update.lookup_applyAll_untouched ?_ directory.durable).trans holds.1
  intro update member
  exact holds.2 update (mem_of_selected member)

theorem mayHold_of_survive {kept : List Bool}
    (may : (directory.survive kept).MayHold key value) : directory.MayHold key value := by
  rcases may with found | pending
  · rcases Update.lookup_applyAll_some found with old | written
    · exact .inl old
    · exact .inr (mem_of_selected written)
  · simp [survive] at pending

instance decidableHolds [DecidableEq Value] : Decidable (directory.Holds key value) := instDecidableAnd

/-! ## Entries that only change within a property -/

/-- Every power loss leaves an entry with the property. -/
def Keeps (directory : Directory Key Value) (key : Key) (property : Value → Prop) : Prop :=
  (∃ value, directory.durable.lookup key = some value ∧ property value) ∧
    ∀ update ∈ directory.pending, update.key = key →
      ∃ value, update = .put key value ∧ property value

variable {property : Value → Prop}

theorem Holds.keeps (holds : directory.Holds key value) (has : property value) :
    directory.Keeps key property :=
  ⟨⟨value, holds.1, has⟩, fun update member same => absurd same (holds.2 update member)⟩

theorem Keeps.lookup_current (keeps : directory.Keeps key property) :
    ∃ value, directory.current.lookup key = some value ∧ property value :=
  Update.lookup_applyAll_property keeps.2 directory.durable keeps.1

theorem Keeps.record (keeps : directory.Keeps key property)
    (next : update.key = key → ∃ value, update = .put key value ∧ property value) :
    (directory.record update).Keeps key property :=
  ⟨keeps.1, List.forall_mem_append.mpr ⟨keeps.2, List.forall_mem_singleton.mpr next⟩⟩

theorem Keeps.survive (keeps : directory.Keeps key property) (kept : List Bool) :
    (directory.survive kept).Keeps key property :=
  ⟨Update.lookup_applyAll_property (fun update member => keeps.2 update (mem_of_selected member))
    directory.durable keeps.1, by simp [Directory.survive]⟩

/-- A completed sync of the entries that are chosen. -/
def syncWhere (chosen : Key → Bool) (directory : Directory Key Value) : Directory Key Value where
  durable := Update.applyAll (directory.pending.filter fun update => chosen update.key)
    directory.durable
  pending := directory.pending.filter fun update => !chosen update.key

theorem Keeps.syncWhere (keeps : directory.Keeps key property) (chosen : Key → Bool) :
    (directory.syncWhere chosen).Keeps key property :=
  ⟨Update.lookup_applyAll_property
    (fun update member => keeps.2 update (List.mem_of_mem_filter member)) directory.durable
    keeps.1, fun update member => keeps.2 update (List.mem_of_mem_filter member)⟩

/-- What was written last is durable after the sync. -/
theorem holds_syncWhere_record {chosen : Key → Bool} (among : chosen key = true) :
    ((directory.record (.put key value)).syncWhere chosen).Holds key value := by
  refine ⟨?_, fun update member same => ?_⟩
  · simp only [Directory.syncWhere, Directory.record, List.filter_append, Update.applyAll_append]
    simp [Update.key, among, Update.applyAll, Update.apply]
  · subst same
    simp [Directory.syncWhere, among] at member

end Directory

end DalecHomebrew.Foundation
