import DalecHomebrew.CatalogResolver.Extension

/-!
# Chains of mappings

`resolveMapping` follows the mappings of one resolver.  It ends on every table: at
the end of the chain, or at the first identity that comes a second time.
-/

namespace DalecHomebrew.CatalogResolver

open Foundation Relation
open Catalog (FormulaID TapID)

variable {mappings : Table FormulaID FormulaID} {chain : List FormulaID}
  {id last other : FormulaID}

def Maps (mappings : Table FormulaID FormulaID) (id next : FormulaID) : Prop :=
  mappings.lookup id = some next

/-- An identity is on the chain of mappings from another one. -/
abbrev Leads (mappings : Table FormulaID FormulaID) : FormulaID → FormulaID → Prop :=
  ReflTransGen (Maps mappings)

def EntersCycle (mappings : Table FormulaID FormulaID) (id : FormulaID) : Prop :=
  ∃ other, Leads mappings id other ∧ TransGen (Maps mappings) other other

theorem maps_unique : Relator.RightUnique (Maps mappings) :=
  fun _ _ _ first second => Option.some.inj (first.symm.trans second)

theorem eq_of_leads (missing : mappings.lookup last = none) (path : Leads mappings last other) :
    last = other := by
  rcases path.cases_head with same | ⟨next, mapped, _⟩
  · exact same
  · cases missing.symm.trans mapped

/-- Every identity of a chain leads to its end. -/
theorem leads_end (path : Leads mappings id last) (missing : mappings.lookup last = none)
    (onChain : Leads mappings id other) : Leads mappings other last := by
  rcases ReflTransGen.total_of_right_unique maps_unique path onChain with after | before
  · rw [eq_of_leads missing after]
  · exact before

/-- A cycle is never left. -/
theorem cycle_of_leads (cycle : TransGen (Maps mappings) id id) (path : Leads mappings id other) :
    TransGen (Maps mappings) other other := by
  induction path with
  | refl => exact cycle
  | tail _ mapped ih =>
    obtain ⟨next, also, back⟩ := TransGen.head'_iff.mp ih
    obtain rfl := maps_unique mapped also
    exact TransGen.tail' back mapped

theorem not_entersCycle (path : Leads mappings id last) (missing : mappings.lookup last = none) :
    ¬ EntersCycle mappings id := by
  rintro ⟨other, onChain, cycle⟩
  obtain ⟨next, mapped, _⟩ :=
    TransGen.head'_iff.mp (cycle_of_leads cycle (leads_end path missing onChain))
  cases missing.symm.trans mapped

/-- Every mapping that a chain has passed leads on to the next identity of the chain. -/
def Passes (mappings : Table FormulaID FormulaID) (chain : List FormulaID) (id : FormulaID) :
    Prop :=
  ∀ passed ∈ chain, TransGen (Maps mappings) passed id ∧
    ∃ next, Maps mappings passed next ∧ (next ∈ chain ∨ next = id)

theorem Passes.append {next : FormulaID} (passes : Passes mappings chain id)
    (found : Maps mappings id next) : Passes mappings (chain ++ [id]) next := by
  intro passed member
  rcases List.mem_append.mp member with earlier | last
  · obtain ⟨path, after, mapped, inside⟩ := passes passed earlier
    exact ⟨path.tail found, after, mapped, .inl (by simpa using inside)⟩
  · rw [List.mem_singleton.mp last]
    exact ⟨.single found, next, found, .inr rfl⟩

/-- A chain that comes back to one of its identities has passed everything it leads to. -/
theorem Passes.closed (passes : Passes mappings chain id) (repeated : id ∈ chain)
    (path : Leads mappings id other) : other ∈ chain := by
  induction path with
  | refl => exact repeated
  | tail _ mapped inside =>
    obtain ⟨_, next, also, known⟩ := passes _ inside
    obtain rfl := maps_unique mapped also
    rcases known with among | rfl
    · exact among
    · exact repeated

/-- What following the mappings from an identity finds and marks. -/
structure Follows (mappings : Table FormulaID FormulaID) (chain : List FormulaID) (id : FormulaID)
    (found : Marked FormulaID) : Prop where
  ends : ∀ last, found.result = .ok last → Leads mappings id last ∧ mappings.lookup last = none
  cycles : ∀ failure, found.result = .error failure →
    EntersCycle mappings id ∧ failure.missingTap? = none
  sound : ∀ tap ∈ found.taps, ∃ other, Leads mappings id other ∧
    FormulaID.isCore other = false ∧ FormulaID.tap other = tap
  complete : ∀ other, Leads mappings id other → FormulaID.isCore other = false →
    other ∈ chain ∨ FormulaID.tap other ∈ found.taps

theorem mem_chainTaps {tap : TapID} :
    tap ∈ chainTaps id ↔ FormulaID.isCore id = false ∧ FormulaID.tap id = tap := by
  rw [chainTaps]
  cases FormulaID.isCore id
  · simpa using eq_comm
  · simp

theorem follows_followMapping (passes : Passes mappings chain id) :
    Follows mappings chain id (followMapping mappings chain id) := by
  induction chain, id using followMapping.induct mappings with
  | case1 chain id repeated =>
    rw [followMapping_repeated repeated]
    refine ⟨by rintro _ ⟨⟩, ?_, fun tap marked => ⟨id, .refl, mem_chainTaps.mp marked⟩,
      fun other path _ => .inl (passes.closed repeated path)⟩
    rintro _ ⟨⟩
    exact ⟨⟨id, .refl, (passes id repeated).1⟩, rfl⟩
  | case2 chain id new missing =>
    rw [followMapping_none new missing]
    refine ⟨?_, by rintro _ ⟨⟩, fun tap marked => ⟨id, .refl, mem_chainTaps.mp marked⟩, ?_⟩
    · rintro _ ⟨⟩
      exact ⟨.refl, missing⟩
    · intro other path outside
      obtain rfl := eq_of_leads missing path
      exact .inr (mem_chainTaps.mpr ⟨outside, rfl⟩)
  | case3 chain id new next found ih =>
    rw [followMapping_some new found]
    have rest := ih (passes.append found)
    refine ⟨fun last result => ?_, fun failure result => ?_, fun tap marked => ?_, ?_⟩
    · exact (rest.ends last result).imp_left (.head found)
    · obtain ⟨⟨other, path, cycle⟩, text⟩ := rest.cycles failure result
      exact ⟨⟨other, .head found path, cycle⟩, text⟩
    · rcases List.mem_append.mp marked with here | later
      · exact ⟨id, .refl, mem_chainTaps.mp here⟩
      · obtain ⟨other, path, holds⟩ := rest.sound tap later
        exact ⟨other, .head found path, holds⟩
    · intro other path outside
      by_cases same : other = id
      · subst same
        exact .inr (List.mem_append_left _ (mem_chainTaps.mpr ⟨outside, rfl⟩))
      obtain ⟨after, mapped, onward⟩ := path.cases_head.resolve_left (Ne.symm same)
      obtain rfl := maps_unique found mapped
      refine (rest.complete other onward outside).imp (fun passed => ?_) (List.mem_append_right _)
      simpa [same] using passed

theorem follows_resolveMapping (resolver : Resolver) (id : FormulaID) :
    Follows resolver.mappings [] id (resolver.resolveMapping id) :=
  follows_followMapping fun _ passed => absurd passed List.not_mem_nil

/--
On every table `resolveMapping` returns the end of the chain of mappings from an
identity, or an error exactly when the chain enters a cycle, and marks the taps
outside core of all identities of the chain.
-/
theorem resolveMapping_chain (resolver : Resolver) (id : FormulaID) :
    (∀ last, (resolver.resolveMapping id).result = .ok last ↔
      Leads resolver.mappings id last ∧ resolver.mappings.lookup last = none) ∧
    ((∃ failure, (resolver.resolveMapping id).result = .error failure) ↔
      EntersCycle resolver.mappings id) ∧
    ∀ tap, tap ∈ (resolver.resolveMapping id).taps ↔
      ∃ other, Leads resolver.mappings id other ∧
        FormulaID.isCore other = false ∧ FormulaID.tap other = tap := by
  have follows := follows_resolveMapping resolver id
  refine ⟨fun last => ⟨follows.ends last, ?_⟩, ⟨?_, fun cyclic => ?_⟩, fun tap =>
    ⟨follows.sound tap, ?_⟩⟩
  · rintro ⟨path, missing⟩
    cases result : (resolver.resolveMapping id).result with
    | error failure => exact absurd (follows.cycles failure result).1 (not_entersCycle path missing)
    | ok other =>
      obtain ⟨otherPath, otherMissing⟩ := follows.ends other result
      rw [eq_of_leads missing (leads_end otherPath otherMissing path)]
  · rintro ⟨failure, result⟩
    exact (follows.cycles failure result).1
  · cases result : (resolver.resolveMapping id).result with
    | error failure => exact ⟨failure, rfl⟩
    | ok last =>
      obtain ⟨path, missing⟩ := follows.ends last result
      exact absurd cyclic (not_entersCycle path missing)
  · rintro ⟨other, path, outside, rfl⟩
    simpa using follows.complete other path outside

end DalecHomebrew.CatalogResolver
