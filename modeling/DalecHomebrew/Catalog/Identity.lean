import DalecHomebrew.Homebrew.FormulaID

/-!
# Wire identities of the catalog protocol

`internal/catalog/identity.go`.  `TapID` and `FormulaID` stay strings on the
wire; every accessor parses the string again and answers with the empty string
when it is not in canonical form.
-/

namespace DalecHomebrew.Catalog

open Homebrew Foundation.GoString

def parseFormulaID (value : String) : Except String FormulaID :=
  (parse value).map FormulaIdentity.string

namespace TapID

/-- The parsed identity of a canonical tap string. -/
def shared? (id : TapID) : Option Tap :=
  match parseTap id with
  | .ok tap => if tap.string = id then some tap else none
  | .error _ => none

def validate (id : TapID) : Except String Unit :=
  match parseTap id with
  | .error message => .error message
  | .ok tap =>
    if tap.string = id then .ok () else .error ("tap ID " ++ quote id ++ " is not canonical")

def owner (id : TapID) : String := ((shared? id).map Tap.owner).getD ""

def name (id : TapID) : String := ((shared? id).map Tap.name).getD ""

def isCore (id : TapID) : Bool := id == coreTap.string

end TapID

namespace FormulaID

/-- The parsed identity of a fully qualified Formula string. -/
def shared? (id : FormulaID) : Option FormulaIdentity :=
  match parse id with
  | .ok parsed => if parsed.string = id then some parsed else none
  | .error _ => none

def validate (id : FormulaID) : Except String Unit :=
  match parse id with
  | .error message => .error message
  | .ok parsed =>
    if parsed.string = id then .ok ()
    else .error ("Formula ID " ++ quote id ++ " is not fully qualified")

def tap (id : FormulaID) : TapID := ((shared? id).map fun parsed => parsed.tap.string).getD ""

def name (id : FormulaID) : String := ((shared? id).map FormulaIdentity.name).getD ""

def isCore (id : FormulaID) : Bool := tap id == coreTap.string

variable {value : String}

theorem shared?_string {parsed : FormulaIdentity}
    (read : parse value = .ok parsed) : shared? parsed.string = some parsed := by
  simp [shared?, parse_string read]

section

variable {id : FormulaID} (valid : validate id = .ok ())

include valid

/-- A string that validates is the canonical form of what it parses to. -/
theorem string_of_validate : ∃ parsed, parse id = .ok parsed ∧ parsed.string = id := by
  unfold validate at valid
  cases read : parse id with
  | error message => simp [read] at valid
  | ok parsed => exact ⟨parsed, rfl, by simpa [read] using valid⟩

theorem parseFormulaID_of_validate : parseFormulaID id = .ok id := by
  obtain ⟨parsed, read, same⟩ := string_of_validate valid
  rw [parseFormulaID, read, ← same]
  rfl

/-- A valid identity is its name below its tap. -/
theorem eq_append_of_validate :
    id = tap id ++ "/" ++ name id ∧ validateFormulaName (name id) = .ok () := by
  obtain ⟨parsed, read, same⟩ := string_of_validate valid
  have shared : shared? id = some parsed := same ▸ shared?_string read
  obtain ⟨-, -, -, nameValid⟩ := newFormulaID_ok.mp (newFormulaID_of_parse read)
  simp only [tap, name, shared, Option.map_some, Option.getD_some]
  exact ⟨by rw [← string_of_parse read, same], nameValid⟩

end

section

variable {id : FormulaID} (parsed : parseFormulaID value = .ok id)

include parsed

theorem string_of_parseFormulaID :
    ∃ identity, parse value = .ok identity ∧ identity.string = id := by
  unfold parseFormulaID at parsed
  cases read : parse value with
  | error message => simp [read, Except.map] at parsed
  | ok identity => exact ⟨identity, rfl, by simpa [read, Except.map] using parsed⟩

theorem exists_of_parseFormulaID :
    ∃ identity, parse value = .ok identity ∧ shared? id = some identity := by
  obtain ⟨identity, read, rfl⟩ := string_of_parseFormulaID parsed
  exact ⟨identity, read, shared?_string read⟩

theorem tap_ne_empty :
    tap id ≠ "" := by
  obtain ⟨identity, read, shared⟩ := exists_of_parseFormulaID parsed
  obtain ⟨-, ownerValid, -⟩ := newFormulaID_ok.mp (newFormulaID_of_parse read)
  simp [tap, shared, Tap.string_of_component (component_owner ownerValid)]

end

section

variable {id : FormulaID} (bare : containsChar value '/' = false)
  (parsed : parseFormulaID value = .ok id)

include bare parsed

/-- A bare name denotes the Formula of core with that name. -/
theorem name_of_bare : isCore id = true ∧ name id = value := by
  obtain ⟨identity, read, shared⟩ := exists_of_parseFormulaID parsed
  simp [isCore, tap, name, shared, identity_of_bare bare read]

theorem eq_of_bare : id = "homebrew/core/" ++ value := by
  obtain ⟨identity, read, rfl⟩ := string_of_parseFormulaID parsed
  rw [string_of_parse read, identity_of_bare bare read]
  rfl

end

/-- A qualified spelling is the identity it denotes. -/
theorem eq_of_qualified {id : FormulaID} (qualified : containsChar value '/' = true)
    (parsed : parseFormulaID value = .ok id) : id = value := by
  obtain ⟨identity, read, rfl⟩ := string_of_parseFormulaID parsed
  exact string_of_qualified qualified read

/-- The identity of a name below a tap has that tap and that name. -/
theorem parts_of_append {owner : TapID} {id : FormulaID} (bare : containsChar value '/' = false)
    (parsed : parseFormulaID (owner ++ "/" ++ value) = .ok id) :
    tap id = owner ∧ name id = value := by
  obtain ⟨identity, read, shared⟩ := exists_of_parseFormulaID parsed
  obtain ⟨-, -, -, nameValid⟩ := newFormulaID_ok.mp (newFormulaID_of_parse read)
  have canonical : identity.string = owner ++ "/" ++ value :=
    string_of_qualified (by simp [containsChar]) read
  rw [string_of_parse read] at canonical
  have parts := eq_of_append_slash canonical (component_formula nameValid).slashFree
    (by simpa [containsChar] using bare)
  simpa [tap, name, shared] using parts

end FormulaID

end DalecHomebrew.Catalog
