import DalecHomebrew.Catalog.Types
import DalecHomebrew.Foundation.Fold
import DalecHomebrew.Foundation.GoString

/-!
# Formula and tap identities

`internal/homebrew/formulaid` and the wire identities of `internal/catalog`
built on it.  A `Tap` or a `FormulaID` is only obtained from the parsers, and
the wire strings `TapID` and `FormulaID` of the catalog protocol are read back
through them: `owner`, `name` and `tap` of a string that does not validate are
empty, as in the source.
-/

namespace DalecHomebrew.Homebrew

open Foundation Foundation.GoString

def maxOwnerBytes : Nat := 39
def maxTapBytes : Nat := 91
def maxFormulaBytes : Nat := 252
def maxTapIDBytes : Nat := maxOwnerBytes + 1 + maxTapBytes
def maxFormulaIDBytes : Nat := maxTapIDBytes + 1 + maxFormulaBytes

/-- `formulaid.Tap`. -/
structure Tap where
  owner : String
  name : String
deriving DecidableEq

/-- `formulaid.FormulaID`. -/
structure FormulaIdentity where
  tap : Tap
  name : String
deriving DecidableEq

def coreTap : Tap where
  owner := "homebrew"
  name := "core"

/-! ## Component grammar -/

def isLowerAlphaNumeric (character : Char) : Bool :=
  ('a' ≤ character ∧ character ≤ 'z') || ('0' ≤ character ∧ character ≤ '9')

def validateComponent (kind value : String) (maxBytes : Nat) : Except String Unit :=
  if value = "" then
    .error (kind ++ " component is empty")
  else if value = "." ∨ value = ".." then
    .error (kind ++ " component " ++ quote value ++ " is not allowed")
  else if maxBytes < byteLength value then
    .error (kind ++ " component is " ++ decimal (byteLength value) ++ " bytes; maximum is " ++
      decimal maxBytes)
  else .ok ()

/-- The character loop of `validateOwner`: single hyphens between alphanumerics. -/
def ownerCharacters : Bool → List Char → Bool
  | _, [] => true
  | previousHyphen, character :: rest =>
    if isLowerAlphaNumeric character then ownerCharacters false rest
    else if character = '-' ∧ previousHyphen = false then ownerCharacters true rest
    else false

def validateOwner (owner : String) : Except String Unit := do
  validateComponent "owner" owner maxOwnerBytes
  if ¬ (owner.toList.head?.any isLowerAlphaNumeric ∧ owner.toList.getLast?.any isLowerAlphaNumeric) then
    throw "owner must begin and end with a lowercase ASCII letter or digit"
  if ¬ ownerCharacters false owner.toList then
    throw "owner must contain only lowercase ASCII letters, digits, and single hyphens"

def validateTapName (name : String) : Except String Unit := do
  validateComponent "tap" name maxTapBytes
  if ¬ name.toList.head?.any isLowerAlphaNumeric then
    throw "tap must begin with a lowercase ASCII letter or digit"
  if ¬ name.toList.all fun character =>
      isLowerAlphaNumeric character || "._-".toList.contains character then
    throw "tap must contain only lowercase ASCII letters, digits, dots, underscores, and hyphens"

def validateFormulaName (name : String) : Except String Unit := do
  validateComponent "Formula" name maxFormulaBytes
  if ¬ name.toList.head?.any isLowerAlphaNumeric then
    throw "Formula must begin with a lowercase ASCII letter or digit"
  if 1 < countChar name '@' ∨ hasSuffix name "@" then
    throw "Formula has invalid versioned-Formula syntax"
  if ¬ name.toList.all fun character =>
      isLowerAlphaNumeric character || "+_.@-".toList.contains character then
    throw ("Formula must contain only lowercase ASCII letters, digits, plus, dot, underscore, at, " ++
      "and hyphen characters")

/-! ## Construction and parsing -/

def newTap (owner name : String) : Except String Tap := do
  validateOwner owner
  validateTapName name
  return { owner, name }

def newFormulaID (tap : Tap) (name : String) : Except String FormulaIdentity := do
  match validateOwner tap.owner >>= fun _ => validateTapName tap.name with
  | .error message => throw ("tap: " ++ message)
  | .ok _ => pure ()
  validateFormulaName name
  return { tap, name }

/-- `Tap.String`; the zero value renders as the empty string. -/
def Tap.string (tap : Tap) : String :=
  if tap = { owner := "", name := "" } then "" else tap.owner ++ "/" ++ tap.name

/-- `FormulaID.String`; the zero value renders as the empty string. -/
def FormulaIdentity.string (id : FormulaIdentity) : String :=
  if id = { tap := { owner := "", name := "" }, name := "" } then ""
  else id.tap.string ++ "/" ++ id.name

def errInvalidTap : String := "invalid Homebrew tap"
def errInvalidFormulaID : String := "invalid Homebrew Formula ID"

def parseTap (input : String) : Except String Tap :=
  if maxTapIDBytes < byteLength input then
    .error (errInvalidTap ++ ": identity is " ++ decimal (byteLength input) ++
      " bytes; maximum is " ++ decimal maxTapIDBytes)
  else
    match splitChar input '/' with
    | [owner, name] =>
      match newTap owner name with
      | .ok tap => .ok tap
      | .error message => .error (errInvalidTap ++ " " ++ quote input ++ ": " ++ message)
    | _ => .error (errInvalidTap ++ " " ++ quote input ++ ": expected owner/tap")

def parse (input : String) : Except String FormulaIdentity :=
  if maxFormulaIDBytes < byteLength input then
    .error (errInvalidFormulaID ++ ": identity is " ++ decimal (byteLength input) ++
      " bytes; maximum is " ++ decimal maxFormulaIDBytes)
  else
    let parsed : Except String FormulaIdentity :=
      match splitChar input '/' with
      | [name] => newFormulaID coreTap name
      | [owner, tapName, name] => newTap owner tapName >>= fun tap => newFormulaID tap name
      | _ => .error "expected formula or owner/tap/formula"
    match parsed with
    | .ok id => .ok id
    | .error message => .error (errInvalidFormulaID ++ " " ++ quote input ++ ": " ++ message)

def errDuplicateRoot : String := "duplicate canonical Formula root"

/-- One iteration of `ParseRoots`; `seen` maps an identity to its position in `ids`. -/
def parseRoot (roots : List String) (ids : List FormulaIdentity) (root : String × Nat) :
    Except String (List FormulaIdentity) :=
  match parse root.1 with
  | .error message => .error ("parse Formula root " ++ decimal root.2 ++ ": " ++ message)
  | .ok id =>
    if id ∈ ids then
      let first := ids.idxOf id
      .error (errDuplicateRoot ++ ": roots[" ++ decimal first ++ "]=" ++
        quote (roots.getD first "") ++ " and roots[" ++ decimal root.2 ++ "]=" ++ quote root.1 ++
        " both identify " ++ quote id.string)
    else .ok (ids ++ [id])

def parseRoots (roots : List String) : Except String (List FormulaIdentity) :=
  roots.zipIdx.foldlM (parseRoot roots) []

/-! ## The grammar -/

/-- Lowercase letters, digits and marks, of which the first is not a mark. -/
structure Word (marks : List Char) (maxBytes : Nat) (value : String) : Prop where
  bounded : byteLength value ≤ maxBytes
  begins : value.toList.head?.any isLowerAlphaNumeric = true
  characters : ∀ character ∈ value.toList,
    isLowerAlphaNumeric character = true ∨ character ∈ marks

/-- Hyphens stand alone between letters and digits. -/
structure OwnerGrammar (owner : String) : Prop extends Word ['-'] maxOwnerBytes owner where
  ends : owner.toList.getLast?.any isLowerAlphaNumeric = true
  single : owner.toList.IsChain fun left right => ¬ (left = '-' ∧ right = '-')

abbrev TapGrammar : String → Prop := Word ['.', '_', '-'] maxTapBytes

/-- At most one `@` begins a version. -/
structure FormulaGrammar (name : String) : Prop
    extends Word ['+', '_', '.', '@', '-'] maxFormulaBytes name where
  versions : name.toList.count '@' ≤ 1
  version : ¬ ['@'] <:+ name.toList

/-- The bare name of a Formula of core, or a qualified name. -/
inductive Grammar : String → Prop
  | bare {name : String} (formula : FormulaGrammar name) : Grammar name
  | qualified {owner tap name : String} (inOwner : OwnerGrammar owner) (inTap : TapGrammar tap)
      (formula : FormulaGrammar name) : Grammar (owner ++ "/" ++ tap ++ "/" ++ name)

/-- The facts about a component that its canonical form rests on. -/
structure Component (value : String) (maxBytes : Nat) : Prop where
  nonempty : value ≠ ""
  bounded : byteLength value ≤ maxBytes
  slashFree : '/' ∉ value.toList

section

variable {kind value owner name : String} {marks : List Char} {maxBytes : Nat}

theorem Word.component (word : Word marks maxBytes value) (excluded : '/' ∉ marks) :
    Component value maxBytes := by
  refine ⟨?_, word.bounded, ?_⟩
  · rintro rfl
    cases word.begins
  · intro member
    rcases word.characters '/' member with letter | mark
    · cases letter
    · exact excluded mark

/-- The checks of the size and of the first character, before those of one kind of component. -/
theorem validateComponent_iff {others : Prop} :
    (∃ done, validateComponent kind value maxBytes = .ok done ∧
      value.toList.head?.any isLowerAlphaNumeric = true ∧ others) ↔
    byteLength value ≤ maxBytes ∧ value.toList.head?.any isLowerAlphaNumeric = true ∧ others := by
  rw [Unique.exists_iff]
  refine and_congr_left fun ⟨begins, _⟩ => ?_
  have nonempty : value ≠ "" := by
    rintro rfl
    cases begins
  have named : ¬ (value = "." ∨ value = "..") := by
    rintro (rfl | rfl) <;> cases begins
  rw [validateComponent, if_neg nonempty, if_neg named, ite_error_eq_ok, not_lt]
  exact and_iff_left rfl

theorem ownerCharacters_iff {previous : Char} {characters : List Char} :
    ownerCharacters (previous = '-') characters = true ↔
      (∀ character ∈ characters, isLowerAlphaNumeric character = true ∨ character ∈ ['-']) ∧
        (previous :: characters).IsChain fun left right => ¬ (left = '-' ∧ right = '-') := by
  induction characters generalizing previous with
  | nil => simp [ownerCharacters]
  | cons character rest ih =>
    have hyphen : isLowerAlphaNumeric '-' = false := by decide
    by_cases same : character = '-'
    · subst same
      have later := @ih '-'
      simp_all [ownerCharacters]
      tauto
    · have later := @ih character
      by_cases letter : isLowerAlphaNumeric character = true
      · simp_all [ownerCharacters]
      · simp_all [ownerCharacters]

theorem validateOwner_iff : validateOwner owner = .ok () ↔ OwnerGrammar owner := by
  simp only [validateOwner, bind_eq_ok, throw_bind, ite_error_eq_ok, ite_throw_eq_ok, not_not,
    and_assoc, validateComponent_iff]
  -- no hyphen stands before the first character
  have start : ('a' :: owner.toList).IsChain (fun left right => ¬ (left = '-' ∧ right = '-')) ↔
      owner.toList.IsChain fun left right => ¬ (left = '-' ∧ right = '-') := by
    cases owner.toList <;> simp
  have characters := @ownerCharacters_iff 'a' owner.toList
  rw [start] at characters
  constructor
  · rintro ⟨bounded, begins, ends, checked⟩
    obtain ⟨allowed, single⟩ := characters.mp checked
    exact ⟨⟨bounded, begins, allowed⟩, ends, single⟩
  · rintro ⟨⟨bounded, begins, allowed⟩, ends, single⟩
    exact ⟨bounded, begins, ends, characters.mpr ⟨allowed, single⟩⟩

theorem validateTapName_iff : validateTapName name = .ok () ↔ TapGrammar name := by
  simp only [validateTapName, bind_eq_ok, throw_bind, ite_error_eq_ok, ite_throw_eq_ok, not_not,
    validateComponent_iff]
  constructor
  · rintro ⟨bounded, begins, allowed⟩
    exact ⟨bounded, begins, by simpa using allowed⟩
  · rintro ⟨bounded, begins, allowed⟩
    exact ⟨bounded, begins, by simpa using allowed⟩

theorem validateFormulaName_iff : validateFormulaName name = .ok () ↔ FormulaGrammar name := by
  simp only [validateFormulaName, bind_eq_ok, throw_bind, ite_error_eq_ok, ite_throw_eq_ok, not_not,
    validateComponent_iff, countChar, hasSuffix, List.isSuffixOf_iff_suffix, not_or, not_lt]
  constructor
  · rintro ⟨bounded, begins, ⟨versions, version⟩, allowed⟩
    exact ⟨⟨bounded, begins, by simpa using allowed⟩, versions, version⟩
  · rintro ⟨⟨bounded, begins, allowed⟩, versions, version⟩
    exact ⟨bounded, begins, ⟨versions, version⟩, by simpa using allowed⟩

end

/-! ## Canonical forms -/

variable {characters : List Char}

theorem slash_not_mem_of_all {allowed : Char → Bool} (excluded : allowed '/' = false)
    (valid : characters.all allowed = true) : '/' ∉ characters := by
  intro member
  have holds := List.all_eq_true.mp valid '/' member
  rw [excluded] at holds
  cases holds

variable {tap : Tap} {owner name : String}

/-- The components of a tap that `NewTap` accepts. -/
theorem newTap_iff : newTap owner name = .ok tap ↔
    tap = { owner, name } ∧ validateOwner owner = .ok () ∧ validateTapName name = .ok () := by
  simp only [newTap, bind_eq_ok, pure_eq_ok, Unique.exists_iff]
  constructor
  · rintro ⟨ownerValid, nameValid, rfl⟩
    exact ⟨rfl, ownerValid, nameValid⟩
  · rintro ⟨rfl, ownerValid, nameValid⟩
    exact ⟨ownerValid, nameValid, rfl⟩

theorem newFormulaID_ok {id : FormulaIdentity} : newFormulaID tap name = .ok id ↔
      id = { tap, name } ∧ validateOwner tap.owner = .ok () ∧ validateTapName tap.name = .ok () ∧
        validateFormulaName name = .ok () := by
  unfold newFormulaID
  cases ownerChecked : validateOwner tap.owner with
  | error message => simp [bind, Except.bind, throw, throwThe, MonadExceptOf.throw]
  | ok _ =>
    cases tapChecked : validateTapName tap.name with
    | error message => simp [bind, Except.bind, throw, throwThe, MonadExceptOf.throw]
    | ok _ =>
      cases nameChecked : validateFormulaName name with
      | error message => simp [bind, Except.bind]
      | ok _ => simp [bind, Except.bind, pure, Except.pure, eq_comm]

theorem component_owner (valid : validateOwner owner = .ok ()) : Component owner maxOwnerBytes :=
  (validateOwner_iff.mp valid).component (by decide)

theorem component_tap (valid : validateTapName name = .ok ()) : Component name maxTapBytes :=
  (validateTapName_iff.mp valid).component (by decide)

theorem component_formula (valid : validateFormulaName name = .ok ()) :
    Component name maxFormulaBytes :=
  (validateFormulaName_iff.mp valid).component (by decide)

theorem Tap.string_of_component {maxBytes : Nat} (owner : Component tap.owner maxBytes) :
    tap.string = tap.owner ++ "/" ++ tap.name := by
  rw [Tap.string, if_neg]
  rintro rfl
  exact owner.nonempty rfl

variable {value : String} {id : FormulaIdentity}

section

variable {separator : Char} {parts : List String}

/-- A text is its parts with the separator between them. -/
theorem toList_of_splitChar (split : splitChar value separator = parts) :
    value.toList = [separator].intercalate (parts.map String.toList) := by
  rw [← split, splitChar, List.map_map]
  have each : String.toList ∘ String.ofList = id := funext fun part => by simp
  rw [each, List.map_id, List.intercalate_splitOn]

theorem splitChar_of_toList
    (joined : value.toList = [separator].intercalate (parts.map String.toList))
    (free : ∀ part ∈ parts, separator ∉ part.toList) (nonempty : parts ≠ []) :
    splitChar value separator = parts := by
  rw [splitChar, joined, List.splitOn_intercalate]
  · simp
  · simpa using free
  · simpa using nonempty

end

/-- A parsed text is a qualified name or the bare name of a Formula of core. -/
theorem parse_iff : parse value = .ok id ↔ newFormulaID id.tap id.name = .ok id ∧
    (value = id.tap.owner ++ "/" ++ id.tap.name ++ "/" ++ id.name ∨
      id.tap = coreTap ∧ value = id.name) := by
  constructor
  · intro parsed
    simp only [parse, ite_error_eq_ok] at parsed
    obtain ⟨-, parsed⟩ := parsed
    split at parsed
    · rename_i found components
      obtain rfl := Except.ok.inj parsed
      split at components
      · rename_i name parts
        obtain ⟨rfl, -⟩ := newFormulaID_ok.mp components
        have text := toList_of_splitChar parts
        exact ⟨components, .inr ⟨rfl, String.toList_injective (by simpa using text)⟩⟩
      · rename_i owner tapName name parts
        obtain ⟨tap, tapMade, made⟩ := bind_eq_ok.mp components
        obtain ⟨rfl, -⟩ := newTap_iff.mp tapMade
        obtain ⟨rfl, -⟩ := newFormulaID_ok.mp made
        exact ⟨made, .inl (String.toList_injective (by simp [toList_of_splitChar parts]))⟩
      · cases components
    · cases parsed
  · rintro ⟨made, spelled⟩
    obtain ⟨-, ownerValid, tapValid, nameValid⟩ := newFormulaID_ok.mp made
    have owner := component_owner ownerValid
    have tap := component_tap tapValid
    have name := component_formula nameValid
    have first := owner.bounded
    have second := tap.bounded
    have third := name.bounded
    rcases spelled with rfl | ⟨core, rfl⟩
    · have sizes : byteLength (id.tap.owner ++ "/" ++ id.tap.name ++ "/" ++ id.name) =
          byteLength id.tap.owner + 1 + byteLength id.tap.name + 1 + byteLength id.name := by
        simp only [byteLength, String.utf8ByteSize_append]
        rfl
      rw [parse, if_neg (by simp only [maxFormulaIDBytes, maxTapIDBytes]; omega),
        @splitChar_of_toList _ _ [id.tap.owner, id.tap.name, id.name] (by simp [List.intercalate])
          (by simpa using ⟨owner.slashFree, tap.slashFree, name.slashFree⟩) (by simp)]
      have tapMade : newTap id.tap.owner id.tap.name = .ok id.tap :=
        newTap_iff.mpr ⟨rfl, ownerValid, tapValid⟩
      simp [tapMade, bind, Except.bind, made]
    · rw [parse, if_neg (by simp only [maxFormulaIDBytes]; omega),
        @splitChar_of_toList _ _ [id.name] (by simp [List.intercalate])
          (by simpa using name.slashFree) (by simp)]
      rw [core] at made
      simp [made]

section

variable (parsed : parse value = .ok id)

include parsed

/-- The components of a parsed identity satisfy the component grammar. -/
theorem newFormulaID_of_parse : newFormulaID id.tap id.name = .ok id :=
  (parse_iff.mp parsed).1

/-- The canonical form of a parsed identity is its tap and its name. -/
theorem string_of_parse :
    id.string = id.tap.string ++ "/" ++ id.name := by
  obtain ⟨-, ownerValid, -⟩ := newFormulaID_ok.mp (newFormulaID_of_parse parsed)
  rw [FormulaIdentity.string, if_neg]
  rintro rfl
  exact (component_owner ownerValid).nonempty rfl

theorem string_eq_components :
    id.string = id.tap.owner ++ "/" ++ id.tap.name ++ "/" ++ id.name := by
  obtain ⟨-, ownerValid, -⟩ := newFormulaID_ok.mp (newFormulaID_of_parse parsed)
  rw [string_of_parse parsed, Tap.string_of_component (component_owner ownerValid)]

/-- A parsed identity is read back from its canonical form. -/
theorem parse_string :
    parse id.string = .ok id :=
  parse_iff.mpr ⟨newFormulaID_of_parse parsed, .inl (string_eq_components parsed)⟩

end

/-- Every valid name is the spelling of a Formula of core. -/
theorem parse_of_validateFormulaName {name : String} (valid : validateFormulaName name = .ok ()) :
    parse name = .ok { tap := coreTap, name } :=
  have owner : validateOwner coreTap.owner = .ok () := by decide
  have tap : validateTapName coreTap.name = .ok () := by decide
  parse_iff.mpr ⟨newFormulaID_ok.mpr ⟨rfl, owner, tap, valid⟩, .inr ⟨rfl, rfl⟩⟩

/-- A bare name denotes a Formula of core. -/
theorem identity_of_bare (bare : containsChar value '/' = false)
    (parsed : parse value = .ok id) : id = { tap := coreTap, name := value } := by
  obtain ⟨-, rfl | ⟨core, rfl⟩⟩ := parse_iff.mp parsed
  · simp [containsChar] at bare
  · rw [← core]

/-- A qualified spelling is the canonical form of the identity it denotes. -/
theorem string_of_qualified (qualified : containsChar value '/' = true)
    (parsed : parse value = .ok id) : id.string = value := by
  obtain ⟨made, spelled | ⟨core, rfl⟩⟩ := parse_iff.mp parsed
  · rw [string_eq_components parsed, spelled]
  · -- the bare name would have a slash
    obtain ⟨-, -, -, nameValid⟩ := newFormulaID_ok.mp made
    exact absurd (by simpa [containsChar] using qualified) (component_formula nameValid).slashFree

section

variable {roots rest : List String} {ids next : List FormulaIdentity}

theorem parseRoot_iff {root : String × Nat} : parseRoot roots ids root = .ok next ↔
    ∃ id, parse root.1 = .ok id ∧ id ∉ ids ∧ next = ids ++ [id] := by
  unfold parseRoot
  cases parse root.1 with
  | error message => simp
  | ok id =>
    simp only [ite_error_eq_ok]
    simp [eq_comm]

/-- The rest of the loop: its identities are new, and come after those parsed before. -/
theorem foldlM_parseRoot {start : Nat} :
    (rest.zipIdx start).foldlM (parseRoot roots) ids = .ok next ↔
      ∃ later, next = ids ++ later ∧ List.Forall₂ (fun root id => parse root = .ok id) rest later ∧
        later.Nodup ∧ ids.Disjoint later := by
  induction rest generalizing ids start with
  | nil =>
    rw [List.zipIdx_nil, foldlM_nil_eq_ok]
    simp [eq_comm]
  | cons root rest ih =>
    simp only [List.zipIdx_cons, foldlM_cons_eq_ok, parseRoot_iff, ih, List.forall₂_cons_left_iff]
    constructor
    · rintro ⟨_, ⟨id, parsed, absent, rfl⟩, later, rfl, others, distinct, apart⟩
      refine ⟨id :: later, by simp, ⟨id, later, parsed, others, rfl⟩, ?_⟩
      simp_all [List.disjoint_append_left]
    · rintro ⟨_, rfl, ⟨id, later, parsed, others, rfl⟩, distinct, apart⟩
      refine ⟨_, ⟨id, parsed, by simp_all, rfl⟩, later, by simp, others, ?_⟩
      simp_all [List.disjoint_append_left]

end

/--
Parsing the canonical form gives the identity back, what is parsed is the grammar, and
roots are parsed in order when no two of them denote one Formula.
-/
theorem parse_canonical (value : String) (roots : List String) :
    (parse value >>= fun id => parse id.string) = parse value ∧
      ((∃ id, parse value = .ok id) ↔ Grammar value) ∧
      ∀ ids, parseRoots roots = .ok ids ↔
        List.Forall₂ (fun root id => parse root = .ok id) roots ids ∧ ids.Nodup := by
  refine ⟨?_, ?_, fun ids => by simp [parseRoots, foldlM_parseRoot]⟩
  · cases parsed : parse value with
    | error message => rfl
    | ok id => exact parse_string parsed
  · constructor
    · rintro ⟨id, parsed⟩
      obtain ⟨made, spelled⟩ := parse_iff.mp parsed
      obtain ⟨-, ownerValid, tapValid, nameValid⟩ := newFormulaID_ok.mp made
      have formula := validateFormulaName_iff.mp nameValid
      rcases spelled with rfl | ⟨-, rfl⟩
      · exact .qualified (validateOwner_iff.mp ownerValid) (validateTapName_iff.mp tapValid) formula
      · exact .bare formula
    · rintro (formula | ⟨inOwner, inTap, formula⟩)
      · exact ⟨_, parse_of_validateFormulaName (validateFormulaName_iff.mpr formula)⟩
      · exact ⟨⟨⟨_, _⟩, _⟩, parse_iff.mpr ⟨newFormulaID_ok.mpr ⟨rfl, validateOwner_iff.mpr inOwner,
          validateTapName_iff.mpr inTap, validateFormulaName_iff.mpr formula⟩, .inl rfl⟩⟩

/-- What stands before and after the last slash of a text is determined. -/
theorem eq_of_append_slash {first second left right : String}
    (same : first ++ "/" ++ left = second ++ "/" ++ right) (leftFree : '/' ∉ left.toList)
    (rightFree : '/' ∉ right.toList) : first = second ∧ left = right := by
  have after : ∀ before name : String, '/' ∉ name.toList →
      (before ++ "/" ++ name).toList.reverse.takeWhile (· != '/') = name.toList.reverse := by
    intro before name free
    rw [String.toList_append, String.toList_append, List.reverse_append, List.reverse_append,
      List.takeWhile_append_of_pos]
    · simp
    · intro character member
      rw [List.mem_reverse] at member
      simpa using fun equal : character = '/' => free (equal ▸ member)
  obtain rfl : left = right := by
    have lists := after first left leftFree
    rw [same, after second right rightFree] at lists
    exact (String.toList_injective (List.reverse_injective lists)).symm
  have lists := congrArg String.toList same
  simp only [String.toList_append, List.append_cancel_right_eq] at lists
  exact ⟨String.toList_injective lists, rfl⟩

end DalecHomebrew.Homebrew
