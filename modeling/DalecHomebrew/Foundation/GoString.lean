import Mathlib.Data.Nat.Digits.Defs
import Mathlib.Data.String.Basic
import Mathlib.Tactic.IntervalCases

/-!
# Go string operations

The functions of the Go packages `strings` and `strconv` that the modelled code calls, as
structural recursions over the characters of a string.  Go strings are byte
sequences; every separator and every prefix used by the modelled code is
ASCII, for which splitting characters and splitting UTF-8 bytes agree.
-/

namespace DalecHomebrew.Foundation.GoString

variable (value : String)

/-- `len(value)`: the number of UTF-8 bytes. -/
def byteLength : Nat := value.utf8ByteSize

/-- `strings.HasPrefix`. -/
def hasPrefix (value start : String) : Bool :=
  start.toList.isPrefixOf value.toList

/-- `strings.TrimPrefix`. -/
def trimPrefix (value start : String) : String :=
  if hasPrefix value start then String.ofList (value.toList.drop start.toList.length) else value

/-- `strings.HasSuffix`. -/
def hasSuffix (value ending : String) : Bool :=
  ending.toList.isSuffixOf value.toList

/-- `strings.TrimSuffix`. -/
def trimSuffix (value ending : String) : String :=
  if hasSuffix value ending then
    String.ofList (value.toList.take (value.toList.length - ending.toList.length))
  else value

/-- `strings.Count` for a one-character separator. -/
def countChar (separator : Char) : Nat :=
  value.toList.count separator

/-- `strings.Contains` for a one-character separator. -/
def containsChar (separator : Char) : Bool :=
  value.toList.contains separator

/-- `strings.ContainsAny`. -/
def containsAny (value characters : String) : Bool :=
  value.toList.any characters.toList.contains

/-- `strings.Contains`. -/
def containsText (value text : String) : Bool :=
  value.toList.tails.any text.toList.isPrefixOf

/-- `strings.Split` for a one-character separator. -/
def splitChar (separator : Char) : List String :=
  (value.toList.splitOn separator).map String.ofList

/-- `strings.Join`. -/
def join (parts : List String) (separator : String) : String :=
  String.ofList ((parts.map String.toList).intersperse separator.toList).flatten

variable (character : Char)

/-- ASCII lower casing of one character. -/
def lowerChar : Char :=
  if 'A' ≤ character ∧ character ≤ 'Z' then Char.ofNat (character.toNat + 32) else character

/--
`strings.ToLower` of one character.  The two characters outside ASCII whose
lower case is an ASCII letter are lowered as well; other characters stay as
they are.  The modelled code requires the texts it lowers to be ASCII, or looks
for ASCII texts in them.
-/
def toLowerChar : Char :=
  if character.toNat = 0x130 then 'i'
  else if character.toNat = 0x212a then 'k'
  else lowerChar character

/-- `strings.ToLower`. -/
def toLower : String := String.ofList (value.toList.map toLowerChar)

/-- `unicode.IsSpace`. -/
def isSpace : Bool :=
  [0x09, 0x0a, 0x0b, 0x0c, 0x0d, 0x20, 0x85, 0xa0, 0x1680, 0x2028, 0x2029, 0x202f, 0x205f,
    0x3000].contains character.toNat || (0x2000 ≤ character.toNat && character.toNat ≤ 0x200a)

/-- `strings.TrimSpace`. -/
def trimSpace : String :=
  String.ofList ((value.toList.dropWhile isSpace).reverse.dropWhile isSpace).reverse

/-- Whether `strings.TrimSpace` leaves nothing. -/
def isBlank : Bool := value.toList.all isSpace

def isDigit : Bool := '0' ≤ character ∧ character ≤ '9'

/-- The value of a text of digits in a base. -/
def digitsValue (base : Nat) (digits : List Char) : Nat :=
  digits.foldl (fun value digit => base * value + (digit.toNat - 48)) 0

/-- `strconv.Atoi`: an optional sign and digits, within 64 bits. -/
def atoi : Option Int :=
  let unsigned (digits : List Char) : Option Nat :=
    if digits ≠ [] ∧ digits.all isDigit then some (digitsValue 10 digits) else none
  match value.toList with
  | '-' :: digits => (unsigned digits).bind fun size =>
    if size ≤ 2 ^ 63 then some (-(size : Int)) else none
  | '+' :: digits => (unsigned digits).bind fun size =>
    if size < 2 ^ 63 then some (size : Int) else none
  | digits => (unsigned digits).bind fun size =>
    if size < 2 ^ 63 then some (size : Int) else none

/-- The ASCII representative of the characters that `strings.EqualFold` takes for
the same letter: the long s and the Kelvin sign are the two outside ASCII. -/
def foldChar : Char :=
  if character.toNat = 0x17f then 's'
  else if character.toNat = 0x212a then 'k'
  else lowerChar character

/-- `strings.EqualFold` of two texts one of which is ASCII. -/
def equalFold (value text : String) : Bool :=
  value.toList.map foldChar == text.toList.map foldChar

/-- The decimal digits of `%d`. -/
def decimal (value : Nat) : String :=
  match (Nat.digits 10 value).reverse with
  | [] => "0"
  | digits => String.ofList (digits.map fun digit => Char.ofNat (digit + 48))

/-- `%d` of a signed value. -/
def decimalInt : Int → String
  | .ofNat value => decimal value
  | .negSucc value => "-" ++ decimal (value + 1)

/-- `%#o`. -/
def octal (value : Nat) : String :=
  "0" ++ String.ofList ((Nat.digits 8 value).reverse.map fun digit => Char.ofNat (digit + 48))

/-- One hexadecimal digit. -/
def hexDigit (value : Nat) : Char :=
  if value < 10 then Char.ofNat (value + 48) else Char.ofNat (value + 87)

/--
The escape of one character in `%q`.  Characters above ASCII stay as they are; Go
escapes those of them that are not printable, which only error texts show.
-/
def quoteChar : List Char :=
  if character = '"' ∨ character = '\\' then ['\\', character]
  else if character = '\n' then ['\\', 'n']
  else if character = '\t' then ['\\', 't']
  else if character = '\r' then ['\\', 'r']
  else if character.toNat = 7 then ['\\', 'a']
  else if character.toNat = 8 then ['\\', 'b']
  else if character.toNat = 11 then ['\\', 'v']
  else if character.toNat = 12 then ['\\', 'f']
  else if character.toNat < 32 ∨ character.toNat = 127 then
    ['\\', 'x', hexDigit (character.toNat / 16), hexDigit (character.toNat % 16)]
  else [character]

/-- `%q`. -/
def quote : String :=
  String.ofList ('"' :: value.toList.flatMap quoteChar ++ ['"'])

/-- A lowercase hexadecimal digit. -/
def isLowerHex : Bool :=
  ('0' ≤ character ∧ character ≤ '9') || ('a' ≤ character ∧ character ≤ 'f')

/-- A C0 control character or DEL. -/
def isControl : Bool :=
  character.toNat < 0x20 || character.toNat == 0x7f

/-! ## Prefixes -/

@[simp]
theorem hasPrefix_append (start rest : String) : hasPrefix (start ++ rest) start = true := by
  simp [hasPrefix]

@[simp]
theorem trimPrefix_append (start rest : String) : trimPrefix (start ++ rest) start = rest := by
  simp [trimPrefix]

variable {value : String}

theorem eq_append_of_hasPrefix {start : String} (holds : hasPrefix value start = true) :
    value = start ++ trimPrefix value start := by
  rw [trimPrefix, if_pos holds]
  apply String.toList_injective
  rw [String.toList_append, String.toList_ofList]
  exact (List.prefix_iff_eq_append.mp (List.isPrefixOf_iff_prefix.mp holds)).symm

/-! ## Splitting and joining -/

theorem not_mem_of_mem_splitOnP {Item : Type*} {separates : Item → Bool} {items piece : List Item}
    (member : piece ∈ items.splitOnP separates) : ∀ item ∈ piece, separates item = false := by
  induction items generalizing piece with
  | nil =>
    rw [List.splitOnP_nil, List.mem_singleton] at member
    simp [member]
  | cons head tail ih =>
    rw [List.splitOnP_cons_eq_if_modifyHead] at member
    split at member
    · rcases List.mem_cons.mp member with rfl | later
      · simp
      · exact ih later
    case isFalse here =>
        obtain ⟨first, rest, split⟩ :=
          List.exists_cons_of_ne_nil (List.splitOnP_ne_nil separates tail)
        rw [split, List.modifyHead_cons] at member
        rw [split] at ih
        rcases List.mem_cons.mp member with rfl | later
        · simpa [here] using ih List.mem_cons_self
        · exact ih (List.mem_cons_of_mem _ later)

variable {separator : Char}

theorem not_mem_of_mem_splitChar {part : String}
    (member : part ∈ splitChar value separator) : separator ∉ part.toList := by
  obtain ⟨piece, among, rfl⟩ := List.mem_map.mp member
  intro inside
  rw [String.toList_ofList] at inside
  simpa using not_mem_of_mem_splitOnP among separator inside

theorem splitChar_ne_nil (value : String) (separator : Char) : splitChar value separator ≠ [] := by
  simp [splitChar]

/-- Joining parts that do not contain the separator is undone by splitting. -/
theorem splitChar_join {parts : List String}
    (free : ∀ part ∈ parts, separator ∉ part.toList) (some : parts ≠ []) :
    splitChar (join parts (String.singleton separator)) separator = parts := by
  have split := @List.splitOn_intercalate _ (parts.map String.toList) _ _ separator
    (by simpa using free) (by simpa using some)
  rw [splitChar, join, String.toList_ofList, String.toList_singleton]
  rw [List.intercalate] at split
  rw [split, List.map_map]
  simp

theorem splitChar_append (first second : String) (separator : Char) :
    splitChar (first ++ String.singleton separator ++ second) separator =
      splitChar first separator ++ splitChar second separator := by
  simp [splitChar, String.toList_append, List.splitOn_append_cons_self]

theorem join_cons_cons (first second : String) (rest : List String) (separator : String) :
    join (first :: second :: rest) separator =
      first ++ separator ++ join (second :: rest) separator := by
  apply String.toList_injective
  simp [join]

/-- A character of a text is a separator or belongs to a part. -/
theorem mem_splitChar_of_mem {character : Char} (member : character ∈ value.toList) :
    character = separator ∨ ∃ part ∈ splitChar value separator, character ∈ part.toList := by
  have whole := @List.intercalate_splitOn _ value.toList _ _ separator
  rw [← whole] at member
  have spread : ∀ pieces : List (List Char), character ∈ [separator].intercalate pieces →
      character = separator ∨ ∃ piece ∈ pieces, character ∈ piece := by
    intro pieces
    induction pieces with
    | nil => simp
    | cons first rest ih =>
      cases rest with
      | nil => exact fun inside => .inr ⟨first, List.mem_singleton_self _, by simpa using inside⟩
      | cons second others =>
        rw [List.intercalate_cons_cons]
        simp only [List.mem_append, List.mem_singleton]
        grind
  rcases spread _ member with same | ⟨piece, among, inside⟩
  · exact .inl same
  · refine .inr ⟨String.ofList piece, List.mem_map_of_mem among, ?_⟩
    rwa [String.toList_ofList]

/-! ## Case and white space -/

theorem toLowerChar_idem : toLowerChar (toLowerChar character) = toLowerChar character := by
  by_cases dotted : character.toNat = 0x130
  · simp only [toLowerChar, if_pos dotted]
    decide
  by_cases kelvin : character.toNat = 0x212a
  · simp only [toLowerChar, if_neg dotted, if_pos kelvin]
    decide
  have same : toLowerChar character = lowerChar character := by
    rw [toLowerChar, if_neg dotted, if_neg kelvin]
  rw [same]
  by_cases upper : 'A' ≤ character ∧ character ≤ 'Z'
  · have lower : 65 ≤ character.toNat ∧ character.toNat ≤ 90 := upper
    rw [lowerChar, if_pos upper]
    generalize character.toNat = code at lower
    obtain ⟨least, most⟩ := lower
    interval_cases code <;> decide
  · rw [lowerChar, if_neg upper, same, lowerChar, if_neg upper]

theorem toLower_idem (value : String) : toLower (toLower value) = toLower value := by
  simp [toLower, Function.comp_def, toLowerChar_idem]

theorem trimSpace_of_forall
    (solid : ∀ character ∈ value.toList, isSpace character = false) : trimSpace value = value := by
  have kept : ∀ characters : List Char, (∀ character ∈ characters, isSpace character = false) →
      characters.dropWhile isSpace = characters := by
    intro characters solid
    cases characters with
    | nil => rfl
    | cons head tail => simp [solid head List.mem_cons_self]
  rw [trimSpace, kept _ solid, kept _ (by simpa using solid), List.reverse_reverse,
    String.ofList_toList]

end DalecHomebrew.Foundation.GoString
