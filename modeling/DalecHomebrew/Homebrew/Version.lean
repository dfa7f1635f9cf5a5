import DalecHomebrew.Foundation.Comparison
import DalecHomebrew.Foundation.Lexicographic
import Mathlib.Order.BooleanAlgebra.Basic

/-!
# Version comparison

`Compare` and `AtLeast` of `internal/homebrew/version`.  A version is cut into numbers
and words; numbers and words are compared position by position, a number is newer than
a word, and a version that ends is compared with the remainder of the other one.

The comparison of two tokens is coherent.  The rule for a version that ends is not: it
passes over zeros, so the end is level with a zero, and it is older than a word that
is no pre-release, which in turn is older than every number.  `Circular` describes the
triples of versions on which these three answers meet, and `Compare` is a total
preorder exactly on the sets of versions without such a triple.
-/

namespace DalecHomebrew.Homebrew.Version

open Foundation Foundation.GoString Foundation.Comparison

/-! ## Tokens -/

/-- The tables of the package `unicode` that `tokenize` reads. -/
structure Unicode where
  toLower : Char → Char
  isDigit : Char → Bool
  isLetter : Char → Bool
  /-- `0` is the least decimal digit of Unicode. -/
  zero_le : ∀ {character}, isDigit character = true → '0' ≤ character

structure Token where
  value : String
  numeric : Bool
deriving DecidableEq

/-- The kinds of runes that `tokenize` numbers 0, 1 and 2. -/
inductive RuneKind where
  | separator
  | digit
  | letter
deriving DecidableEq

def Unicode.kind (unicode : Unicode) (character : Char) : RuneKind :=
  if unicode.isDigit character then .digit
  else if unicode.isLetter character then .letter
  else .separator

/-- The variables of the loop of `tokenize`. -/
structure Scanner where
  out : List Token := []
  text : List Char := []
  kind : RuneKind := .separator
deriving DecidableEq

def Scanner.flush (scanner : Scanner) : Scanner :=
  if scanner.text = [] then scanner
  else
    { scanner with
      out := scanner.out ++
        [{ value := String.ofList scanner.text, numeric := scanner.kind = .digit }]
      text := [] }

def Scanner.read (unicode : Unicode) (scanner : Scanner) (character : Char) : Scanner :=
  let kind := unicode.kind character
  if kind = .separator then { scanner.flush with kind := .separator }
  else
    let current :=
      if scanner.kind ≠ .separator ∧ scanner.kind ≠ kind then scanner.flush else scanner
    { current with kind, text := current.text ++ [character] }

def tokenize (unicode : Unicode) (version : String) : List Token :=
  ((version.toList.map unicode.toLower).foldl (Scanner.read unicode) {}).flush.out

/-! ## Comparison -/

/-- `strings.TrimLeft(digits, "0")`, where nothing left is `0`. -/
def trimZeros (digits : String) : String :=
  let trimmed := String.ofList (digits.toList.dropWhile (· == '0'))
  if trimmed = "" then "0" else trimmed

def compareNumeric (left right : String) : Int :=
  let left := trimZeros left
  let right := trimZeros right
  if byteLength left < byteLength right then -1
  else if byteLength right < byteLength left then 1
  else threeWay left right

/-- The words that `alphaRank` knows. -/
def alphaOrder : List (String × Int) :=
  [("dev", -5), ("alpha", -4), ("a", -4), ("beta", -3), ("b", -3), ("pre", -2), ("preview", -2),
    ("rc", -1), ("p", 1), ("patch", 1), ("pl", 1)]

def alphaRank (value : String) : Int :=
  (alphaOrder.lookup value).getD 1

def compareAlpha (left right : String) : Int :=
  if left = right then 0
  else if alphaRank left ≠ alphaRank right then
    if alphaRank left < alphaRank right then -1 else 1
  else threeWay left right

/-- A version that ends, compared with the remainder of a longer one. -/
def compareEndToRemainder : List Token → Int
  | [] => 0
  | token :: rest =>
    if token.numeric then
      if compareNumeric token.value "0" ≠ 0 then -1 else compareEndToRemainder rest
    else if alphaRank token.value < 0 then 1
    else -1

/-- The comparison of two tokens inside the loop of `Compare`. -/
def compareToken (left right : Token) : Int :=
  if left.numeric && right.numeric then compareNumeric left.value right.value
  else if left.numeric ≠ right.numeric then
    if left.numeric then 1 else -1
  else compareAlpha left.value right.value

/-- The loop of `Compare`. -/
def compareTokens : List Token → List Token → Int
  | [], right => compareEndToRemainder right
  | left, [] => -compareEndToRemainder left
  | left :: lefts, right :: rights =>
    if compareToken left right ≠ 0 then compareToken left right
    else compareTokens lefts rights

def compare (unicode : Unicode) (left right : String) : Int :=
  compareTokens (tokenize unicode left) (tokenize unicode right)

def atLeast (unicode : Unicode) (selectedVersion : String) (selectedRevision : Int)
    (minimumVersion : String) (minimumRevision : Int) :
    Bool :=
  if compare unicode selectedVersion minimumVersion ≠ 0 then
    compare unicode selectedVersion minimumVersion > 0
  else selectedRevision ≥ minimumRevision

/-! ## Single tokens -/

variable (token : Token)

/-- The characters of a number are not before `0`. -/
def Token.Digits : Prop :=
  token.numeric = true → ∀ character ∈ token.value.toList, '0' ≤ character

/-- The text that decides the comparison of two tokens of one kind. -/
def Token.text : String :=
  if token.numeric then trimZeros token.value else token.value

/-- The same number or the same word. -/
def Token.same (left right : Token) : Bool :=
  left.numeric = right.numeric ∧ left.text = right.text

def Token.isZero : Bool :=
  token.numeric ∧ trimZeros token.value = "0"

/-- A word of a pre-release. -/
def Token.isPrerelease : Bool :=
  ¬ token.numeric ∧ alphaRank token.value < 0

/-- A word that does not announce a pre-release. -/
def Token.isLater : Bool :=
  ¬ token.numeric ∧ 0 ≤ alphaRank token.value

variable {left right : Token}

theorem Token.same_iff :
    left.same right = true ↔ left.numeric = right.numeric ∧ left.text = right.text := by
  simp [same]

variable {token : Token}

theorem Token.isZero_iff :
    token.isZero = true ↔ token.numeric = true ∧ trimZeros token.value = "0" := by
  simp [isZero]

theorem Token.isPrerelease_iff :
    token.isPrerelease = true ↔ token.numeric = false ∧ alphaRank token.value < 0 := by
  simp [isPrerelease]

theorem Token.isLater_iff :
    token.isLater = true ↔ token.numeric = false ∧ 0 ≤ alphaRank token.value := by
  simp [isLater]

theorem Token.kinds : token.isZero = true ∨ (token.numeric = true ∧ trimZeros token.value ≠ "0") ∨
      token.isPrerelease = true ∨ token.isLater = true := by
  cases numeric : token.numeric with
  | true =>
    by_cases zero : trimZeros token.value = "0"
    · exact .inl (isZero_iff.mpr ⟨numeric, zero⟩)
    · exact .inr (.inl ⟨rfl, zero⟩)
  | false =>
    rcases lt_or_ge (alphaRank token.value) 0 with early | late
    · exact .inr (.inr (.inl (isPrerelease_iff.mpr ⟨numeric, early⟩)))
    · exact .inr (.inr (.inr (isLater_iff.mpr ⟨numeric, late⟩)))

/-- The keys by which two tokens are compared, the most significant first. -/
theorem compareToken_eq :
    compareToken = andThen (fun left right => threeWay left.numeric right.numeric)
        (andThen (fun left right =>
            threeWay (if left.numeric then byteLength left.text else 0)
              (if right.numeric then byteLength right.text else 0))
          (andThen (fun left right =>
              threeWay (if left.numeric then 0 else alphaRank left.value)
                (if right.numeric then 0 else alphaRank right.value))
            (fun left right => threeWay left.text right.text))) := by
  funext left right
  obtain ⟨value, numeric⟩ := left
  obtain ⟨other, otherNumeric⟩ := right
  cases numeric <;> cases otherNumeric
  · by_cases same : value = other
    · simp [compareToken, andThen, Token.text, compareAlpha, same]
    by_cases rank : alphaRank value = alphaRank other
    · simp [compareToken, andThen, Token.text, compareAlpha, same, rank]
    · have ranks : (if alphaRank value < alphaRank other then -1 else 1) =
          threeWay (alphaRank value) (alphaRank other) := by
        simp [threeWay, rank]
      simp [compareToken, andThen, compareAlpha, same, rank, ranks]
  · have older : threeWay false true = -1 := by decide
    simp [compareToken, andThen, older]
  · have newer : threeWay true false = 1 := by decide
    simp [compareToken, andThen, newer]
  · rcases lt_trichotomy (byteLength (trimZeros value)) (byteLength (trimZeros other)) with
      shorter | level | longer
    · simp [compareToken, andThen, Token.text, compareNumeric, threeWay, shorter]
    · simp [compareToken, andThen, Token.text, compareNumeric, level]
    · simp [compareToken, andThen, Token.text, compareNumeric, threeWay, longer, longer.not_gt,
        longer.ne']

theorem coherent_compareToken : Coherent compareToken := by
  rw [compareToken_eq]
  exact (coherent_threeWay.on Token.numeric).andThen
    ((coherent_threeWay.on fun token => if token.numeric then byteLength token.text else 0).andThen
      ((coherent_threeWay.on fun token => if token.numeric then 0 else alphaRank token.value).andThen
        (coherent_threeWay.on Token.text)))

theorem compareToken_eq_zero : compareToken left right = 0 ↔ left.same right = true := by
  rw [compareToken_eq]
  simp only [andThen_eq_zero, threeWay_eq_zero, Token.same_iff]
  refine and_congr_right fun kind => ?_
  constructor
  · exact fun facts => facts.2.2
  · intro text
    refine ⟨by rw [kind, text], ?_, text⟩
    cases numeric : right.numeric with
    | true => simp [kind, numeric]
    | false =>
      simp only [Token.text, kind, numeric, Bool.false_eq_true, if_false] at text
      simp [kind, numeric, text]

/-! ## Numbers and words -/

theorem trimZeros_zero : trimZeros "0" = "0" := by decide

/-- A number without leading zeros is not before `0`. -/
theorem zero_le_trimZeros {digits : String} (above : ∀ character ∈ digits.toList, '0' ≤ character) :
    "0" ≤ trimZeros digits ∧ 1 ≤ byteLength (trimZeros digits) := by
  unfold trimZeros
  cases trimmed : digits.toList.dropWhile (· == '0') with
  | nil => decide
  | cons first rest =>
    have among : first ∈ digits.toList :=
      (List.dropWhile_sublist _).subset (by rw [trimmed]; exact List.mem_cons_self)
    have nonzero := List.head?_dropWhile_not (· == '0') digits.toList
    rw [trimmed] at nonzero
    simp only [List.head?_cons, beq_eq_false_iff_ne] at nonzero
    have spelled : String.ofList (first :: rest) ≠ "" := by
      intro empty
      have := congrArg String.toList empty
      simp at this
    have listed : (String.ofList (first :: rest)).toList = first :: rest := String.toList_ofList
    have zero : "0".toList = ['0'] := by decide
    rw [if_neg spelled, String.le_iff_toList_le, zero, listed]
    refine ⟨Lexicographic.cons_le_cons.mpr (.inl (lt_of_le_of_ne (above first among)
      (Ne.symm nonzero))), ?_⟩
    rw [Nat.one_le_iff_ne_zero, byteLength, Ne, String.utf8ByteSize_eq_zero_iff]
    exact spelled

section Tokens

variable {left right : Token} {rest : List Token}

theorem compareToken_word_number (word : left.numeric = false) (number : right.numeric = true) :
    compareToken left right = -1 := by
  simp [compareToken, word, number]

theorem compareToken_number_word (number : left.numeric = true) (word : right.numeric = false) :
    compareToken left right = 1 := by
  simp [compareToken, word, number]

theorem compareToken_later_prerelease (later : left.isLater = true)
    (early : right.isPrerelease = true) :
    compareToken left right = 1 := by
  obtain ⟨leftWord, above⟩ := Token.isLater_iff.mp later
  obtain ⟨rightWord, below⟩ := Token.isPrerelease_iff.mp early
  have ranks : alphaRank right.value < alphaRank left.value := below.trans_le above
  have differ : left.value ≠ right.value := by
    intro same
    rw [same] at ranks
    exact lt_irrefl _ ranks
  simp [compareToken, leftWord, rightWord, compareAlpha, differ, ranks.ne', ranks.not_gt]

/-- No number is older than zero. -/
theorem compareToken_zero (number : left.numeric = true) (digits : left.Digits)
    (zero : right.isZero = true) :
    0 ≤ compareToken left right := by
  obtain ⟨isNumber, isZero⟩ := Token.isZero_iff.mp zero
  obtain ⟨above, long⟩ := zero_le_trimZeros (digits number)
  have text : left.text = trimZeros left.value := if_pos number
  have otherText : right.text = "0" := (if_pos isNumber).trans isZero
  have single : byteLength "0" = 1 := by decide
  rw [compareToken_eq]
  simp only [andThen_nonneg, number, isNumber, threeWay_self, lt_self_iff_false, true_and, false_or,
    if_true, threeWay_eq_zero, threeWay_nonneg, text, otherText, single]
  rcases eq_or_lt_of_le long with level | longer
  · exact .inr ⟨level.symm, above⟩
  · refine .inl (lt_of_le_of_ne ?_ ?_)
    · exact threeWay_nonneg.mpr long
    · exact fun level => longer.ne (threeWay_eq_zero.mp level.symm).symm

theorem isZero_of_same (same : left.same right = true) (zero : right.isZero = true) :
    left.isZero = true := by
  obtain ⟨kind, text⟩ := Token.same_iff.mp same
  obtain ⟨number, isZero⟩ := Token.isZero_iff.mp zero
  rw [Token.text, Token.text, kind, number, if_pos rfl, if_pos rfl, isZero] at text
  exact Token.isZero_iff.mpr ⟨kind.trans number, text⟩

theorem compareToken_zeros (leftZero : left.isZero = true) (rightZero : right.isZero = true) :
    compareToken left right = 0 := by
  obtain ⟨leftNumber, leftText⟩ := Token.isZero_iff.mp leftZero
  obtain ⟨rightNumber, rightText⟩ := Token.isZero_iff.mp rightZero
  refine compareToken_eq_zero.mpr (Token.same_iff.mpr ⟨leftNumber.trans rightNumber.symm, ?_⟩)
  simp [Token.text, leftNumber, rightNumber, leftText, rightText]

/-- A number that is not newer than zero is zero. -/
theorem isZero_of_le (zero : left.isZero = true) (number : right.numeric = true)
    (digits : right.Digits) (above : 0 ≤ compareToken left right) :
    right.isZero = true := by
  have below := compareToken_zero number digits zero
  have level : compareToken right left = 0 := by
    have := coherent_compareToken.nonneg_swap.mp above
    omega
  exact isZero_of_same (compareToken_eq_zero.mp level) zero

/-- What is not newer than a pre-release word is one itself. -/
theorem isPrerelease_of_le (early : left.isPrerelease = true)
    (above : 0 ≤ compareToken left right) :
    right.isPrerelease = true := by
  have word := (Token.isPrerelease_iff.mp early).1
  cases number : right.numeric with
  | true =>
    rw [compareToken_word_number word number] at above
    omega
  | false =>
    rcases right.kinds with zero | positive | prerelease | later
    · simp [Token.isZero, number] at zero
    · simp [number] at positive
    · exact prerelease
    · have newer := compareToken_later_prerelease later early
      have := coherent_compareToken.nonneg_swap.mp above
      omega

/-! ## The end of a version -/

theorem end_zero (zero : left.isZero = true) :
    compareEndToRemainder (left :: rest) = compareEndToRemainder rest := by
  obtain ⟨number, isZero⟩ := Token.isZero_iff.mp zero
  have level : compareNumeric left.value "0" = 0 := by
    simp [compareNumeric, isZero, trimZeros_zero]
  simp [compareEndToRemainder, number, level]

theorem end_number (number : left.numeric = true) (positive : trimZeros left.value ≠ "0") :
    compareEndToRemainder (left :: rest) = -1 := by
  have differ : compareNumeric left.value "0" ≠ 0 := by
    simp only [compareNumeric, trimZeros_zero]
    split_ifs
    · decide
    · decide
    · exact fun level => positive (threeWay_eq_zero.mp level)
  simp [compareEndToRemainder, number, differ]

theorem end_prerelease (early : left.isPrerelease = true) :
    compareEndToRemainder (left :: rest) = 1 := by
  obtain ⟨word, below⟩ := Token.isPrerelease_iff.mp early
  simp [compareEndToRemainder, word, below]

theorem end_later (later : left.isLater = true) :
    compareEndToRemainder (left :: rest) = -1 := by
  obtain ⟨word, above⟩ := Token.isLater_iff.mp later
  simp [compareEndToRemainder, word, above]

theorem end_le_one (rest : List Token) : compareEndToRemainder rest ≤ 1 := by
  induction rest with
  | nil => decide
  | cons token rest ih =>
    unfold compareEndToRemainder
    split_ifs <;> omega

end Tokens

/-- Zeros up to the end or up to a pre-release word: no remainder that makes a version newer. -/
def vanishing : List Token → Bool
  | [] => true
  | token :: rest => token.isPrerelease || token.isZero && vanishing rest

theorem end_nonneg_iff (rest : List Token) :
    0 ≤ compareEndToRemainder rest ↔ vanishing rest = true := by
  induction rest with
  | nil => simp [compareEndToRemainder, vanishing]
  | cons token rest ih =>
    rcases token.kinds with zero | ⟨number, positive⟩ | early | later
    · have notEarly : token.isPrerelease = false := by
        simp [Token.isPrerelease, (Token.isZero_iff.mp zero).1]
      rw [end_zero zero, ih]
      simp [vanishing, zero, notEarly]
    · rw [end_number number positive]
      simp [vanishing, Token.isPrerelease, Token.isZero, number, positive]
    · rw [end_prerelease early]
      simp [vanishing, early]
    · rw [end_later later]
      obtain ⟨word, above⟩ := Token.isLater_iff.mp later
      simp [vanishing, Token.isPrerelease, Token.isZero, word, above]

/-! ## Circular triples -/

/--
After the same numbers and words the first version ends.  After as many zeros the
second one goes on with a word that is no pre-release and the third one with a zero
and nothing that makes it newer than its end.
-/
def circular : List Token → List Token → List Token → Bool
  | [], word :: words, zero :: rest =>
    word.isLater && zero.isZero && vanishing rest ||
      word.isZero && zero.isZero && circular [] words rest
  | first :: ended, second :: words, third :: rest =>
    first.same second && second.same third && circular ended words rest
  | _, _, _ => false

/-- The three versions of a circular triple are each not older than the next. -/
theorem ring_of_circular {ended words rest : List Token}
    (circle : circular ended words rest = true) :
    0 ≤ compareTokens ended rest ∧ 0 < compareTokens rest words ∧
      compareTokens ended words < 0 := by
  induction words generalizing ended rest with
  | nil => cases ended <;> simp [circular] at circle
  | cons word words ih =>
    cases rest with
    | nil => cases ended <;> simp [circular] at circle
    | cons zero rest =>
      cases ended with
      | nil =>
        simp only [circular, Bool.or_eq_true, Bool.and_eq_true] at circle
        rcases circle with ⟨⟨later, isZero⟩, vanishes⟩ | ⟨⟨wordZero, isZero⟩, circle⟩
        · have number := (Token.isZero_iff.mp isZero).1
          have isWord := (Token.isLater_iff.mp later).1
          simp only [compareTokens, compareToken_number_word number isWord, end_zero isZero,
            end_later later]
          exact ⟨(end_nonneg_iff rest).mpr vanishes, by simp, by decide⟩
        · obtain ⟨first, second, third⟩ := ih circle
          have level := compareToken_zeros isZero wordZero
          simp only [compareTokens, end_zero isZero, end_zero wordZero, level, ne_eq,
            not_true_eq_false, if_false] at first third ⊢
          exact ⟨first, second, third⟩
      | cons start ended =>
        simp only [circular, Bool.and_eq_true] at circle
        obtain ⟨⟨upper, lower⟩, circle⟩ := circle
        have first := compareToken_eq_zero.mpr upper
        have second := compareToken_eq_zero.mpr lower
        have back : compareToken zero word = 0 := by
          rw [coherent_compareToken.swap word zero, second]
          rfl
        simp only [compareTokens, first, back,
          coherent_compareToken.eq_zero_trans first second, ne_eq, not_true_eq_false, if_false]
        exact ih circle

/-! ## Transitivity without circular triples -/

theorem compareTokens_nil_right (left : List Token) :
    compareTokens left [] = -compareEndToRemainder left := by
  cases left with
  | nil | cons token rest => rfl

variable {lefts rights : List Token} {left right : Token}

theorem compareTokens_cons_nonneg :
    0 ≤ compareTokens (left :: lefts) (right :: rights) ↔ 0 < compareToken left right ∨
        compareToken left right = 0 ∧ 0 ≤ compareTokens lefts rights := by
  rw [compareTokens]
  split_ifs with differ
  · omega
  · simp [not_not.mp differ]

theorem compareTokens_swap (left right : List Token) :
    compareTokens right left = -compareTokens left right := by
  induction left generalizing right with
  | nil => exact compareTokens_nil_right right
  | cons token lefts ih =>
    cases right with
    | nil => simp [compareTokens]
    | cons other rights =>
      simp only [compareTokens, coherent_compareToken.swap token other, ih rights]
      split_ifs with first second <;> omega

theorem compareToken_nonneg_of_cons (above : 0 ≤ compareTokens (left :: lefts) (right :: rights)) :
    0 ≤ compareToken left right := by
  rcases compareTokens_cons_nonneg.mp above with newer | ⟨level, _⟩
  · exact newer.le
  · exact level.ge

variable {upper lower : List Token}

/-- Going down from a remainder that vanishes does not make the end older. -/
theorem end_le_end (digits : ∀ token ∈ lower, token.Digits)
    (vanishes : 0 ≤ compareEndToRemainder upper) (above : 0 ≤ compareTokens upper lower)
    (straight : circular [] lower upper = false) :
    compareEndToRemainder upper ≤ compareEndToRemainder lower := by
  induction upper generalizing lower with
  | nil => exact above
  | cons token upper ih =>
    cases lower with
    | nil =>
      rw [compareTokens_nil_right] at above
      simpa [compareEndToRemainder] using above
    | cons other lower =>
      obtain ⟨otherDigits, digits⟩ := List.forall_mem_cons.mp digits
      have step := compareToken_nonneg_of_cons above
      rcases token.kinds with zero | ⟨number, positive⟩ | early | later
      · rw [end_zero zero] at vanishes ⊢
        rcases other.kinds with otherZero | ⟨otherNumber, otherPositive⟩ | early | later
        · rw [end_zero otherZero]
          have level := compareToken_zeros zero otherZero
          simp only [compareTokens, level, ne_eq, not_true_eq_false, if_false] at above
          simp only [circular, otherZero, zero, Bool.and_true, Bool.true_and,
            Bool.or_eq_false_iff] at straight
          exact ih digits vanishes above straight.2
        · have otherZero := isZero_of_le zero otherNumber otherDigits step
          exact absurd (Token.isZero_iff.mp otherZero).2 otherPositive
        · rw [end_prerelease early]
          exact end_le_one upper
        · -- the end, the word and the zero meet here
          simp [circular, later, zero, (end_nonneg_iff upper).mp vanishes] at straight
      · rw [end_number number positive] at vanishes
        omega
      · rw [end_prerelease early, end_prerelease (isPrerelease_of_le early step)]
      · rw [end_later later] at vanishes
        omega

theorem isZero_of_end {token : Token} {rest : List Token}
    (level : compareEndToRemainder (token :: rest) = 0) :
    token.isZero = true ∧ compareEndToRemainder rest = 0 := by
  rcases token.kinds with zero | ⟨number, positive⟩ | early | later
  · exact ⟨zero, by rwa [end_zero zero] at level⟩
  · simp [end_number number positive] at level
  · simp [end_prerelease early] at level
  · simp [end_later later] at level

/-- Remainders that are level with the end are level with each other. -/
theorem compareTokens_of_end (first : compareEndToRemainder upper = 0)
    (second : compareEndToRemainder lower = 0) : compareTokens upper lower = 0 := by
  induction upper generalizing lower with
  | nil => exact second
  | cons token upper ih =>
    cases lower with
    | nil => simp [compareTokens_nil_right, first]
    | cons other lower =>
      obtain ⟨zero, first⟩ := isZero_of_end first
      obtain ⟨otherZero, second⟩ := isZero_of_end second
      simp [compareTokens, compareToken_zeros zero otherZero, ih first second]

/-- The end between a remainder that is not older and one that vanishes. -/
theorem compareTokens_around_end (digits : ∀ token ∈ upper, token.Digits)
    (above : compareEndToRemainder upper ≤ 0) (vanishes : 0 ≤ compareEndToRemainder lower)
    (straight : circular [] upper lower = false) :
    0 ≤ compareTokens upper lower := by
  by_contra older
  have back := compareTokens_swap upper lower
  have below := end_le_end digits vanishes (by omega) straight
  exact older (compareTokens_of_end (by omega) (by omega)).ge

theorem compareTokens_trans {first second third : List Token}
    (firstDigits : ∀ token ∈ first, token.Digits) (secondDigits : ∀ token ∈ second, token.Digits)
    (thirdDigits : ∀ token ∈ third, token.Digits) (upper : 0 ≤ compareTokens first second)
    (lower : 0 ≤ compareTokens second third) (firstEnds : circular first third second = false)
    (secondEnds : circular second first third = false)
    (thirdEnds : circular third second first = false) :
    0 ≤ compareTokens first third := by
  induction first generalizing second third with
  | nil => exact upper.trans (end_le_end thirdDigits upper lower firstEnds)
  | cons token first ih =>
    cases second with
    | nil =>
      rw [compareTokens_nil_right] at upper
      exact compareTokens_around_end firstDigits (by omega) lower secondEnds
    | cons middle second =>
      cases third with
      | nil =>
        rw [compareTokens_nil_right] at lower ⊢
        by_contra older
        have := end_le_end secondDigits (by omega) upper thirdEnds
        omega
      | cons last third =>
        rw [compareTokens_cons_nonneg] at upper lower ⊢
        rcases upper with newer | ⟨level, upper⟩
        · refine .inl (coherent_compareToken.pos_of_pos_of_nonneg newer ?_)
          rcases lower with newer | ⟨level, _⟩
          · exact newer.le
          · exact level.ge
        · rcases lower with newer | ⟨same, lower⟩
          · exact .inl (coherent_compareToken.pos_of_nonneg_of_pos level.ge newer)
          · have both := coherent_compareToken.eq_zero_trans level same
            have reversed : ∀ {left right : Token}, compareToken left right = 0 →
                right.same left = true := by
              intro left right equal
              refine compareToken_eq_zero.mp ?_
              rw [coherent_compareToken.swap left right, equal]
              rfl
            simp only [circular, compareToken_eq_zero.mp both, reversed level, reversed same,
              Bool.true_and] at firstEnds secondEnds thirdEnds
            exact .inr ⟨both, ih (List.forall_mem_cons.mp firstDigits).2
              (List.forall_mem_cons.mp secondDigits).2 (List.forall_mem_cons.mp thirdDigits).2
              upper lower firstEnds secondEnds thirdEnds⟩

/-! ## Tokens of a version -/

/-- The scanner holds a run of runes of one kind, and its numbers consist of digits. -/
structure Scanner.Sound (unicode : Unicode) (scanner : Scanner) : Prop where
  out : ∀ token ∈ scanner.out, token.Digits
  text : ∀ character ∈ scanner.text, unicode.kind character = scanner.kind
  idle : scanner.kind = .separator → scanner.text = []

section Scanner

variable {unicode : Unicode} {scanner : Scanner}

theorem zero_le_of_kind {character : Char} (digit : unicode.kind character = .digit) :
    '0' ≤ character := by
  unfold Unicode.kind at digit
  split_ifs at digit with isDigit
  exact unicode.zero_le isDigit

theorem Scanner.Sound.flush (sound : scanner.Sound unicode) :
    (∀ token ∈ scanner.flush.out, token.Digits) ∧ scanner.flush.text = [] := by
  unfold Scanner.flush
  split_ifs with empty
  · exact ⟨sound.out, empty⟩
  · refine ⟨?_, rfl⟩
    simp only [List.forall_mem_append, List.forall_mem_singleton]
    refine ⟨sound.out, ?_⟩
    intro number character member
    rw [String.toList_ofList] at member
    exact zero_le_of_kind ((sound.text character member).trans (of_decide_eq_true number))

theorem Scanner.Sound.read (sound : scanner.Sound unicode) (character : Char) :
    (scanner.read unicode character).Sound unicode := by
  obtain ⟨flushed, cleared⟩ := sound.flush
  simp only [Scanner.read]
  split_ifs with separator changes
  · exact ⟨flushed, by simp [cleared], fun _ => cleared⟩
  · refine ⟨flushed, ?_, fun idle => absurd idle separator⟩
    simp [cleared]
  · refine ⟨sound.out, ?_, fun idle => absurd idle separator⟩
    simp only [List.forall_mem_append, List.forall_mem_singleton, and_true]
    intro other member
    by_cases idle : scanner.kind = .separator
    · rw [sound.idle idle] at member
      cases member
    · rw [sound.text other member]
      by_contra different
      exact changes ⟨idle, different⟩

theorem digits_tokenize (unicode : Unicode) (version : String) :
    ∀ token ∈ tokenize unicode version, token.Digits := by
  have sound : ((version.toList.map unicode.toLower).foldl (Scanner.read unicode) {}).Sound
      unicode :=
    List.foldlRecOn (motive := Scanner.Sound unicode) _ _
      ⟨by simp, by simp, fun _ => rfl⟩ (fun _ holds character _ => holds.read character)
  exact sound.flush.1

end Scanner

/-! ## Versions -/

theorem compare_swap (unicode : Unicode) (left right : String) :
    compare unicode right left = -compare unicode left right :=
  compareTokens_swap _ _

variable {unicode : Unicode}

/-- `Compare` orders a set of versions, and `AtLeast` their revisions. -/
structure TotalPreorder (unicode : Unicode) (versions : Set String) : Prop where
  swap : ∀ left ∈ versions, ∀ right ∈ versions,
    compare unicode right left = -compare unicode left right
  trans : ∀ first ∈ versions, ∀ second ∈ versions, ∀ third ∈ versions,
    0 ≤ compare unicode first second → 0 ≤ compare unicode second third →
      0 ≤ compare unicode first third
  alike : ∀ first ∈ versions, ∀ second ∈ versions, compare unicode first second = 0 →
    ∀ third ∈ versions, (compare unicode first third).sign = (compare unicode second third).sign
  atLeast : ∀ first ∈ versions, ∀ second ∈ versions, ∀ third ∈ versions,
    ∀ firstRevision secondRevision thirdRevision,
      Version.atLeast unicode first firstRevision second secondRevision = true →
      Version.atLeast unicode second secondRevision third thirdRevision = true →
      Version.atLeast unicode first firstRevision third thirdRevision = true

/-- A coherent comparison of the versions of a set gives every law. -/
theorem totalPreorder_of_trans {versions : Set String}
    (trans : ∀ first ∈ versions, ∀ second ∈ versions, ∀ third ∈ versions,
      0 ≤ compare unicode first second → 0 ≤ compare unicode second third →
        0 ≤ compare unicode first third) :
    TotalPreorder unicode versions := by
  have coherent : Coherent fun left right : versions => compare unicode left right :=
    ⟨fun left right => compare_swap unicode left right,
      fun {first second third} => trans first first.2 second second.2 third third.2⟩
  have ordered : Coherent (Comparison.andThen
      (fun left right : versions × Int => compare unicode left.1 right.1)
      fun left right => threeWay left.2 right.2) :=
    (coherent.on Prod.fst).andThen (coherent_threeWay.on Prod.snd)
  have selects : ∀ (selected minimum : versions) (selectedRevision minimumRevision : Int),
      Version.atLeast unicode selected selectedRevision minimum minimumRevision = true ↔
        0 ≤ Comparison.andThen
          (fun left right : versions × Int => compare unicode left.1 right.1)
          (fun left right => threeWay left.2 right.2)
          (selected, selectedRevision) (minimum, minimumRevision) := by
    intro selected minimum selectedRevision minimumRevision
    rw [andThen_nonneg, threeWay_nonneg, atLeast]
    split_ifs with differ
    · simp [differ]
    · simp [not_not.mp differ]
  have alike : ∀ first second : versions, compare unicode first second = 0 → ∀ third : versions,
      (compare unicode first third).sign = (compare unicode second third).sign :=
    fun _ _ same third => coherent.sign_eq same third
  have chains : ∀ (first second third : versions)
      (firstRevision secondRevision thirdRevision : Int),
      Version.atLeast unicode first firstRevision second secondRevision = true →
      Version.atLeast unicode second secondRevision third thirdRevision = true →
      Version.atLeast unicode first firstRevision third thirdRevision = true := by
    intro first second third firstRevision secondRevision thirdRevision
    rw [selects, selects, selects]
    exact ordered.trans
  refine ⟨fun left _ right _ => compare_swap unicode left right, trans, ?_, ?_⟩
  · intro first firstMember second secondMember same third thirdMember
    exact alike ⟨first, firstMember⟩ ⟨second, secondMember⟩ same ⟨third, thirdMember⟩
  · intro first firstMember second secondMember third thirdMember
    exact chains ⟨first, firstMember⟩ ⟨second, secondMember⟩ ⟨third, thirdMember⟩

/--
`Compare` is a total preorder on a set of versions, and `AtLeast` transitive on it,
exactly when no three of its versions are circular.
-/
theorem totalPreorder_iff (unicode : Unicode) (versions : Set String) :
    TotalPreorder unicode versions ↔ ∀ ended ∈ versions, ∀ worded ∈ versions, ∀ zeroed ∈ versions,
        circular (tokenize unicode ended) (tokenize unicode worded) (tokenize unicode zeroed) =
          false := by
  constructor
  · intro ordered ended endedMember worded wordedMember zeroed zeroedMember
    by_contra circle
    rw [Bool.not_eq_false] at circle
    obtain ⟨upper, lower, around⟩ := ring_of_circular circle
    have direct := ordered.trans ended endedMember zeroed zeroedMember worded wordedMember upper
      (le_of_lt lower)
    exact absurd direct (not_le.mpr around)
  · intro straight
    refine totalPreorder_of_trans fun first firstMember second secondMember third thirdMember => ?_
    intro upper lower
    exact compareTokens_trans (digits_tokenize unicode first) (digits_tokenize unicode second)
      (digits_tokenize unicode third) upper lower
      (straight first firstMember third thirdMember second secondMember)
      (straight second secondMember first firstMember third thirdMember)
      (straight third thirdMember second secondMember first firstMember)

/-- The tables of `unicode` on ASCII. -/
def ascii : Unicode where
  toLower := toLowerChar
  isDigit := GoString.isDigit
  isLetter := Char.isAlpha
  zero_le := by
    intro character digit
    simp only [GoString.isDigit, decide_eq_true_eq] at digit
    exact digit.1

/-- `1` is level with `1.0`, `1.0` is newer than `1p1`, and `1p1` is newer than `1`. -/
theorem compare_circular :
    compare ascii "1" "1.0" = 0 ∧ compare ascii "1.0" "1p1" = 1 ∧ compare ascii "1" "1p1" = -1 ∧
      atLeast ascii "1" 0 "1.0" 0 = true ∧ atLeast ascii "1.0" 0 "1p1" 0 = true ∧
      atLeast ascii "1" 0 "1p1" 0 = false := by
  decide

end DalecHomebrew.Homebrew.Version
