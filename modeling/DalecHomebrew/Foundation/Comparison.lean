import Mathlib.Order.Lattice

/-!
# Three-way comparisons

Go compares two values by a function whose result is negative, zero or positive.
Such a comparison is `Coherent` when its signs are those of a total preorder.  The
comparison of a linear order is coherent, and coherence is kept when a comparison is
taken on a key (`Coherent.on`) and when ties are broken by a second comparison
(`Coherent.andThen`).
-/

namespace DalecHomebrew.Foundation.Comparison

variable {Item Key : Type*}

/-- `cmp.Compare` and `strings.Compare`. -/
def threeWay [LinearOrder Item] (left right : Item) : Int :=
  if left < right then -1 else if left = right then 0 else 1

/-- The second comparison decides where the first one finds no difference. -/
def andThen (first second : Item → Item → Int) (left right : Item) : Int :=
  if first left right ≠ 0 then first left right else second left right

/-- The signs of a comparison are those of a total preorder. -/
structure Coherent (compare : Item → Item → Int) : Prop where
  swap : ∀ left right, compare right left = -compare left right
  trans : ∀ {first second third}, 0 ≤ compare first second → 0 ≤ compare second third →
    0 ≤ compare first third

variable {left right : Item}

@[simp]
theorem threeWay_eq_zero [LinearOrder Item] :
    threeWay left right = 0 ↔ left = right := by
  unfold threeWay
  split_ifs with less same
  · simp [less.ne]
  · simp [same]
  · simp [same]

@[simp]
theorem threeWay_self [LinearOrder Item] (item : Item) : threeWay item item = 0 :=
  threeWay_eq_zero.mpr rfl

@[simp]
theorem threeWay_nonneg [LinearOrder Item] :
    0 ≤ threeWay left right ↔ right ≤ left := by
  unfold threeWay
  split_ifs with less same
  · simp [less]
  · simp [same]
  · simp [le_of_not_gt less]

theorem coherent_threeWay [LinearOrder Item] : Coherent (threeWay : Item → Item → Int) where
  swap := by
    intro left right
    unfold threeWay
    rcases lt_trichotomy left right with less | same | more
    · simp [less, less.ne', less.not_gt]
    · simp [same]
    · simp [more, more.ne', more.not_gt]
  trans := by
    intro first second third
    simp only [threeWay_nonneg]
    intro upper lower
    exact lower.trans upper

/-- Values are compared by a key. -/
theorem Coherent.on {compare : Key → Key → Int} (coherent : Coherent compare) (key : Item → Key) :
    Coherent fun left right => compare (key left) (key right) where
  swap := fun left right => coherent.swap (key left) (key right)
  trans := fun upper lower => coherent.trans upper lower

section Coherent

variable {compare : Item → Item → Int} {first second third : Item}

section

variable (coherent : Coherent compare)

include coherent

theorem Coherent.nonneg_swap :
    0 ≤ compare second first ↔ compare first second ≤ 0 := by
  rw [coherent.swap first second]
  omega

theorem Coherent.pos_of_pos_of_nonneg (upper : 0 < compare first second)
    (lower : 0 ≤ compare second third) :
    0 < compare first third := by
  by_contra notAbove
  have back : 0 ≤ compare third first := coherent.nonneg_swap.mpr (by omega)
  have around := coherent.nonneg_swap.mp (coherent.trans lower back)
  omega

theorem Coherent.pos_of_nonneg_of_pos (upper : 0 ≤ compare first second)
    (lower : 0 < compare second third) :
    0 < compare first third := by
  by_contra notAbove
  have back : 0 ≤ compare third first := coherent.nonneg_swap.mpr (by omega)
  have around := coherent.nonneg_swap.mp (coherent.trans back upper)
  omega

theorem Coherent.eq_zero_trans (upper : compare first second = 0)
    (lower : compare second third = 0) :
    compare first third = 0 := by
  have down := coherent.trans upper.ge lower.ge
  have up : 0 ≤ compare third first :=
    coherent.trans (coherent.nonneg_swap.mpr lower.le) (coherent.nonneg_swap.mpr upper.le)
  have := coherent.nonneg_swap.mp up
  omega

/-- Values without a difference compare alike with every third one. -/
theorem Coherent.sign_eq (same : compare first second = 0) (third : Item) :
    (compare first third).sign = (compare second third).sign := by
  have back : compare second first = 0 := by
    rw [coherent.swap first second, same]
    rfl
  rcases lt_trichotomy (compare first third) 0 with below | level | above
  · have lower : 0 < compare third first := by
      rw [coherent.swap first third]
      omega
    have other := coherent.pos_of_pos_of_nonneg lower same.ge
    rw [coherent.swap second third] at other
    rw [Int.sign_eq_neg_one_of_neg below, Int.sign_eq_neg_one_of_neg (by omega)]
  · rw [level, coherent.eq_zero_trans back level]
  · have other := coherent.pos_of_nonneg_of_pos back.ge above
    rw [Int.sign_eq_one_of_pos above, Int.sign_eq_one_of_pos other]

end

end Coherent

variable {compare tie : Item → Item → Int}

theorem andThen_eq_zero :
    andThen compare tie left right = 0 ↔ compare left right = 0 ∧ tie left right = 0 := by
  unfold andThen
  split_ifs with differ
  · simp [differ]
  · simp [not_not.mp differ]

theorem andThen_nonneg : 0 ≤ andThen compare tie left right ↔
      0 < compare left right ∨ compare left right = 0 ∧ 0 ≤ tie left right := by
  unfold andThen
  split_ifs with differ
  · omega
  · simp [not_not.mp differ]

/-- Breaking ties by a coherent comparison keeps a comparison coherent. -/
theorem Coherent.andThen (major : Coherent compare) (minor : Coherent tie) :
    Coherent (andThen compare tie) where
  swap := by
    intro left right
    unfold Comparison.andThen
    rw [major.swap left right, minor.swap left right]
    split_ifs with differ level level <;> omega
  trans := by
    intro first second third
    simp only [andThen_nonneg]
    rintro (above | ⟨level, above⟩) (below | ⟨same, below⟩)
    · exact .inl (major.pos_of_pos_of_nonneg above below.le)
    · exact .inl (major.pos_of_pos_of_nonneg above same.ge)
    · exact .inl (major.pos_of_nonneg_of_pos level.ge below)
    · exact .inr ⟨major.eq_zero_trans level same, minor.trans above below⟩

end DalecHomebrew.Foundation.Comparison
