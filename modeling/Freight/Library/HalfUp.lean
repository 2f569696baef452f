import Mathlib.Algebra.Order.Floor.Ring
import Mathlib.Algebra.Order.Field.Basic
import Mathlib.Tactic.Linarith
import Mathlib.Tactic.Ring

/-! Rounding to the nearest whole number, halves upwards. -/

namespace Freight

variable {K : Type*} [Field K] [LinearOrder K] [IsStrictOrderedRing K] [FloorRing K]

/-- The nearest whole number, and the upper one of two equally near. -/
def halfUp (value : K) : ℤ := ⌊value + 1 / 2⌋

/-- What rounding takes off a value: at least minus a half, and less than a half. -/
def roundedOff (value : K) : K := Int.fract (value + 1 / 2) - 1 / 2

/-- A value is its rounding and what was taken off. -/
theorem halfUp_add_roundedOff (value : K) : (halfUp value : K) + roundedOff value = value := by
  -- Floor and fractional part make up the shifted value.
  have parts := Int.floor_add_fract (value + 1 / 2)
  unfold halfUp roundedOff
  linarith

/-- At most a half is added. -/
theorem roundedOff_ge (value : K) : -(1 / 2) ≤ roundedOff value := by
  -- The fraction that rounding drops is not negative.
  have part := Int.fract_nonneg (value + 1 / 2)
  unfold roundedOff
  linarith

/-- And less than a half is taken off. -/
theorem roundedOff_lt (value : K) : roundedOff value < 1 / 2 := by
  -- The fraction that rounding drops is less than one.
  have part := Int.fract_lt_one (value + 1 / 2)
  unfold roundedOff
  linarith

/-- A value rounds to a whole number exactly within a half of it, the lower end included. -/
theorem halfUp_eq_iff {value : K} {whole : ℤ} :
    halfUp value = whole ↔ whole - 1 / 2 ≤ value ∧ value < whole + 1 / 2 := by
  unfold halfUp
  rw [Int.floor_eq_iff, sub_le_iff_le_add]
  -- The upper end is the floor's, a half further down.
  refine and_congr Iff.rfl ⟨fun below => ?_, fun below => ?_⟩ <;> linarith

/-- A larger value never rounds to less. -/
theorem halfUp_mono {one other : K} (more : one ≤ other) : halfUp one ≤ halfUp other :=
  Int.floor_le_floor (add_le_add more le_rfl)

/-- A whole number is rounded to itself. -/
theorem halfUp_intCast (whole : ℤ) : halfUp (whole : K) = whole := by
  -- It lies within the half on either side of itself.
  rw [halfUp_eq_iff]
  constructor <;> linarith

/-- Two parts round to what their sum rounds to exactly when what they lose together is itself lost. -/
theorem halfUp_add_iff (one other : K) : halfUp one + halfUp other = halfUp (one + other) ↔
    -(1 / 2) ≤ roundedOff one + roundedOff other ∧ roundedOff one + roundedOff other < 1 / 2 := by
  have first := halfUp_add_roundedOff one
  have second := halfUp_add_roundedOff other
  rw [eq_comm, halfUp_eq_iff]
  push_cast
  -- Both sides measure how far the sum is from the two roundings.
  refine and_congr ⟨fun low => ?_, fun low => ?_⟩ ⟨fun high => ?_, fun high => ?_⟩ <;> linarith

/-- Two roundings are less than a unit further apart than what was rounded. -/
theorem halfUp_sub_lt (far near : K) : (halfUp far : K) - halfUp near < far - near + 1 := by
  -- Each rounding is off by less than a half upwards and by a half at most downwards.
  have first := halfUp_add_roundedOff far
  have second := halfUp_add_roundedOff near
  have above := roundedOff_ge far
  have below := roundedOff_lt near
  linarith

/-- A difference that is no larger is larger by a unit at most once all four ends are rounded. -/
theorem halfUp_sub_le {one less other back : K} (smaller : one - less ≤ other - back) :
    halfUp one - halfUp less ≤ halfUp other - halfUp back + 1 := by
  have grown := halfUp_sub_lt one less
  have shrunk := halfUp_sub_lt back other
  -- Each difference gains or loses less than a unit, and both are whole.
  have near : ((halfUp one - halfUp less : ℤ) : K) < ((halfUp other - halfUp back + 2 : ℤ) : K) := by
    push_cast
    linarith
  have near := Int.cast_lt.mp near
  omega

end Freight
