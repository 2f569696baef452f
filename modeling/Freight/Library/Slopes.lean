import Mathlib.Algebra.Order.Group.MinMax
import Mathlib.Algebra.Order.Field.Basic
import Mathlib.Analysis.Normed.Field.Lemmas
import Mathlib.Topology.MetricSpace.Lipschitz
import Mathlib.Tactic.Linarith
import Mathlib.Tactic.Ring

/-! Functions of bounded slope, with the bound a number of the field they live in. -/

namespace Freight

section
variable {K : Type*} [Field K] [LinearOrder K]

/-- Over a set, the function changes by at most so much for each unit of its argument. -/
def SlopeOn (slope : K) (set : Set K) (f : K → K) : Prop :=
  ∀ near ∈ set, ∀ far ∈ set, |f far - f near| ≤ slope * |far - near|

/-- Over a set, the function stays within so much of zero. -/
def HeightOn (height : K) (set : Set K) (f : K → K) : Prop :=
  ∀ point ∈ set, |f point| ≤ height

variable {set : Set K} {f g : K → K} {one other : K}

namespace SlopeOn

/-- The argument changes as fast as itself. -/
theorem id : SlopeOn 1 set fun point => point := by
  -- The two differences are one and the same.
  intro near _ far _
  simp

/-- Functions that agree on a set have the same slope on it. -/
theorem congr (slope : SlopeOn one set f) (same : ∀ point ∈ set, g point = f point) :
    SlopeOn one set g := by
  -- Both points are in the set.
  intro near nearIn far farIn
  rw [same near nearIn, same far farIn]
  exact slope near nearIn far farIn

variable [IsStrictOrderedRing K]

/-- A constant does not change. -/
theorem const (value : K) : SlopeOn 0 set fun _ => value := by
  -- The difference is nothing.
  intro near _ far _
  simp

/-- A smaller set and a larger bound do no harm. -/
theorem mono {smaller : Set K} (slope : SlopeOn one set f) (within : smaller ⊆ set)
    (least : one ≤ other) : SlopeOn other smaller f := by
  -- The bound holds on more than the smaller set, and is at most the larger one.
  intro near nearIn far farIn
  refine (slope near (within nearIn) far (within farIn)).trans ?_
  exact mul_le_mul_of_nonneg_right least (abs_nonneg _)

/-- Slopes of a sum add up. -/
theorem add (first : SlopeOn one set f) (second : SlopeOn other set g) :
    SlopeOn (one + other) set fun point => f point + g point := by
  -- By the triangle inequality, on the difference of each.
  intro near nearIn far farIn
  calc |f far + g far - (f near + g near)|
      = |(f far - f near) + (g far - g near)| := by
        congr 1
        ring
    _ ≤ |f far - f near| + |g far - g near| := abs_add_le _ _
    _ ≤ one * |far - near| + other * |far - near| :=
        add_le_add (first near nearIn far farIn) (second near nearIn far farIn)
    _ = (one + other) * |far - near| := by ring

/-- A factor scales the slope by its size. -/
theorem mul_const (slope : SlopeOn one set f) (factor : K) :
    SlopeOn (one * |factor|) set fun point => f point * factor := by
  -- The factor comes out of the difference.
  intro near nearIn far farIn
  calc |f far * factor - f near * factor|
      = |f far - f near| * |factor| := by rw [← sub_mul, abs_mul]
    _ ≤ one * |far - near| * |factor| :=
        mul_le_mul_of_nonneg_right (slope near nearIn far farIn) (abs_nonneg _)
    _ = one * |factor| * |far - near| := by ring

/-- A shift changes no slope. -/
theorem add_const (slope : SlopeOn one set f) (shift : K) :
    SlopeOn one set fun point => f point + shift := by
  -- A constant has slope nothing.
  simpa using slope.add (const shift)

/-- Raising to a floor does not steepen. -/
theorem max_const (slope : SlopeOn one set f) (floor : K) :
    SlopeOn one set fun point => max (f point) floor :=
  fun near nearIn far farIn => (abs_max_sub_max_le_abs _ _ _).trans (slope near nearIn far farIn)

/-- Cutting at a ceiling does not steepen. -/
theorem min_const (slope : SlopeOn one set f) (ceiling : K) :
    SlopeOn one set fun point => min (f point) ceiling := by
  -- A minimum moves no further than what is cut.
  intro near nearIn far farIn
  have cut := abs_min_sub_min_le_max (f far) ceiling (f near) ceiling
  rw [sub_self, abs_zero, max_eq_left (abs_nonneg _)] at cut
  exact cut.trans (slope near nearIn far farIn)

/-- A function of bounded slope is bounded on a bounded set. -/
theorem height {origin reach : K} (slope : SlopeOn one set f) (nonneg : 0 ≤ one) (start : origin ∈ set)
    (bounded : ∀ point ∈ set, |point - origin| ≤ reach) :
    HeightOn (|f origin| + one * reach) set f := by
  -- From the origin, the value has moved by its slope over the reach at most.
  intro point pointIn
  calc |f point| = |f origin + (f point - f origin)| := by
        congr 1
        ring
    _ ≤ |f origin| + |f point - f origin| := abs_add_le _ _
    _ ≤ |f origin| + one * reach := by
        refine add_le_add le_rfl ((slope origin start point pointIn).trans ?_)
        exact mul_le_mul_of_nonneg_left (bounded point pointIn) nonneg

/-- The product of two bounded functions: each slope counts as often as the other is high. -/
theorem mul {tall wide : K} (first : SlopeOn one set f) (second : SlopeOn other set g)
    (high : HeightOn tall set f) (broad : HeightOn wide set g) :
    SlopeOn (tall * other + one * wide) set fun point => f point * g point := by
  intro near nearIn far farIn
  -- Change one factor at a time.
  calc |f far * g far - f near * g near|
      = |f far * (g far - g near) + (f far - f near) * g near| := by
        congr 1
        ring
    _ ≤ |f far * (g far - g near)| + |(f far - f near) * g near| := abs_add_le _ _
    _ = |f far| * |g far - g near| + |f far - f near| * |g near| := by rw [abs_mul, abs_mul]
    _ ≤ tall * (other * |far - near|) + one * |far - near| * wide := by
        refine add_le_add ?_ ?_
        · exact mul_le_mul (high far farIn) (second near nearIn far farIn) (abs_nonneg _)
            ((abs_nonneg _).trans (high far farIn))
        · exact mul_le_mul (first near nearIn far farIn) (broad near nearIn) (abs_nonneg _)
            ((abs_nonneg _).trans (first near nearIn far farIn))
    _ = (tall * other + one * wide) * |far - near| := by ring

/-- The argument of a function may be stretched first. -/
theorem stretched {factor : K} {stretchedSet : Set K} (slope : SlopeOn one stretchedSet f)
    (within : ∀ point ∈ set, point * factor ∈ stretchedSet) :
    SlopeOn (one * |factor|) set fun point => f (point * factor) := by
  -- The distance of the arguments is stretched by the factor as well.
  intro near nearIn far farIn
  refine (slope _ (within near nearIn) _ (within far farIn)).trans_eq ?_
  rw [← sub_mul, abs_mul]
  ring

end SlopeOn

end

/-- Over the rationals, a bounded slope is Lipschitz continuity. -/
theorem SlopeOn.lipschitz {slope : ℚ} {set : Set ℚ} {f : ℚ → ℚ} (bounded : SlopeOn slope set f) :
    LipschitzOnWith (Real.toNNReal slope) f set := by
  -- The bound is one between rationals, and the cast keeps it.
  refine LipschitzOnWith.of_dist_le_mul fun far farIn near nearIn => ?_
  rw [Rat.dist_eq, Rat.dist_eq]
  have held : ((|f far - f near| : ℚ) : ℝ) ≤ ((slope * |far - near| : ℚ) : ℝ) :=
    Rat.cast_le.mpr (bounded near nearIn far farIn)
  push_cast at held
  exact held.trans (mul_le_mul_of_nonneg_right (Real.le_coe_toNNReal _) (abs_nonneg _))

/-- A function with a bounded slope on every bounded stretch of a half-line is continuous on it. -/
theorem continuousOn_of_slopes {f : ℚ → ℚ} {start : ℚ} {slope : ℚ → ℚ}
    (bounded : ∀ reach, SlopeOn (slope reach) (Set.Icc start reach) f) : ContinuousOn f (Set.Ici start) := by
  intro point after
  -- Near a point, the half-line is the stretch that ends a unit further on.
  have near : Set.Icc start (point + 1) ∈ nhdsWithin point (Set.Ici start) := by
    rw [← Set.Ici_inter_Iic]
    exact Filter.inter_mem self_mem_nhdsWithin
      (mem_nhdsWithin_of_mem_nhds (Iic_mem_nhds (lt_add_one point)))
  have within := (bounded (point + 1)).lipschitz.continuousOn point ⟨after, (lt_add_one point).le⟩
  exact within.mono_of_mem_nhdsWithin near

end Freight
