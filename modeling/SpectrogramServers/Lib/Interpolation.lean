import Mathlib.Analysis.Convex.Function
import Mathlib.Tactic.Linarith
import Mathlib.Tactic.Ring

/-!
# Linear interpolation in a table

A table has the values of a function at the ends of an interval, up to `ε`, and the
function is looked up in between by linear interpolation.  How far off is the value that
is found?

## The chord

A concave function is above its chord (`lerp_le_of_concaveOn`).  How far above is said
without derivatives: if the function becomes convex when `M / 2 * x ^ 2` is added to it,
it is above a chord of width `h` by `M * h ^ 2 / 8` at most (`le_lerp_of_convexOn`).  For
a function that has a second derivative this says that it is at least `-M`; whoever has
one proves the convexity with Mathlib's criteria, once and for the whole interval.

## The table

The errors of the two entries are averaged with the weights of the interpolation, so they
do not grow (`abs_lerp_sub_lerp_le`).  `abs_lerp_sub_le` adds the two kinds of error up:
`ε` for the table and `M * h ^ 2 / 8` for the chord.

All of it is over an arbitrary ordered field, with the function and its interval as
section variables.
-/

namespace SpectrogramServers

universe u

variable {K : Type u} [Field K]

/-- The value at the fraction `t` of the way from `p` to `q`. -/
def lerp (p q t : K) : K := p + (q - p) * t

/-- Interpolation is a weighted mean of the two ends. -/
theorem lerp_eq (p q t : K) : lerp p q t = (1 - t) * p + t * q := by
  unfold lerp
  ring

/-- The place at the fraction `t` of an interval of width `h`. -/
theorem convexCombination_add (a h t : K) : (1 - t) • a + t • (a + h) = a + h * t := by
  rw [smul_eq_mul, smul_eq_mul]
  ring

variable [LinearOrder K] [IsStrictOrderedRing K]

/-- Errors are averaged. -/
theorem abs_lerp_sub_lerp_le {p q p' q' t ε : K} (nonneg : 0 ≤ t) (le_one : t ≤ 1)
    (left : |p - p'| ≤ ε) (right : |q - q'| ≤ ε) : |lerp p q t - lerp p' q' t| ≤ ε := by
  have average : lerp p q t - lerp p' q' t = (1 - t) * (p - p') + t * (q - q') := by
    rw [lerp_eq, lerp_eq]
    ring
  have rest : 0 ≤ 1 - t := sub_nonneg.mpr le_one
  calc |lerp p q t - lerp p' q' t|
      ≤ |(1 - t) * (p - p')| + |t * (q - q')| := by
        rw [average]
        exact abs_add_le _ _
    _ = (1 - t) * |p - p'| + t * |q - q'| := by
        rw [abs_mul, abs_mul, abs_of_nonneg rest, abs_of_nonneg nonneg]
    _ ≤ (1 - t) * ε + t * ε :=
        add_le_add (mul_le_mul_of_nonneg_left left rest) (mul_le_mul_of_nonneg_left right nonneg)
    _ = ε := by ring

section Chord

variable {f : K → K} {s : Set K} {M a h t : K} (left : a ∈ s) (right : a + h ∈ s)
  (nonneg : 0 ≤ t) (le_one : t ≤ 1)

include left right nonneg le_one

/-- **A concave function is above its chord.** -/
theorem lerp_le_of_concaveOn (concave : ConcaveOn K s f) :
    lerp (f a) (f (a + h)) t ≤ f (a + h * t) := by
  have chord := concave.2 left right (sub_nonneg.mpr le_one) nonneg (sub_add_cancel 1 t)
  rw [convexCombination_add, smul_eq_mul, smul_eq_mul] at chord
  rwa [lerp_eq]

/-- **And not far above it**, where a parabola makes up for its curvature. -/
theorem le_lerp_of_convexOn (curvature : 0 ≤ M)
    (convex : ConvexOn K s fun x => f x + M / 2 * x ^ 2) :
    f (a + h * t) ≤ lerp (f a) (f (a + h)) t + M * h ^ 2 / 8 := by
  have chord := convex.2 left right (sub_nonneg.mpr le_one) nonneg (sub_add_cancel 1 t)
  rw [convexCombination_add, smul_eq_mul, smul_eq_mul] at chord
  -- what the parabola is above its chord
  have parabola : (1 - t) * (M / 2 * a ^ 2) + t * (M / 2 * (a + h) ^ 2) -
      M / 2 * (a + h * t) ^ 2 = M * h ^ 2 / 8 * (1 - (2 * t - 1) ^ 2) := by
    ring
  have bound : M * h ^ 2 / 8 * (1 - (2 * t - 1) ^ 2) ≤ M * h ^ 2 / 8 * 1 := by
    refine mul_le_mul_of_nonneg_left ?_ (by positivity)
    exact sub_le_self 1 (sq_nonneg _)
  rw [lerp_eq]
  linarith

/-- **The error of a lookup** is that of the table and that of the chord. -/
theorem abs_lerp_sub_le {p q ε : K} (curvature : 0 ≤ M) (concave : ConcaveOn K s f)
    (convex : ConvexOn K s fun x => f x + M / 2 * x ^ 2) (first : |p - f a| ≤ ε)
    (second : |q - f (a + h)| ≤ ε) :
    |lerp p q t - f (a + h * t)| ≤ ε + M * h ^ 2 / 8 := by
  have table := abs_le.mp (abs_lerp_sub_lerp_le nonneg le_one first second)
  have below := lerp_le_of_concaveOn left right nonneg le_one concave
  have above := le_lerp_of_convexOn left right nonneg le_one curvature convex
  have chord : 0 ≤ M * h ^ 2 / 8 := by positivity
  exact abs_le.mpr ⟨by linarith [table.1], by linarith [table.2]⟩

end Chord

end SpectrogramServers
