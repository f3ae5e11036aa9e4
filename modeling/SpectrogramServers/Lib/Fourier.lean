import Mathlib.Analysis.Complex.Circle

/-!
# The discrete Fourier transform

A bin of the transform of `n` points by its formula, with Mathlib's `Real.fourierChar` for
the unit circle.  The sum is over `Fin n`, so that the points are a function and nothing
has to be said about indices outside.

Only two facts are needed above.  No bin is greater than the sum of the magnitudes of the
points (`norm_fourierBin_le`), because the factors are on the unit circle and the triangle
inequality does the rest; all bounds on spectra are instances of it, with whatever is
known about the points.  And the transform of nothing is nothing (`fourierBin_zero`).

The sign of the exponent is that of a forward transform, and there is no factor in front:
whoever wants the normalised transform divides.
-/

namespace SpectrogramServers

variable {n : ℕ}

/-- Bin `k` of the forward transform of `x`, not normalised. -/
noncomputable def fourierBin (x : Fin n → ℂ) (k : ℕ) : ℂ :=
  ∑ j, x j * Real.fourierChar (-((j * k : ℕ) / n : ℝ))

/-- **A bin is bounded by the points**: the factors have magnitude 1. -/
theorem norm_fourierBin_le (x : Fin n → ℂ) (k : ℕ) : ‖fourierBin x k‖ ≤ ∑ j, ‖x j‖ := by
  refine (norm_sum_le _ _).trans_eq (Finset.sum_congr rfl fun j _ => ?_)
  rw [norm_mul, Circle.norm_coe, mul_one]

/-- The transform of zeros is zero in every bin. -/
@[simp] theorem fourierBin_zero (k : ℕ) : fourierBin (0 : Fin n → ℂ) k = 0 := by
  unfold fourierBin
  exact Finset.sum_eq_zero fun j _ => zero_mul _

end SpectrogramServers
