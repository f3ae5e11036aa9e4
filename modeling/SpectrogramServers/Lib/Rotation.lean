import Mathlib.Analysis.Complex.Basic
import Mathlib.Tactic.Linarith

/-!
# Tables of a turning pointer

A table of cosines and sines holds the positions of a pointer that turns by the same angle
from entry to entry.  Such tables are written out as decimal fractions, and a program that
uses one relies on its entries.  How right they are can be checked without a single sine:
a step is a product with one complex number, and what an entry differs from the product
before it is arithmetic on rational numbers (`TurnsBy`), which a computer does for all
entries at once.

Turning does not lengthen, so the errors of the steps only add up (`norm_sub_pow_mul_le`):
after `k` of them the pointer is off by `k` times what one step can be off, whichever way
the errors point.  A step has two errors, that of its entry and that of the number it is
multiplied by, which is only nearly on the unit circle; the second counts as often as the
pointer is long, for which `B` is the bound.

What remains to be known about the true pointer is where it starts and one step of it.
-/

namespace SpectrogramServers

/-- The point `q` is `p` turned by `step`, as a product of complex numbers, up to `τ` in
either coordinate. -/
def TurnsBy (step : ℚ × ℚ) (τ : ℚ) (p q : ℚ × ℚ) : Prop :=
  |q.1 - (step.1 * p.1 - step.2 * p.2)| ≤ τ ∧ |q.2 - (step.1 * p.2 + step.2 * p.1)| ≤ τ

instance (step : ℚ × ℚ) (τ : ℚ) (p q : ℚ × ℚ) : Decidable (TurnsBy step τ p q) :=
  inferInstanceAs (Decidable (_ ∧ _))

/-- A rational point of the plane. -/
def point (p : ℚ × ℚ) : ℂ := ⟨(p.1 : ℝ), (p.2 : ℝ)⟩

/-- Both coordinates together. -/
theorem TurnsBy.norm_sub_le {step p q : ℚ × ℚ} {τ : ℚ} (turns : TurnsBy step τ p q) :
    ‖point q - point step * point p‖ ≤ τ + τ := by
  have re : |(point q - point step * point p).re| ≤ (τ : ℝ) := by
    have cast : (point q - point step * point p).re =
        ((q.1 - (step.1 * p.1 - step.2 * p.2) : ℚ) : ℝ) := by
      simp [point]
    rw [cast, ← Rat.cast_abs]
    exact Rat.cast_le.mpr turns.1
  have im : |(point q - point step * point p).im| ≤ (τ : ℝ) := by
    have cast : (point q - point step * point p).im =
        ((q.2 - (step.1 * p.2 + step.2 * p.1) : ℚ) : ℝ) := by
      simp [point]
    rw [cast, ← Rat.cast_abs]
    exact Rat.cast_le.mpr turns.2
  exact (Complex.norm_le_abs_re_add_abs_im _).trans (add_le_add re im)

/-- **Errors of steps add up.**  A pointer that is multiplied by `w`, up to `τ`, where it
should be turned by `z`, is after `k` steps off by `k` times the error of one. -/
theorem norm_sub_pow_mul_le {v : ℕ → ℂ} {w z : ℂ} {τ η B : ℝ} {n : ℕ} (unit : ‖z‖ = 1)
    (near : ‖w - z‖ ≤ η) (step : ∀ k < n, ‖v (k + 1) - w * v k‖ ≤ τ)
    (bounded : ∀ k < n, ‖v k‖ ≤ B) {k : ℕ} (hk : k ≤ n) :
    ‖v k - z ^ k * v 0‖ ≤ k * (τ + η * B) := by
  induction k with
  | zero => simp
  | succ k ih =>
      have split : v (k + 1) - z ^ (k + 1) * v 0 =
          v (k + 1) - w * v k + (w - z) * v k + z * (v k - z ^ k * v 0) := by
        rw [pow_succ]
        ring
      have slip : ‖(w - z) * v k‖ ≤ η * B := by
        rw [norm_mul]
        exact mul_le_mul near (bounded k hk) (norm_nonneg _) ((norm_nonneg _).trans near)
      have turned : ‖z * (v k - z ^ k * v 0)‖ = ‖v k - z ^ k * v 0‖ := by
        rw [norm_mul, unit, one_mul]
      calc ‖v (k + 1) - z ^ (k + 1) * v 0‖
          ≤ ‖v (k + 1) - w * v k‖ + ‖(w - z) * v k‖ + ‖z * (v k - z ^ k * v 0)‖ := by
            rw [split]
            exact norm_add₃_le
        _ ≤ τ + η * B + k * (τ + η * B) := by
            rw [turned]
            exact add_le_add (add_le_add (step k hk) slip) (ih (Nat.le_of_succ_le hk))
        _ = ((k + 1 : ℕ) : ℝ) * (τ + η * B) := by
            push_cast
            ring

end SpectrogramServers
