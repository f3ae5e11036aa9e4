import Mathlib.Algebra.Order.Ring.Abs
import Mathlib.Tactic.Linarith
import Mathlib.Tactic.Ring

/-!
# Unwrapping a sequence of angles

Angles are known up to a full turn `p + p`, so a sequence of them jumps where it passes
`p`. Unwrapping undoes the jumps: the differences of neighbours are taken back into `[-p,
p]` by one turn (`wrapOnce`) and added up again (`unwrapped`).  The half turn `p` is any
positive number, `π` or what a program has for it.

* **One turn is enough** when the difference is less than one and a half turns
  (`abs_wrapOnce_le`), as differences of two angles are.
* **Nothing is changed but turns**: what comes out differs from the angles by whole turns
  (`unwrapped_congr`), by induction along the sequence.
* **The end that is shared.**  Of the two ends of `[-p, p]`, the lower one is reached only
  by a difference that was `-p` to begin with (`wrapOnce_eq_neg_iff`).  So it matters at
  one point only that the tests are strict.

The differences of the unwrapped sequence are the corrected ones by definition
(`unwrapped_succ_sub`), which is what makes it continuous where the angles are.
-/

namespace SpectrogramServers

universe u

variable {K : Type u} [CommRing K] [LinearOrder K] [IsStrictOrderedRing K]

/-- A difference of angles, one turn up or down if it is outside `[-p, p]`. -/
def wrapOnce (p d : K) : K := if p < d then d - (p + p) else if d < -p then d + (p + p) else d

/-- The first angle, and behind it the sums of the differences. -/
def unwrapped (p : K) (θ : ℕ → K) : ℕ → K
  | 0 => θ 0
  | i + 1 => unwrapped p θ i + wrapOnce p (θ (i + 1) - θ i)

omit [IsStrictOrderedRing K] in
/-- The correction is a number of turns. -/
theorem wrapOnce_congr (p d : K) : ∃ k : ℤ, wrapOnce p d = d + k * (2 * p) := by
  unfold wrapOnce
  split_ifs
  · exact ⟨-1, by push_cast; ring⟩
  · exact ⟨1, by push_cast; ring⟩
  · exact ⟨0, by push_cast; ring⟩

/-- **One turn is enough.** -/
theorem abs_wrapOnce_le {p d : K} (less : |d| < 3 * p) : |wrapOnce p d| ≤ p := by
  obtain ⟨low, high⟩ := abs_lt.mp less
  unfold wrapOnce
  split_ifs with above below
  · exact abs_le.mpr ⟨by linarith, by linarith⟩
  · exact abs_le.mpr ⟨by linarith, by linarith⟩
  · exact abs_le.mpr ⟨not_lt.mp below, not_lt.mp above⟩

/-- Half a turn down is not corrected, and nothing is corrected to it. -/
theorem wrapOnce_eq_neg_iff {p d : K} (less : |d| < 3 * p) : wrapOnce p d = -p ↔ d = -p := by
  obtain ⟨low, high⟩ := abs_lt.mp less
  unfold wrapOnce
  split_ifs with above below
  · constructor <;> intro same <;> linarith
  · constructor <;> intro same <;> linarith
  · exact Iff.rfl

omit [IsStrictOrderedRing K] in
/-- **The unwrapped sequence differs from the angles by whole turns.** -/
theorem unwrapped_congr (p : K) (θ : ℕ → K) (i : ℕ) :
    ∃ k : ℤ, unwrapped p θ i = θ i + k * (2 * p) := by
  induction i with
  | zero => exact ⟨0, by rw [unwrapped]; push_cast; ring⟩
  | succ i ih =>
      obtain ⟨turns, earlier⟩ := ih
      obtain ⟨turn, step⟩ := wrapOnce_congr p (θ (i + 1) - θ i)
      refine ⟨turns + turn, ?_⟩
      rw [unwrapped, earlier, step]
      push_cast
      ring

omit [IsStrictOrderedRing K] in
/-- What the unwrapped sequence changes is the corrected difference. -/
theorem unwrapped_succ_sub (p : K) (θ : ℕ → K) (i : ℕ) :
    unwrapped p θ (i + 1) - unwrapped p θ i = wrapOnce p (θ (i + 1) - θ i) := by
  rw [unwrapped, add_sub_cancel_left]

end SpectrogramServers
