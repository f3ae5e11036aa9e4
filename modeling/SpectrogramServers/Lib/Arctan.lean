import Mathlib.Analysis.Convex.Deriv
import Mathlib.Analysis.SpecialFunctions.Trigonometric.ArctanDeriv
import Mathlib.Data.Rat.Floor
import Mathlib.Topology.Algebra.Module.ModuleTopology

/-!
# The arctangent: bounds that can be evaluated

A table of arctangents that a program has written out can be tested on rational numbers,
without anything that has to be computed with real ones.  This library has the test, and
what else is needed to bound a lookup in such a table.

* **The power series.**  `arctanSum n x` is the sum of its first `n` terms.  For `0 ≤ x`
  the sums are in turn above and below `Real.arctan x` (`arctanSum_even_le`,
  `le_arctanSum_odd`), since the derivative of the difference is a power of `x` over `1 +
  x ^ 2`, with a sign that alternates.
* **From entry to entry.**  Close to 1 the series converges too slowly to be of use.
  `arctan_succ_div` takes the arctangents of `i / d` and `(i + 1) / d` apart, and the
  difference is the arctangent of a number so small that two or three terms give it.
  `arctansWithin` adds these up, rounded to multiples of `1 / N`, and so tests a table of
  arctangents of multiples of `1 / d` from one entry to the next
  (`abs_entry_sub_arctan_le`).  The two bounds drift apart by the rounding of each step,
  so `N` is chosen with the length of the table in mind.
* **Curvature.**  `concaveOn_arctan` and `convexOn_arctan` are what linear interpolation
  needs; 0.65 is just above the greatest curvature of the arctangent.
-/

namespace SpectrogramServers

universe u

/-! ## The power series -/

section

variable {K : Type u} [Field K]

/-- The first `n` terms of the series of the arctangent. -/
def arctanSum (n : ℕ) (x : K) : K :=
  ∑ k ∈ Finset.range n, (-1) ^ k * x ^ (2 * k + 1) / ((2 * k + 1 : ℕ) : K)

@[simp] theorem arctanSum_zero (n : ℕ) : arctanSum n (0 : K) = 0 := by
  unfold arctanSum
  refine Finset.sum_eq_zero fun k _ => ?_
  rw [zero_pow (Nat.succ_ne_zero _), mul_zero, zero_div]

theorem cast_arctanSum [CharZero K] (n : ℕ) (x : ℚ) :
    ((arctanSum n x : ℚ) : K) = arctanSum n (x : K) := by
  unfold arctanSum
  push_cast
  rfl

end

theorem arctanSum_succ (n : ℕ) (x : ℝ) :
    arctanSum (n + 1) x = arctanSum n x + (-1) ^ n * x ^ (2 * n + 1) / ((2 * n + 1 : ℕ) : ℝ) :=
  Finset.sum_range_succ _ n

/-- The derivative of a term. -/
theorem hasDerivAt_term (n : ℕ) (x : ℝ) :
    HasDerivAt (fun x : ℝ => (-1) ^ n * x ^ (2 * n + 1) / ((2 * n + 1 : ℕ) : ℝ))
      ((-x ^ 2) ^ n) x := by
  have power := ((hasDerivAt_pow (2 * n + 1) x).const_mul ((-1 : ℝ) ^ n)).div_const
    ((2 * n + 1 : ℕ) : ℝ)
  refine power.congr_deriv ?_
  have nonzero : ((2 * n + 1 : ℕ) : ℝ) ≠ 0 := Nat.cast_ne_zero.mpr (Nat.succ_ne_zero _)
  rw [Nat.add_sub_cancel, neg_pow (x ^ 2), ← pow_mul]
  field_simp

/-- The derivative is a geometric sum. -/
theorem hasDerivAt_arctanSum (n : ℕ) (x : ℝ) :
    HasDerivAt (arctanSum n) ((1 - (-x ^ 2) ^ n) / (1 + x ^ 2)) x := by
  induction n with
  | zero =>
      have constant : (arctanSum 0 : ℝ → ℝ) = fun _ => 0 := rfl
      rw [constant, pow_zero, sub_self, zero_div]
      exact hasDerivAt_const x 0
  | succ n ih =>
      have sum : (arctanSum (n + 1) : ℝ → ℝ) = fun x =>
          arctanSum n x + (-1) ^ n * x ^ (2 * n + 1) / ((2 * n + 1 : ℕ) : ℝ) :=
        funext (arctanSum_succ n)
      have positive : 1 + x ^ 2 ≠ 0 := by positivity
      rw [sum]
      refine (ih.add (hasDerivAt_term n x)).congr_deriv ?_
      rw [pow_succ]
      field_simp
      ring

/-- What a sum is away from the arctangent changes by one power. -/
theorem hasDerivAt_arctanSum_sub (n : ℕ) (x : ℝ) :
    HasDerivAt (fun x => arctanSum n x - Real.arctan x) (-(-x ^ 2) ^ n / (1 + x ^ 2)) x := by
  refine ((hasDerivAt_arctanSum n x).sub (Real.hasDerivAt_arctan x)).congr_deriv ?_
  rw [← sub_div, sub_sub_cancel_left]

theorem differentiable_arctanSum_sub (n : ℕ) :
    Differentiable ℝ fun x => arctanSum n x - Real.arctan x :=
  fun x => (hasDerivAt_arctanSum_sub n x).differentiableAt

/-- **An even number of terms** is too little. -/
theorem arctanSum_even_le (n : ℕ) {x : ℝ} (nonneg : 0 ≤ x) :
    arctanSum (2 * n) x ≤ Real.arctan x := by
  have antitone : Antitone fun x => arctanSum (2 * n) x - Real.arctan x := by
    refine antitone_of_deriv_nonpos (differentiable_arctanSum_sub _) fun x => ?_
    rw [(hasDerivAt_arctanSum_sub (2 * n) x).deriv, pow_mul]
    exact div_nonpos_of_nonpos_of_nonneg (neg_nonpos.mpr (by positivity)) (by positivity)
  have below := antitone nonneg
  dsimp only at below
  rw [arctanSum_zero, Real.arctan_zero, sub_zero] at below
  exact sub_nonpos.mp below

/-- **An odd number of terms** is too much. -/
theorem le_arctanSum_odd (n : ℕ) {x : ℝ} (nonneg : 0 ≤ x) :
    Real.arctan x ≤ arctanSum (2 * n + 1) x := by
  have monotone : Monotone fun x => arctanSum (2 * n + 1) x - Real.arctan x := by
    refine monotone_of_deriv_nonneg (differentiable_arctanSum_sub _) fun x => ?_
    rw [(hasDerivAt_arctanSum_sub (2 * n + 1) x).deriv, pow_succ, mul_neg, neg_neg, pow_mul]
    positivity
  have above := monotone nonneg
  dsimp only at above
  rw [arctanSum_zero, Real.arctan_zero, sub_zero] at above
  exact sub_nonneg.mp above

/-! ## Multiples of a fraction -/

/-- The tangent of the angle between two neighbouring multiples of `1 / d`. -/
def gap (d i : ℕ) : ℚ := d / (d ^ 2 + i * (i + 1))

theorem gap_nonneg (d i : ℕ) : (0 : ℝ) ≤ gap d i := by
  unfold gap
  positivity

/-- The angle between two neighbouring multiples of `1 / d`. -/
theorem arctan_succ_div {d : ℕ} (positive : 0 < d) (i : ℕ) :
    Real.arctan ((i + 1 : ℕ) / d) = Real.arctan (i / d) + Real.arctan (gap d i) := by
  have width : (0 : ℝ) < d := Nat.cast_pos.mpr positive
  have denominator : (0 : ℝ) < d ^ 2 + i * (i + 1) := by positivity
  have cast : ((gap d i : ℚ) : ℝ) = d / (d ^ 2 + i * (i + 1)) := by
    unfold gap
    push_cast
    rfl
  have product : (i / d : ℝ) * (d / (d ^ 2 + i * (i + 1))) = i / (d ^ 2 + i * (i + 1)) := by
    field_simp
  have small : (i / d : ℝ) * (d / (d ^ 2 + i * (i + 1))) < 1 := by
    rw [product, div_lt_one denominator]
    nlinarith
  rw [cast, Real.arctan_add small, product]
  congr 1
  have rest : (1 : ℝ) - i / (d ^ 2 + i * (i + 1)) ≠ 0 := by
    rw [← product]
    exact (sub_pos.mpr small).ne'
  rw [eq_div_iff rest]
  push_cast
  field_simp
  ring

/-- A multiple of `1 / N` below the arctangent of `gap d i`, in units of `1 / N`. -/
def gapBelow (N d i : ℕ) : ℤ := ⌊N * arctanSum 2 (gap d i)⌋

/-- One above it. -/
def gapAbove (N d i : ℕ) : ℤ := ⌈N * arctanSum 3 (gap d i)⌉

theorem gapBelow_le (N d i : ℕ) : (gapBelow N d i : ℝ) ≤ N * Real.arctan (gap d i) :=
  calc (gapBelow N d i : ℝ)
      ≤ ((N * arctanSum 2 (gap d i) : ℚ) : ℝ) := by exact_mod_cast Int.floor_le _
    _ = N * arctanSum (2 * 1) (gap d i : ℝ) := by
      rw [Rat.cast_mul, Rat.cast_natCast, cast_arctanSum]
    _ ≤ N * Real.arctan (gap d i) :=
      mul_le_mul_of_nonneg_left (arctanSum_even_le 1 (gap_nonneg d i)) (Nat.cast_nonneg N)

theorem le_gapAbove (N d i : ℕ) : N * Real.arctan (gap d i) ≤ gapAbove N d i :=
  calc N * Real.arctan (gap d i)
      ≤ N * arctanSum (2 * 1 + 1) (gap d i : ℝ) :=
      mul_le_mul_of_nonneg_left (le_arctanSum_odd 1 (gap_nonneg d i)) (Nat.cast_nonneg N)
    _ = ((N * arctanSum 3 (gap d i) : ℚ) : ℝ) := by
      rw [Rat.cast_mul, Rat.cast_natCast, cast_arctanSum]
    _ ≤ gapAbove N d i := by exact_mod_cast Int.le_ceil _

/-- The entries are within `ε` of the arctangents of `i / d`, `(i + 1) / d` and so on, if the
first of these is between `lo / N` and `hi / N`. -/
def arctansWithin (N d : ℕ) (ε : ℚ) : ℕ → ℤ → ℤ → List ℚ → Bool
  | _, _, _, [] => true
  | i, lo, hi, entry :: entries =>
      decide (hi ≤ N * (entry + ε)) && decide (N * (entry - ε) ≤ lo) &&
        arctansWithin N d ε (i + 1) (lo + gapBelow N d i) (hi + gapAbove N d i) entries

/-- **The test of a table is sound.** -/
theorem abs_entry_sub_arctan_le {N d : ℕ} {ε : ℚ} (scale : 0 < N) (positive : 0 < d)
    {entries : List ℚ} {i : ℕ} {lo hi : ℤ} (below : lo ≤ N * Real.arctan (i / d))
    (above : N * Real.arctan (i / d) ≤ hi) (within : arctansWithin N d ε i lo hi entries = true)
    {k : ℕ} {entry : ℚ} (here : entries[k]? = some entry) :
    |(entry : ℝ) - Real.arctan ((i + k : ℕ) / d)| ≤ ε := by
  induction entries generalizing i lo hi k with
  | nil => cases here
  | cons first entries ih =>
      rw [arctansWithin, Bool.and_eq_true, Bool.and_eq_true, decide_eq_true_eq,
        decide_eq_true_eq] at within
      obtain ⟨⟨upper, lower⟩, rest⟩ := within
      cases k with
      | zero =>
          obtain rfl : first = entry := Option.some.inj here
          have upper : (hi : ℝ) ≤ N * (first + ε) := by exact_mod_cast upper
          have lower : N * (first - ε : ℝ) ≤ lo := by exact_mod_cast lower
          have scale : (0 : ℝ) < N := Nat.cast_pos.mpr scale
          have most := le_of_mul_le_mul_left (above.trans upper) scale
          have least := le_of_mul_le_mul_left (lower.trans below) scale
          rw [Nat.add_zero]
          exact abs_le.mpr ⟨by linarith, by linarith⟩
      | succ k =>
          have next := arctan_succ_div positive i
          have index : i + (k + 1) = i + 1 + k := by omega
          rw [index]
          refine ih ?_ ?_ rest here
          · rw [next, mul_add, Int.cast_add]
            exact add_le_add below (gapBelow_le N d i)
          · rw [next, mul_add, Int.cast_add]
            exact add_le_add above (le_gapAbove N d i)

/-! ## Curvature -/

/-- From zero on the arctangent is concave. -/
theorem concaveOn_arctan : ConcaveOn ℝ (Set.Ici 0) Real.arctan := by
  refine AntitoneOn.concaveOn_of_deriv (convex_Ici 0) Real.continuous_arctan.continuousOn
    Real.differentiable_arctan.differentiableOn ?_
  intro x hx y _ le
  rw [interior_Ici] at hx
  have nonneg : 0 ≤ x := (Set.mem_Ioi.mp hx).le
  rw [Real.deriv_arctan]
  exact one_div_le_one_div_of_le (by positivity) (add_le_add_right (pow_le_pow_left₀ nonneg le 2) 1)

/-- The slope of the arctangent falls by 0.65 times the way at most. -/
theorem slope_sub_le {x y : ℝ} (le : x ≤ y) :
    1 / (1 + x ^ 2) - 1 / (1 + y ^ 2) ≤ 0.65 * (y - x) := by
  have product : 0 < (1 + x ^ 2) * (1 + y ^ 2) := by positivity
  -- equality would be at `x = y = 1 / √3`, up to the rounding of the constant
  have bound : x + y ≤ 0.65 * ((1 + x ^ 2) * (1 + y ^ 2)) := by
    nlinarith [sq_nonneg (x * y - 1 / 3), sq_nonneg (x - y), sq_nonneg (x + y - 1.154)]
  have slopes : 1 / (1 + x ^ 2) - 1 / (1 + y ^ 2) =
      (y - x) * (x + y) / ((1 + x ^ 2) * (1 + y ^ 2)) := by
    field_simp
    ring
  rw [slopes, div_le_iff₀ product, mul_comm 0.65, mul_assoc]
  exact mul_le_mul_of_nonneg_left bound (sub_nonneg.mpr le)

theorem convexOn_arctan :
    ConvexOn ℝ Set.univ fun x => Real.arctan x + 0.65 / 2 * x ^ 2 := by
  have slope (x : ℝ) : HasDerivAt (fun x => Real.arctan x + 0.65 / 2 * x ^ 2)
      (1 / (1 + x ^ 2) + 0.65 * x) x := by
    refine ((Real.hasDerivAt_arctan x).add ((hasDerivAt_pow 2 x).const_mul _)).congr_deriv ?_
    norm_num
    ring
  refine Monotone.convexOn_univ_of_deriv (fun x => (slope x).differentiableAt) fun x y le => ?_
  rw [(slope x).deriv, (slope y).deriv]
  have fall := slope_sub_le le
  linarith

end SpectrogramServers
