import Mathlib.Analysis.SpecialFunctions.Complex.Arg
import Mathlib.Analysis.SpecialFunctions.Trigonometric.Bounds

/-!
# Frequency from averages of a pointer

A pointer that turns, and is averaged over windows: the angle from one average to another
should be how far the pointer has gone from window to window (`abs_arg_average_sub_le`).
This is what an FM receiver relies on that filters before it discriminates; the filter is
the average, the pointer is the carrier.

## Two moments of the taps

They decide how nearly it is.  The second moment bounds what is lost when the pointer
turns inside a window (`le_re_seenFrom`), the first what changes from window to window
when its speed changes (`norm_seenFrom_sub_le`).  Seen from a place of its own, a window
of a pointer is nearly one, and the same from window to window, whatever the pointer has
done before.

Noise comes to both, as a bound `τ` on its average over a window.  Whatever the noise is
made of, nothing else about it is used.

## From nearly equal to a small angle

What is left is small against the average, and what is small against one has an angle that
is no greater than its tangent (`abs_arg_one_add_le`).  So the error of the angle is `η /
(1 - η)`, where `η` is what can be wrong in proportion to what is heard.

The taps are any that are positive and add up to one.  The pointer is given by its phase,
with a bound on its steps and one on the change of its steps.
-/

namespace SpectrogramServers

/-! ## Steps -/

/-- What a step changes, at most, bounds what `n` steps change. -/
theorem abs_add_sub_le {f : ℕ → ℝ} {s : ℝ} (step : ∀ i, |f (i + 1) - f i| ≤ s) (m n : ℕ) :
    |f (m + n) - f m| ≤ n * s := by
  induction n with
  | zero => simp
  | succ n ih =>
      calc |f (m + (n + 1)) - f m| ≤ |f (m + n + 1) - f (m + n)| + |f (m + n) - f m| :=
            abs_sub_le _ _ _
        _ ≤ s + n * s := add_le_add (step (m + n)) ih
        _ = ((n + 1 : ℕ) : ℝ) * s := by
            push_cast
            ring

/-- The same between any two places of a window. -/
theorem abs_sub_le_mul_abs_sub {f : ℕ → ℝ} {s : ℝ} (step : ∀ i, |f (i + 1) - f i| ≤ s)
    (k p q : ℕ) : |f (k + p) - f (k + q)| ≤ |(p : ℝ) - q| * s := by
  rcases le_total q p with le | le
  · obtain ⟨n, rfl⟩ := Nat.exists_eq_add_of_le le
    have apart : ((q + n : ℕ) : ℝ) - q = n := by
      push_cast
      ring
    rw [apart, Nat.abs_cast, ← Nat.add_assoc]
    exact abs_add_sub_le step (k + q) n
  · obtain ⟨n, rfl⟩ := Nat.exists_eq_add_of_le le
    have apart : (p : ℝ) - ((p + n : ℕ) : ℝ) = -n := by
      push_cast
      ring
    rw [apart, abs_neg, Nat.abs_cast, abs_sub_comm, ← Nat.add_assoc]
    exact abs_add_sub_le step (k + p) n

/-- What the step itself changes bounds how much more changes over `D` steps from one place
of a window than from another. -/
theorem abs_change_sub_change_le {f : ℕ → ℝ} {e : ℝ}
    (bend : ∀ i, |f (i + 2) - f (i + 1) - (f (i + 1) - f i)| ≤ e) (k p q D : ℕ) :
    |f (k + D + p) - f (k + D + q) - (f (k + p) - f (k + q))| ≤ |(p : ℝ) - q| * (D * e) := by
  have change : ∀ i, |f (i + 1 + D) - f (i + 1) - (f (i + D) - f i)| ≤ D * e := by
    intro i
    have steps := abs_add_sub_le (f := fun j => f (j + 1) - f j) (fun j => bend j) i D
    have order : f (i + 1 + D) - f (i + 1) - (f (i + D) - f i) =
        f (i + D + 1) - f (i + D) - (f (i + 1) - f i) := by
      rw [Nat.add_right_comm]
      ring
    rw [order]
    exact steps
  have window := abs_sub_le_mul_abs_sub (f := fun i => f (i + D) - f i) change k p q
  have order : f (k + D + p) - f (k + D + q) - (f (k + p) - f (k + q)) =
      f (k + p + D) - f (k + p) - (f (k + q + D) - f (k + q)) := by
    rw [Nat.add_right_comm k D p, Nat.add_right_comm k D q]
    ring
  rw [order]
  exact window

/-! ## Angles -/

/-- Near one the angle is no greater than its tangent. -/
theorem abs_arg_one_add_le {z : ℂ} {η : ℝ} (small : ‖z‖ ≤ η) (less : η < 1) :
    |Complex.arg (1 + z)| ≤ η / (1 - η) := by
  have re : 1 - η ≤ (1 + z).re := by
    rw [Complex.add_re, Complex.one_re]
    linarith [neg_le_of_abs_le (Complex.abs_re_le_norm z)]
  have im : |(1 + z).im| ≤ η := by
    rw [Complex.add_im, Complex.one_im, zero_add]
    exact (Complex.abs_im_le_norm z).trans small
  have positive : 0 < (1 + z).re := (sub_pos.mpr less).trans_le re
  have quarter := Complex.abs_arg_lt_pi_div_two_iff.mpr (Or.inl positive)
  have tangent : Real.tan |Complex.arg (1 + z)| ≤ |(1 + z).im| / (1 + z).re := by
    rcases abs_choice (Complex.arg (1 + z)) with above | below
    · rw [above, Complex.tan_arg]
      exact div_le_div_of_nonneg_right (le_abs_self _) positive.le
    · rw [below, Real.tan_neg, Complex.tan_arg, ← neg_div]
      exact div_le_div_of_nonneg_right (neg_le_abs _) positive.le
  calc |Complex.arg (1 + z)| ≤ Real.tan |Complex.arg (1 + z)| :=
        Real.le_tan (abs_nonneg _) quarter
    _ ≤ |(1 + z).im| / (1 + z).re := tangent
    _ ≤ η / (1 - η) := div_le_div₀ ((abs_nonneg _).trans im) im (sub_pos.mpr less) re

/-- The angle from one number to the next when each is a pointer with something nearly the
same for both attached: up to little it is the angle between the pointers. -/
theorem abs_arg_conj_mul_sub_le {u v : ℂ} {r θ θ' η : ℝ} (positive : 0 < r) (nonzero : u ≠ 0)
    (near : ‖v - u‖ ≤ η * ‖u‖) (less : η < 1) (room : |θ' - θ| + η / (1 - η) < Real.pi) :
    |Complex.arg (starRingEnd ℂ (r * Complex.exp (θ * Complex.I) * u) *
        (r * Complex.exp (θ' * Complex.I) * v)) - (θ' - θ)| ≤ η / (1 - η) := by
  have small : ‖(v - u) / u‖ ≤ η := by
    rw [norm_div]
    exact (div_le_iff₀ (norm_pos_iff.mpr nonzero)).mpr near
  have slight := abs_arg_one_add_le small less
  have apart : 1 + (v - u) / u ≠ 0 := by
    intro zero
    have one : ‖(v - u) / u‖ = 1 := by
      rw [eq_neg_of_add_eq_zero_right zero, norm_neg, norm_one]
    linarith
  -- a positive number, the turn, and what is little
  have product : starRingEnd ℂ (r * Complex.exp (θ * Complex.I) * u) *
      (r * Complex.exp (θ' * Complex.I) * v) =
      ((r * r * Complex.normSq u : ℝ) : ℂ) *
        (Complex.exp ((θ' - θ : ℝ) * Complex.I) * (1 + (v - u) / u)) := by
    have turn : starRingEnd ℂ (Complex.exp (θ * Complex.I)) * Complex.exp (θ' * Complex.I) =
        Complex.exp ((θ' - θ : ℝ) * Complex.I) := by
      rw [← Complex.exp_conj, map_mul, Complex.conj_ofReal, Complex.conj_I, ← Complex.exp_add]
      congr 1
      push_cast
      ring
    have little : starRingEnd ℂ u * v = Complex.normSq u * (1 + (v - u) / u) := by
      rw [Complex.normSq_eq_conj_mul_self]
      field_simp
      ring
    rw [map_mul, map_mul, Complex.conj_ofReal, Complex.ofReal_mul, Complex.ofReal_mul, ← turn]
    calc _ = (r * r * starRingEnd ℂ (Complex.exp (θ * Complex.I)) *
          Complex.exp (θ' * Complex.I) : ℂ) * (starRingEnd ℂ u * v) := by ring
      _ = _ := by
          rw [little]
          ring
  have weight : 0 < r * r * Complex.normSq u :=
    mul_pos (mul_pos positive positive) (Complex.normSq_pos.mpr nonzero)
  have bounds := abs_lt.mp
    (lt_of_le_of_lt (le_add_of_nonneg_right ((abs_nonneg _).trans slight)) room)
  have turn : Complex.arg (Complex.exp ((θ' - θ : ℝ) * Complex.I)) = θ' - θ := by
    rw [Complex.exp_mul_I]
    exact Complex.arg_cos_add_sin_mul_I ⟨bounds.1, bounds.2.le⟩
  have sum : |θ' - θ + Complex.arg (1 + (v - u) / u)| < Real.pi :=
    (abs_add_le _ _).trans_lt ((add_le_add_right slight _).trans_lt room)
  rw [product, Complex.arg_real_mul _ weight, Complex.arg_mul (Complex.exp_ne_zero _) apart, turn,
    add_sub_cancel_left]
  · exact slight
  · rw [turn]
    exact ⟨(abs_lt.mp sum).1, (abs_lt.mp sum).2.le⟩

/-! ## Averages -/

/-- Two pointers are no further apart than their angles. -/
theorem norm_exp_mul_I_sub_le (a b : ℝ) :
    ‖Complex.exp (a * Complex.I) - Complex.exp (b * Complex.I)‖ ≤ |a - b| := by
  have split : Complex.exp (a * Complex.I) - Complex.exp (b * Complex.I) =
      Complex.exp (b * Complex.I) * (Complex.exp (Complex.I * (a - b : ℝ)) - 1) := by
    rw [mul_sub, ← Complex.exp_add, mul_one]
    congr 2
    push_cast
    ring
  rw [split, norm_mul, Complex.norm_exp_ofReal_mul_I, one_mul]
  exact Real.norm_exp_I_mul_ofReal_sub_one_le

section Average

variable {n : ℕ} {taps : Fin n → ℝ} (nonneg : ∀ p, 0 ≤ taps p)

include nonneg

/-- An average moves no further than the values, on average. -/
theorem norm_sum_mul_sub_le {u v : Fin n → ℂ} {ε : Fin n → ℝ} (close : ∀ p, ‖u p - v p‖ ≤ ε p) :
    ‖∑ p, u p * (taps p : ℂ) - ∑ p, v p * (taps p : ℂ)‖ ≤ ∑ p, ε p * taps p := by
  rw [← Finset.sum_sub_distrib]
  refine (norm_sum_le _ _).trans (Finset.sum_le_sum fun p _ => ?_)
  rw [← sub_mul, norm_mul, Complex.norm_real, Real.norm_of_nonneg (nonneg p)]
  exact mul_le_mul_of_nonneg_right (close p) (nonneg p)

variable (one : ∑ p, taps p = 1) {q : ℕ} {M₁ M₂ : ℝ}
  (first : ∑ p : Fin n, |((p : ℕ) : ℝ) - q| * taps p ≤ M₁)
  (second : ∑ p : Fin n, (((p : ℕ) : ℝ) - q) ^ 2 * taps p ≤ M₂)
  {φ : ℕ → ℝ} {s e : ℝ} (slow : ∀ i, |φ (i + 1) - φ i| ≤ s)
  (bend : ∀ i, |φ (i + 2) - φ (i + 1) - (φ (i + 1) - φ i)| ≤ e)

/-- A window of a pointer seen from the pointer at place `q`. -/
noncomputable def seenFrom (taps : Fin n → ℝ) (φ : ℕ → ℝ) (q k : ℕ) : ℂ :=
  ∑ p : Fin n, Complex.exp ((φ (k + p) - φ (k + q) : ℝ) * Complex.I) * (taps p : ℂ)

omit nonneg in
/-- The real part of a window adds up the cosines. -/
theorem re_seenFrom (k : ℕ) :
    (seenFrom taps φ q k).re = ∑ p : Fin n, Real.cos (φ (k + p) - φ (k + q)) * taps p := by
  rw [seenFrom, Complex.re_sum]
  refine Finset.sum_congr rfl fun p _ => ?_
  rw [Complex.re_mul_ofReal, Complex.exp_ofReal_mul_I_re]

include one second slow in
/-- **Little is lost** by averaging a pointer that turns slowly. -/
theorem le_re_seenFrom (k : ℕ) : 1 - s ^ 2 * M₂ / 2 ≤ (seenFrom taps φ q k).re := by
  have each : ∀ p : Fin n, taps p - s ^ 2 / 2 * ((((p : ℕ) : ℝ) - q) ^ 2 * taps p) ≤
      Real.cos (φ (k + p) - φ (k + q)) * taps p := by
    intro p
    have turned := abs_sub_le_mul_abs_sub slow k p q
    have square : (φ (k + p) - φ (k + q)) ^ 2 ≤ (((p : ℕ) : ℝ) - q) ^ 2 * s ^ 2 := by
      rw [← mul_pow]
      refine sq_le_sq.mpr (turned.trans ?_)
      rw [abs_mul]
      exact mul_le_mul_of_nonneg_left (le_abs_self s) (abs_nonneg _)
    have cosine := Real.one_sub_sq_div_two_le_cos (x := φ (k + p) - φ (k + q))
    have scaled := mul_le_mul_of_nonneg_right
      ((sub_le_sub_left (div_le_div_of_nonneg_right square zero_le_two) 1).trans cosine)
      (nonneg p)
    linarith
  rw [re_seenFrom]
  calc 1 - s ^ 2 * M₂ / 2
      ≤ ∑ p, taps p - s ^ 2 / 2 * ∑ p : Fin n, (((p : ℕ) : ℝ) - q) ^ 2 * taps p := by
        have scaled := mul_le_mul_of_nonneg_left second (by positivity : 0 ≤ s ^ 2 / 2)
        rw [one]
        linarith
    _ = ∑ p : Fin n, (taps p - s ^ 2 / 2 * ((((p : ℕ) : ℝ) - q) ^ 2 * taps p)) := by
        rw [Finset.sum_sub_distrib, Finset.mul_sum]
    _ ≤ ∑ p : Fin n, Real.cos (φ (k + p) - φ (k + q)) * taps p :=
        Finset.sum_le_sum fun p _ => each p

include first bend in
/-- **Little changes** from one window to the next when the speed changes little. -/
theorem norm_seenFrom_sub_le (D k : ℕ) :
    ‖seenFrom taps φ q (k + D) - seenFrom taps φ q k‖ ≤ D * e * M₁ := by
  have flat : 0 ≤ e := (abs_nonneg _).trans (bend 0)
  refine (norm_sum_mul_sub_le nonneg fun p => (norm_exp_mul_I_sub_le _ _).trans
    (abs_change_sub_change_le bend k p q D)).trans ?_
  calc ∑ p : Fin n, |((p : ℕ) : ℝ) - q| * (D * e) * taps p
      = D * e * ∑ p : Fin n, |((p : ℕ) : ℝ) - q| * taps p := by
        rw [Finset.mul_sum]
        exact Finset.sum_congr rfl fun p _ => by ring
    _ ≤ D * e * M₁ := mul_le_mul_of_nonneg_left first (by positivity)

variable {A τ : ℝ} {z : ℕ → ℂ} (positive : 0 < A)
  (carries : ∀ k, ‖z k - A * Complex.exp (φ k * Complex.I)‖ ≤ A * τ)

include one positive carries in
/-- The average of a window is the pointer at `q` with what is seen from there, up to the
noise. -/
theorem exists_average_eq (q k : ℕ) :
    ∃ u : ℂ, ∑ p : Fin n, z (k + p) * (taps p : ℂ) =
        A * Complex.exp (φ (k + q) * Complex.I) * u ∧
      ‖u - seenFrom taps φ q k‖ ≤ τ := by
  have nonzero : (A : ℂ) * Complex.exp (φ (k + q) * Complex.I) ≠ 0 :=
    mul_ne_zero (Complex.ofReal_ne_zero.mpr positive.ne') (Complex.exp_ne_zero _)
  have length : ‖(A : ℂ) * Complex.exp (φ (k + q) * Complex.I)‖ = A := by
    rw [norm_mul, Complex.norm_real, Complex.norm_exp_ofReal_mul_I, mul_one,
      Real.norm_of_nonneg positive.le]
  refine ⟨∑ p : Fin n, z (k + p) / (A * Complex.exp (φ (k + q) * Complex.I)) * (taps p : ℂ),
    ?_, ?_⟩
  · rw [Finset.mul_sum]
    refine Finset.sum_congr rfl fun p _ => ?_
    rw [← mul_assoc, mul_div_cancel₀ _ nonzero]
  · have close : ∀ p : Fin n, ‖z (k + p) / (A * Complex.exp (φ (k + q) * Complex.I)) -
        Complex.exp ((φ (k + p) - φ (k + q) : ℝ) * Complex.I)‖ ≤ τ := by
      intro p
      have turned : Complex.exp ((φ (k + p) - φ (k + q) : ℝ) * Complex.I) =
          A * Complex.exp (φ (k + p) * Complex.I) /
            (A * Complex.exp (φ (k + q) * Complex.I)) := by
        rw [mul_div_mul_left _ _ (Complex.ofReal_ne_zero.mpr positive.ne'), ← Complex.exp_sub,
          ← sub_mul, Complex.ofReal_sub]
      rw [turned, ← sub_div, norm_div, length, div_le_iff₀ positive, mul_comm τ A]
      exact carries (k + p)
    refine (norm_sum_mul_sub_le nonneg close).trans_eq ?_
    rw [← Finset.mul_sum, one, mul_one]

include one first second slow bend positive carries in
/-- **The angle between averages is the angle between the pointers**, `D` steps apart, up to
what the noise and the change of speed can do. -/
theorem abs_arg_average_sub_le {D : ℕ} {η : ℝ} (audible : τ < 1 - s ^ 2 * M₂ / 2)
    (enough : τ + τ + D * e * M₁ ≤ η * (1 - s ^ 2 * M₂ / 2 - τ)) (less : η < 1)
    (room : D * s + η / (1 - η) < Real.pi) (k : ℕ) :
    |Complex.arg (starRingEnd ℂ (∑ p : Fin n, z (k + p) * (taps p : ℂ)) *
        ∑ p : Fin n, z (k + D + p) * (taps p : ℂ)) - (φ (k + D + q) - φ (k + q))| ≤
      η / (1 - η) := by
  obtain ⟨u, here, u_near⟩ := exists_average_eq nonneg one positive carries q k
  obtain ⟨v, there, v_near⟩ := exists_average_eq nonneg one positive carries q (k + D)
  have heard : 1 - s ^ 2 * M₂ / 2 - τ ≤ ‖u‖ := by
    have strong := (le_re_seenFrom nonneg one second slow k).trans (Complex.re_le_norm _)
    have back := norm_sub_norm_le (seenFrom taps φ q k) u
    rw [norm_sub_rev] at back
    linarith
  have nonzero : u ≠ 0 := norm_pos_iff.mp ((sub_pos.mpr audible).trans_le heard)
  have noise : 0 ≤ τ := (norm_nonneg _).trans u_near
  have flat : 0 ≤ e := (abs_nonneg _).trans (bend 0)
  have reach : 0 ≤ M₁ := (Finset.sum_nonneg fun p _ =>
    mul_nonneg (abs_nonneg _) (nonneg p)).trans first
  have small : 0 ≤ η := nonneg_of_mul_nonneg_left
    ((by positivity : 0 ≤ τ + τ + D * e * M₁).trans enough) (sub_pos.mpr audible)
  have near : ‖v - u‖ ≤ η * ‖u‖ := by
    have split : v - u = (v - seenFrom taps φ q (k + D)) +
        (seenFrom taps φ q (k + D) - seenFrom taps φ q k) + (seenFrom taps φ q k - u) := by
      ring
    calc ‖v - u‖ ≤ τ + D * e * M₁ + τ := by
          rw [split]
          refine norm_add₃_le.trans (add_le_add_three v_near
            (norm_seenFrom_sub_le nonneg first bend D k) ?_)
          rw [norm_sub_rev]
          exact u_near
      _ ≤ η * (1 - s ^ 2 * M₂ / 2 - τ) := by linarith
      _ ≤ η * ‖u‖ := mul_le_mul_of_nonneg_left heard small
  have turn : |φ (k + D + q) - φ (k + q)| ≤ D * s := by
    rw [Nat.add_right_comm]
    exact abs_add_sub_le slow (k + q) D
  rw [here, there]
  exact abs_arg_conj_mul_sub_le positive nonzero near less
    ((add_le_add_left turn _).trans_lt room)

end Average

end SpectrogramServers
