import SpectrogramServers.MyServer.PhaseUnwrapping
import SpectrogramServers.MyServer.Quantisation

/-!
# A steady carrier

A transmitter that says nothing sends a carrier of constant frequency.  What the receiver
makes of it is the simplest check of the whole chain, and here it is exact: the
demodulated value is the frequency, at every place of every block.

## Along the chain

The carrier of frequency `ω` is `A * exp (i * (ω * k + φ))`.  The first filter multiplies
it by its response at `ω`, which is the same for every window
(`toComplex_filtered_carrier`), and takes every 40th sample.  The conjugate product turns
neighbours into a positive multiple of `exp (i * 40 * ω)`, since what the two have in
common is only its length squared.  Its angle `40 * ω` passes the second filter, whose
taps add up to one.  So the demodulator is linear in the frequency
(`processBlock_carrier`).

## The response does not vanish

A filter that suppresses a frequency altogether would leave nothing to take the angle of.
At no frequency with `40 * ω` in `(-π, π)` does this one: seen from the middle tap no
other tap is a quarter turn away, and all of them are positive, so the real parts add up
to something positive (`response_ne_zero`).  So `processBlock_carrier` assumes nothing
about the response.

The arctangent is the exact one here; what the table of `fast_atan2f` costs is another
matter (`AudioAccuracy`).
-/

namespace SpectrogramServers.MyServer.Receiver

open Tables

noncomputable section

/-- The carrier of amplitude `A`, phase `φ` and angular frequency `ω`. -/
def carrier (A φ ω : ℝ) (k : ℕ) : ℝ × ℝ :=
  (A * Real.cos (ω * k + φ), A * Real.sin (ω * k + φ))

/-- The response of `filter_coeff_one` at the frequency `ω`. -/
def response (ω : ℝ) : ℂ :=
  ∑ p : Fin filterLengthOne,
    ((filter_coeff_one p : ℝ) : ℂ) * Complex.exp ((ω * (p : ℕ) : ℝ) * Complex.I)

/-! ## The response -/

/-- All taps of the first filter are positive. -/
theorem fir1_32_02267573696_pos : ∀ tap ∈ fir1_32_02267573696, 0 < tap := by decide +kernel

theorem filter_coeff_one_pos (p : Fin filterLengthOne) :
    0 < (filter_coeff_one : CArray ℝ filterLengthOne) p :=
  normalized_pos (n := 33) (fun _ =>
    Rat.cast_pos.mpr (fir1_32_02267573696_pos _ (List.get_mem _ _))) p

/-- From the middle tap every other tap is less than a quarter turn away. -/
theorem cos_tap_pos {ω : ℝ} (low : -Real.pi < 40 * ω) (high : 40 * ω < Real.pi)
    (p : Fin filterLengthOne) : 0 < Real.cos (ω * ((p : ℕ) : ℝ) - 16 * ω) := by
  have inside : ((p : ℕ) : ℝ) ≤ 32 := by
    have lt := p.isLt
    unfold filterLengthOne at lt
    exact_mod_cast Nat.le_of_lt_succ lt
  have nonneg : (0 : ℝ) ≤ ((p : ℕ) : ℝ) := Nat.cast_nonneg _
  have slow : |ω| ≤ Real.pi / 40 := abs_le.mpr ⟨by linarith, by linarith⟩
  have near : |((p : ℕ) : ℝ) - 16| ≤ 16 := abs_le.mpr ⟨by linarith, by linarith⟩
  have angle : |ω * (((p : ℕ) : ℝ) - 16)| ≤ Real.pi / 40 * 16 := by
    rw [abs_mul]
    exact mul_le_mul slow near (abs_nonneg _) (by positivity)
  obtain ⟨left, right⟩ := abs_le.mp angle
  have positive := Real.pi_pos
  rw [mul_comm 16 ω, ← mul_sub]
  exact Real.cos_pos_of_mem_Ioo ⟨by linarith, by linarith⟩

/-- **The response does not vanish** in the band of the demodulator. -/
theorem response_ne_zero {ω : ℝ} (low : -Real.pi < 40 * ω) (high : 40 * ω < Real.pi) :
    response ω ≠ 0 := by
  intro zero
  have turned : ((response ω) * Complex.exp ((-(16 * ω) : ℝ) * Complex.I)).re =
      ∑ p : Fin filterLengthOne, filter_coeff_one p * Real.cos (ω * ((p : ℕ) : ℝ) - 16 * ω) := by
    rw [response, Finset.sum_mul, Complex.re_sum]
    refine Finset.sum_congr rfl fun p _ => ?_
    rw [mul_assoc, ← Complex.exp_add, ← add_mul, ← Complex.ofReal_add, Complex.re_ofReal_mul,
      Complex.exp_ofReal_mul_I_re, sub_eq_add_neg]
  have positive : 0 < ∑ p : Fin filterLengthOne,
      filter_coeff_one p * Real.cos (ω * ((p : ℕ) : ℝ) - 16 * ω) := by
    refine Finset.sum_pos (fun p _ => ?_) ⟨⟨0, by decide⟩, Finset.mem_univ _⟩
    exact mul_pos (filter_coeff_one_pos p) (cos_tap_pos low high p)
  rw [zero, zero_mul, Complex.zero_re] at turned
  exact absurd turned positive.ne

/-! ## The first filter -/

theorem toComplex_carrier (A φ ω : ℝ) (k : ℕ) :
    toComplex (carrier A φ ω k) = A * Complex.exp ((ω * k + φ : ℝ) * Complex.I) := by
  apply Complex.ext
  · rw [Complex.re_ofReal_mul, Complex.exp_ofReal_mul_I_re]
    rfl
  · rw [Complex.im_ofReal_mul, Complex.exp_ofReal_mul_I_im]
    rfl

/-- The first filter in complex numbers. -/
theorem toComplex_filtered (w : ℕ → ℝ × ℝ) (t : ℕ) :
    toComplex (filtered w t) = ∑ p : Fin filterLengthOne,
      toComplex (w (stageOneDecimation * t + p)) * ((filter_coeff_one p : ℝ) : ℂ) := by
  apply Complex.ext
  · rw [Complex.re_sum]
    simp [toComplex, filtered, Prod.fst_sum]
  · rw [Complex.im_sum]
    simp [toComplex, filtered, Prod.snd_sum]

/-- The carrier is an eigenfunction of the first filter. -/
theorem toComplex_filtered_carrier (A φ ω : ℝ) (t : ℕ) :
    toComplex (filtered (carrier A φ ω) t) =
      A * Complex.exp ((40 * ω * t + φ : ℝ) * Complex.I) * response ω := by
  rw [toComplex_filtered, response, Finset.mul_sum]
  refine Finset.sum_congr rfl fun p _ => ?_
  have window : ω * ((stageOneDecimation * t + p : ℕ) : ℝ) + φ =
      40 * ω * t + φ + ω * ((p : ℕ) : ℝ) := by
    rw [stageOneDecimation]
    push_cast
    ring
  rw [toComplex_carrier, window, Complex.ofReal_add, add_mul, Complex.exp_add]
  ring

/-! ## The discriminator -/

/-- A number times its conjugate is the square of the length. -/
theorem conj_mul_turned (z : ℂ) (θ : ℝ) :
    starRingEnd ℂ z * (z * Complex.exp (θ * Complex.I)) =
      ((Complex.normSq z : ℝ) : ℂ) * (Complex.cos θ + Complex.sin θ * Complex.I) := by
  rw [← mul_assoc, ← Complex.normSq_eq_conj_mul_self, Complex.exp_mul_I]

/-- **The discriminator is linear in the frequency.** -/
theorem discriminated_carrier {A φ ω : ℝ} (positive : 0 < A) (low : -Real.pi < 40 * ω)
    (high : 40 * ω < Real.pi) :
    discriminated atan2 (filtered (carrier A φ ω)) = fun _ => 40 * ω := by
  funext t
  have nonzero : toComplex (filtered (carrier A φ ω) t) ≠ 0 := by
    rw [toComplex_filtered_carrier]
    refine mul_ne_zero (mul_ne_zero ?_ (Complex.exp_ne_zero _)) (response_ne_zero low high)
    exact Complex.ofReal_ne_zero.mpr positive.ne'
  have turned : toComplex (filtered (carrier A φ ω) (t + 1)) =
      toComplex (filtered (carrier A φ ω) t) * Complex.exp ((40 * ω : ℝ) * Complex.I) := by
    have next : 40 * ω * ((t + 1 : ℕ) : ℝ) + φ = 40 * ω * t + φ + 40 * ω := by
      push_cast
      ring
    rw [toComplex_filtered_carrier, toComplex_filtered_carrier, next, Complex.ofReal_add,
      add_mul, Complex.exp_add]
    ring
  rw [discriminated_atan2, turned, conj_mul_turned,
    Complex.arg_mul_cos_add_sin_mul_I (Complex.normSq_pos.mpr nonzero) ⟨low, high.le⟩]

/-! ## Blocks -/

/-- **A steady carrier is demodulated to its frequency.**  In every block of a stream of
carrier samples, wherever it starts, all demodulated values and all values of
`convert_to_pcm` are `40 * ω`. -/
theorem processBlock_carrier (platform : Platform) {A φ ω : ℝ} (positive : 0 < A)
    (low : -Real.pi < 40 * ω) (high : 40 * ω < Real.pi) (start : ℕ)
    (bufferShifted : CArray ℝ bufferCount)
    (samples : bufferShifted.HoldsPairs (historyCnt + sampleCnt)
      (shift start (carrier A φ ω))) :
    Succeeds (processBlock platform atan2 bufferShifted) fun b =>
      (∀ i, b.demodded i = 40 * ω) ∧ ∀ i, b.convert_to_pcm i = 40 * ω := by
  -- a later start is another phase
  have later : shift start (carrier A φ ω) = carrier A (ω * start + φ) ω := by
    funext k
    have angle : ω * ((start + k : ℕ) : ℝ) + φ = ω * k + (ω * start + φ) := by
      push_cast
      ring
    rw [shift, carrier, carrier, angle]
  rw [later] at samples
  refine (succeeds_processBlock platform atan2 samples).mono fun b => ?_
  rw [discriminated_carrier positive low high]
  rintro ⟨angles, filteredTwice, -⟩
  refine ⟨fun i => angles.cell i i.isLt, fun i => ?_⟩
  rw [filteredTwice.cell i i.isLt, pcm_const]

/-- A block from the middle of a carrier of a hundredth of a radian a sample. -/
theorem processBlock_carrier_hundredth :
    Succeeds (processBlock .portable atan2
      (CArray.ofPairs (shift 10400 (carrier 2 1 (1 / 100))))) fun b =>
      (∀ i, b.demodded i = 40 * (1 / 100)) ∧ ∀ i, b.convert_to_pcm i = 40 * (1 / 100) := by
  have large := Real.pi_gt_three
  exact processBlock_carrier .portable (by norm_num) (by linarith) (by linarith) 10400 _
    (CArray.holdsPairs_ofPairs _ bufferCount_eq.ge)

end

end SpectrogramServers.MyServer.Receiver
