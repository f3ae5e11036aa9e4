import Mathlib.Algebra.Order.BigOperators.Group.Finset
import Mathlib.Algebra.Order.Floor.Defs
import Mathlib.Analysis.Real.Pi.Bounds
import SpectrogramServers.MyServer.ReceiverBlock

/-!
# When an audio sample fits

The last loop of a block multiplies a filtered angle by 16383, converts it to `int16_t`
and then tests whether it has reached `MAX_PCM`.

## The order of the two

An angle of up to `π` comes out of the second filter as a value of up to `π`, and 16383
times that does not fit into an `int16_t`.  The code tests for `MAX_PCM` after the
conversion, so what should be the largest sample has by then become a negative one: a loud
passage does not clip, it jumps.

## When it does not matter

The taps of the filter are positive and add up to one, so a filtered value lies between
the angles it is computed from (`abs_pcm_le`) and the product is below 98303, where the
conversion wraps at most once.  In this range it and the saturated product differ wherever
the product does not fit, so `saturates_iff_fits` is exact: a block is saturated as it
should be if and only if there was nothing to saturate.

A conversion that is out of range is not defined in C++; it is taken modulo `2 ^ 16`, as
compilers do that go through `int`.  The bound on the angles is that of any arctangent,
and is proved for `fast_atan2f` in `AtanAccuracy`.
-/

namespace SpectrogramServers.MyServer.Receiver

open Tables

universe u

/-! ## Truncation and conversion -/

section Conversion

variable {K : Type u} [Field K] [LinearOrder K] [IsStrictOrderedRing K] [FloorRing K]

theorem truncate_le_iff {n : ℤ} (h : 0 ≤ n) (x : K) : truncate x ≤ n ↔ x < n + 1 := by
  have limit : (0 : K) ≤ n := Int.cast_nonneg h
  rw [truncate]
  split
  case isTrue => exact Int.floor_le_iff
  case isFalse negative =>
    have below := not_le.mp negative
    refine iff_of_true (Int.ceil_le.mpr (below.le.trans limit)) ?_
    exact below.trans_le (limit.trans (le_add_of_nonneg_right zero_le_one))

theorem le_truncate_iff {n : ℤ} (h : n ≤ 0) (x : K) : n ≤ truncate x ↔ (n : K) - 1 < x := by
  have limit : (n : K) ≤ 0 := Int.cast_nonpos.mpr h
  rw [truncate]
  split
  case isTrue positive =>
    refine iff_of_true (Int.le_floor.mpr (limit.trans positive)) ?_
    exact (sub_one_lt (n : K)).trans_le (limit.trans positive)
  case isFalse => exact Int.le_ceil_iff

omit [IsStrictOrderedRing K] in
/-- Truncation keeps the order. -/
theorem truncate_mono : Monotone (truncate : K → ℤ) := by
  intro x y le
  unfold truncate
  by_cases right : 0 ≤ x
  · rw [if_pos right, if_pos (right.trans le)]
    exact Int.floor_mono le
  · have nonpos : ⌈x⌉ ≤ 0 := Int.ceil_le.mpr (Int.cast_zero (R := K) ▸ (not_le.mp right).le)
    rw [if_neg right]
    by_cases right' : 0 ≤ y
    · rw [if_pos right']
      exact nonpos.trans (Int.floor_nonneg.mpr right')
    · rw [if_neg right']
      exact Int.ceil_mono le

/-- An integer moved to the nearest one that an `int16_t` holds. -/
def saturate (v : ℤ) : ℤ := max (-32768) (min v maxPCM)

theorem saturate_mono : Monotone saturate := fun _ _ le =>
  max_le_max le_rfl (min_le_min le le_rfl)

/-- The scale of the samples. -/
def scale : K := ((maxPCM / 2 : ℤ) : K)

omit [LinearOrder K] [IsStrictOrderedRing K] [FloorRing K] in
/-- The scale is half of `MAX_PCM`, rounded down. -/
theorem scale_eq : (scale : K) = 16383 := by
  have half : (maxPCM / 2 : ℤ) = 16383 := rfl
  rw [scale, half]
  norm_num

/-- A product that fits into an `int16_t`. -/
def Fits (y : K) : Prop := -32769 < y ∧ y < 32768

theorem fits_iff (y : K) : Fits y ↔ -32768 ≤ truncate y ∧ truncate y ≤ maxPCM := by
  have low := le_truncate_iff (by decide : (-32768 : ℤ) ≤ 0) y
  have high := truncate_le_iff (by decide : 0 ≤ maxPCM) y
  rw [low, high, Fits, maxPCM]
  norm_num

omit [IsStrictOrderedRing K] in
/-- The conversion takes the product modulo `2 ^ 16`, and the test comes after it. -/
theorem quantise_eq (x : K) :
    quantise x =
      if maxPCM ≤ (truncate (x * scale)).bmod (2 ^ 16) then maxPCM
      else (truncate (x * scale)).bmod (2 ^ 16) := rfl

/-- The conversion in the range of the products, and the test that follows it. -/
theorem clamped_bmod_eq_saturate_iff {v : ℤ} (low : -98303 < v) (high : v < 98303) :
    (if maxPCM ≤ v.bmod (2 ^ 16) then maxPCM else v.bmod (2 ^ 16)) = saturate v ↔
      -32768 ≤ v ∧ v ≤ maxPCM := by
  have wrapped : v.bmod (2 ^ 16) =
      if v % 65536 < 32768 then v % 65536 else v % 65536 - 65536 := Int.bmod_def v (2 ^ 16)
  rw [wrapped, saturate, maxPCM]
  split_ifs <;> omega

/-- **The conversion saturates exactly where there is nothing to saturate.** -/
theorem quantise_eq_saturate_iff {x : K} (bound : |x * scale| < 98303) :
    quantise x = saturate (truncate (x * scale)) ↔ Fits (x * scale) := by
  obtain ⟨low, high⟩ := abs_lt.mp bound
  have top : ((98302 : ℤ) : K) + 1 = 98303 := by norm_num
  have bottom : ((-98302 : ℤ) : K) - 1 = -98303 := by norm_num
  have below : truncate (x * scale) ≤ 98302 := by
    rw [truncate_le_iff (by decide), top]
    exact high
  have above : -98302 ≤ truncate (x * scale) := by
    rw [le_truncate_iff (by decide), bottom]
    exact low
  rw [fits_iff, quantise_eq]
  exact clamped_bmod_eq_saturate_iff (by omega) (by omega)

end Conversion

/-! ## The second filter averages -/

section Taps

variable {K : Type u} [Field K] [LinearOrder K] [IsStrictOrderedRing K]

theorem normalized_pos {n : ℕ} [NeZero n] {taps : CArray K n} (positive : ∀ i, 0 < taps i)
    (i : Fin n) : 0 < normalized taps i := by
  have total : 0 < ∑ j, taps j := Finset.sum_pos (fun j _ => positive j) Finset.univ_nonempty
  exact mul_pos (one_div_pos.mpr total) (positive i)

/-- Normalised taps add up to one. -/
theorem sum_normalized {n : ℕ} [NeZero n] {taps : CArray K n} (positive : ∀ i, 0 < taps i) :
    ∑ i, normalized taps i = 1 := by
  have total : 0 < ∑ j, taps j := Finset.sum_pos (fun j _ => positive j) Finset.univ_nonempty
  unfold normalized
  rw [← Finset.mul_sum, one_div_mul_cancel total.ne']

theorem fir1_32_00170068027_pos : ∀ tap ∈ fir1_32_00170068027, 0 < tap := by decide +kernel

theorem filter_coeff_two_pos (x : Fin filterLengthTwo) :
    0 < (filter_coeff_two : CArray K filterLengthTwo) x :=
  normalized_pos (n := 33) (fun _ =>
    Rat.cast_pos.mpr (fir1_32_00170068027_pos _ (List.get_mem _ _))) x

theorem sum_filter_coeff_two :
    ∑ x, (filter_coeff_two : CArray K filterLengthTwo) x = 1 :=
  sum_normalized (n := 33) fun _ =>
    Rat.cast_pos.mpr (fir1_32_00170068027_pos _ (List.get_mem _ _))

/-- A bound on the angles is a bound on the filtered values. -/
theorem abs_pcm_le {a : ℕ → K} {B : K} (bound : ∀ i, |a i| ≤ B) (t : ℕ) : |pcm a t| ≤ B := by
  have term : ∀ x : Fin filterLengthTwo,
      |a (t + x) * filter_coeff_two x| ≤ B * filter_coeff_two x := by
    intro x
    have positive := filter_coeff_two_pos (K := K) x
    rw [abs_mul, abs_of_pos positive]
    exact mul_le_mul_of_nonneg_right (bound _) positive.le
  calc |pcm a t| ≤ ∑ x : Fin filterLengthTwo, |a (t + x) * filter_coeff_two x| :=
        Finset.abs_sum_le_sum_abs _ _
    _ ≤ ∑ x : Fin filterLengthTwo, B * filter_coeff_two x :=
        Finset.sum_le_sum fun x _ => term x
    _ = B := by rw [← Finset.mul_sum, sum_filter_coeff_two, mul_one]

/-- A constant passes unchanged. -/
theorem pcm_const (angle : K) (t : ℕ) : pcm (fun _ => angle) t = angle := by
  rw [pcm, ← Finset.mul_sum, sum_filter_coeff_two, mul_one]

end Taps

/-! ## The samples of a block -/

section Samples

variable {K : Type u} [Field K] [LinearOrder K] [IsStrictOrderedRing K] [FloorRing K]

/-- The arrays of a block after the demodulating loop has left the stream `a`. -/
def demodulated (a : ℕ → K) : Block K := { Block.cleared with demodded := fun i => a i }

/-- From `demodded` to `downsampled_audio`. -/
def toAudio (platform : Platform) (block : Block K) : Option (Block K) :=
  (filterTwo platform block).bind downsample

omit [IsStrictOrderedRing K] in
/-- The two last loops of a block, on any angles. -/
theorem succeeds_toAudio (platform : Platform) (a : ℕ → K) :
    Succeeds (toAudio platform (demodulated a)) fun b =>
      b.convert_to_pcm.Holds afterFirstFilterCnt (pcm a) ∧
        b.downsampled_audio.Holds downSampleCnt (quantised (pcm a)) := by
  have angles : (demodulated a).demodded.Holds (afterFirstFilterCnt + filterLengthTwo) a :=
    fun i lt => CArray.get?_of_lt _ lt
  have zero : (demodulated a).convert_to_pcm.Holds afterFirstFilterCnt fun _ => 0 :=
    fun i lt => CArray.get?_of_lt _ lt
  refine (succeeds_filterTwo platform angles zero).bind fun b => ?_
  rintro ⟨-, filteredTwice⟩
  refine (succeeds_downsample filteredTwice).mono fun c => ?_
  rintro ⟨-, samePcm, samples⟩
  exact ⟨samePcm ▸ filteredTwice, samples⟩

/-- The cell of `convert_to_pcm` that audio sample `i` is made from. -/
def tenth (i : Fin downSampleCnt) : Fin afterFirstFilterCnt :=
  ⟨stageTwoDecimation * i, by
    have lt := i.isLt
    unfold downSampleCnt stageTwoDecimation at lt
    unfold afterFirstFilterCnt stageTwoDecimation
    omega⟩

/-- Every audio sample is the product cut off and saturated; so it grows with the filtered
value. -/
structure Saturates (b : Block K) : Prop where
  sample : ∀ i, b.downsampled_audio i = saturate (truncate (b.convert_to_pcm (tenth i) * scale))
  mono : ∀ i j, b.convert_to_pcm (tenth i) ≤ b.convert_to_pcm (tenth j) →
    b.downsampled_audio i ≤ b.downsampled_audio j

theorem saturates_iff_sample (b : Block K) :
    Saturates b ↔ ∀ i, b.downsampled_audio i =
      saturate (truncate (b.convert_to_pcm (tenth i) * scale)) := by
  have positive : (0 : K) ≤ scale := by
    rw [scale_eq]
    norm_num
  refine ⟨Saturates.sample, fun sample => ⟨sample, fun i j le => ?_⟩⟩
  rw [sample, sample]
  exact saturate_mono (truncate_mono (mul_le_mul_of_nonneg_right le positive))

end Samples

/-! ## Angles -/

theorem abs_pcm_scale_lt {a : ℕ → ℝ} (angles : ∀ i, |a i| ≤ Real.pi) (t : ℕ) :
    |pcm a t * scale| < 98303 := by
  have filtered_le := abs_pcm_le angles t
  have bound := Real.pi_lt_d2
  rw [scale_eq, abs_mul, abs_of_pos (by norm_num : (0 : ℝ) < 16383)]
  linarith

theorem saturates_iff_of_holds {b : Block ℝ} {a : ℕ → ℝ} (angles : ∀ i, |a i| ≤ Real.pi)
    (filteredTwice : b.convert_to_pcm.Holds afterFirstFilterCnt (pcm a))
    (samples : b.downsampled_audio.Holds downSampleCnt (quantised (pcm a))) :
    Saturates b ↔ ∀ i : Fin downSampleCnt, Fits (pcm a (stageTwoDecimation * i) * scale) := by
  rw [saturates_iff_sample]
  refine forall_congr' fun i => ?_
  have value : b.convert_to_pcm (tenth i) = pcm a (stageTwoDecimation * i) :=
    filteredTwice.cell (tenth i) (tenth i).isLt
  have sample : b.downsampled_audio i = quantise (pcm a (stageTwoDecimation * i)) :=
    samples.cell i i.isLt
  rw [value, sample]
  exact quantise_eq_saturate_iff (abs_pcm_scale_lt angles _)

/-- **Quantisation.**  The audio samples of a block are the saturated products exactly
where all products fit into an `int16_t`, on either platform and for all angles in `[-π,
π]`. -/
theorem saturates_iff_fits (platform : Platform) (a : ℕ → ℝ) (angles : ∀ i, |a i| ≤ Real.pi) :
    Succeeds (toAudio platform (demodulated a)) fun b =>
      Saturates b ↔ ∀ i : Fin downSampleCnt, Fits (pcm a (stageTwoDecimation * i) * scale) := by
  refine (succeeds_toAudio platform a).mono fun b => ?_
  rintro ⟨filteredTwice, samples⟩
  exact saturates_iff_of_holds angles filteredTwice samples

/-- The same for a whole block, whose angles are those of `fast_atan2f`. -/
theorem succeeds_processBlock_saturates (platform : Platform) {fast_atan2f : ℝ → ℝ → ℝ}
    (angles : ∀ y x, |fast_atan2f y x| ≤ Real.pi) {bufferShifted : CArray ℝ bufferCount}
    {w : ℕ → ℝ × ℝ} (h : bufferShifted.HoldsPairs (historyCnt + sampleCnt) w) :
    Succeeds (processBlock platform fast_atan2f bufferShifted) fun b =>
      Saturates b ↔ ∀ i : Fin downSampleCnt,
        Fits (pcm (discriminated fast_atan2f (filtered w)) (stageTwoDecimation * i) * scale) := by
  refine (succeeds_processBlock platform fast_atan2f h).mono fun b => ?_
  rintro ⟨-, filteredTwice, samples⟩
  exact saturates_iff_of_holds (fun _ => angles _ _) filteredTwice samples

/-- Angles of 1 are converted as they should be. -/
theorem saturates_one :
    Succeeds (toAudio .portable (demodulated fun _ => (1 : ℝ))) Saturates := by
  have small : ∀ i : ℕ, |(1 : ℝ)| ≤ Real.pi := fun _ => by
    rw [abs_one]
    exact (by norm_num : (1 : ℝ) ≤ 3).trans Real.pi_gt_three.le
  refine (saturates_iff_fits .portable (fun _ => (1 : ℝ)) small).mono fun b exact_ => ?_
  refine exact_.mpr fun i => ?_
  rw [pcm_const, one_mul, scale_eq, Fits]
  norm_num

theorem truncate_loud : truncate ((3.1 : ℝ) * scale) = 50787 := by
  rw [scale_eq, truncate, if_pos (by norm_num), Int.floor_eq_iff]
  norm_num

/-- A constant angle of 3.1 becomes the sample -14749 in place of 32767. -/
theorem not_saturates_loud :
    (∀ _ : ℕ, |(3.1 : ℝ)| ≤ Real.pi) ∧
      Succeeds (toAudio .portable (demodulated fun _ => (3.1 : ℝ))) fun b =>
        (∀ i, b.downsampled_audio i = -14749) ∧ ¬ Saturates b := by
  refine ⟨fun _ => ?_, (succeeds_toAudio .portable fun _ => (3.1 : ℝ)).mono fun b => ?_⟩
  · rw [abs_of_pos (by norm_num)]
    exact (by norm_num : (3.1 : ℝ) ≤ 3.14).trans Real.pi_gt_d2.le
  · rintro ⟨filteredTwice, samples⟩
    have wrapped : ∀ i, b.downsampled_audio i = -14749 := by
      intro i
      rw [samples.cell i i.isLt, quantised, pcm_const, quantise_eq, truncate_loud]
      decide
    refine ⟨wrapped, fun saturates => ?_⟩
    have first : Fin downSampleCnt := ⟨0, by decide⟩
    have sample := saturates.sample first
    rw [wrapped, filteredTwice.cell (tenth first) (tenth first).isLt, pcm_const,
      truncate_loud] at sample
    exact absurd sample (by decide)

end SpectrogramServers.MyServer.Receiver
