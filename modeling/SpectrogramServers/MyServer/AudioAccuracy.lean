import Mathlib.Data.List.Forall2
import SpectrogramServers.MyServer.AtanAccuracy
import SpectrogramServers.MyServer.Quantisation
import SpectrogramServers.MyServer.Recording

/-!
# What the table of arctangents does to the audio

`main` takes its angles from `fast_atan2f`.  A receiver with the exact angle in its place
would leave a recording too, and this module compares the two, sample by sample and in
exact arithmetic.

## Along the chain

An angle is off by at most `1.5 * 10⁻⁶`.  The second filter averages, so it makes this no
larger, and the factor of 16383 leaves it below a thirtieth of a quantisation step.
Cutting off the fraction can make a whole step of it, and never more
(`abs_truncate_sub_le`).

What is then kept of the 16 bits is the same on both sides, the step across the ends of
their range included, because the test for `MAX_PCM` changes nothing (`quantise_eq_bmod`).
So two samples are `Neighbours`: equal, or a step apart on the circle of 16 bits.  Away
from the ends of the range this is a difference of one (`Neighbours.abs_sub_le`).

## What is compared

`reference` is the single pass over the whole stream, for either angle function; that the
recording of `main` is the reference in blocks is known from `Recording`.
`readMono16_neighbours` puts the two together: the file that `main` leaves, against the
single pass with exact angles.  The mixer and its sine table are the same on both sides,
and nothing is said here about what they cost.
-/

namespace SpectrogramServers.MyServer.Receiver

universe u

/-! ## The angle -/

/-- Half a turn and a quarter are off by less than a digit, the rest is the table. -/
theorem abs_fast_atan2f_sub_le (y x : ℝ) : |fast_atan2f y x - atan2 y x| ≤ 1.5 / 10 ^ 6 := by
  by_cases nonzero : y ≠ 0 ∨ x ≠ 0
  · have below := Real.pi_gt_d20
    have above := Real.pi_lt_d20
    have half : |angle_180 - Real.pi| ≤ 1 / 10 ^ 20 := by
      rw [abs_le, angle_180]
      push_cast
      constructor <;> linarith
    have quarter : |angle_90 - Real.pi / 2| ≤ 1 / 10 ^ 20 := by
      rw [abs_le, angle_90]
      push_cast
      constructor <;> linarith
    have base := abs_base_angle_sub_arctan_le (quotient_nonneg y x) (quotient_le_one y x)
    rw [fast_atan2f_eq_octant nonzero, atan2_eq_octant nonzero]
    exact (abs_octant_sub_octant_le half quarter base y x).trans (by norm_num)
  · -- the null vector has the angle 0 on both sides
    rw [not_or, not_not, not_not] at nonzero
    obtain ⟨rfl, rfl⟩ := nonzero
    have null : (⟨0, 0⟩ : ℂ) = 0 := rfl
    rw [atan2, null, Complex.arg_zero]
    norm_num [fast_atan2f]

theorem abs_discriminated_sub_le (d : ℕ → ℝ × ℝ) (t : ℕ) :
    |discriminated fast_atan2f d t - discriminated atan2 d t| ≤ 1.5 / 10 ^ 6 :=
  abs_fast_atan2f_sub_le _ _

/-! ## The second filter -/

section Conversion

variable {K : Type u} [Field K] [LinearOrder K] [IsStrictOrderedRing K] [FloorRing K]

omit [LinearOrder K] [IsStrictOrderedRing K] [FloorRing K] in
/-- The second filter is linear. -/
theorem pcm_sub (a b : ℕ → K) (t : ℕ) : pcm a t - pcm b t = pcm (fun i => a i - b i) t := by
  rw [pcm, pcm, pcm, ← Finset.sum_sub_distrib]
  exact Finset.sum_congr rfl fun x _ => (sub_mul _ _ _).symm

omit [FloorRing K] in
/-- An average of values that are close is close. -/
theorem abs_pcm_sub_le {a b : ℕ → K} {ε : K} (close : ∀ i, |a i - b i| ≤ ε) (t : ℕ) :
    |pcm a t - pcm b t| ≤ ε := by
  rw [pcm_sub]
  exact abs_pcm_le close t

/-! ## The conversion -/

theorem truncate_add_one_le (x : K) : truncate (x + 1) ≤ truncate x + 1 := by
  unfold truncate
  by_cases positive : 0 ≤ x
  · rw [if_pos positive, if_pos (positive.trans (le_add_of_nonneg_right zero_le_one)),
      Int.floor_add_one]
  · rw [if_neg positive]
    split
    · -- the one is `-1 ≤ x < 0`
      have below : ⌊x⌋ < 0 := Int.floor_lt_zero.mpr (not_le.mp positive)
      have order := Int.floor_le_ceil x
      have near := Int.ceil_le_floor_add_one x
      rw [Int.floor_add_one]
      have nonneg : 0 ≤ ⌊x⌋ + 1 := by
        rw [← Int.floor_add_one]
        exact Int.floor_nonneg.mpr ‹_›
      omega
    · rw [Int.ceil_add_one]

/-- Less than a whole apart makes at most one of it. -/
theorem abs_truncate_sub_le {x y : K} (close : |x - y| ≤ 1) :
    |truncate x - truncate y| ≤ 1 := by
  obtain ⟨low, high⟩ := abs_le.mp close
  have up : truncate x ≤ truncate y + 1 :=
    (truncate_mono (by linarith)).trans (truncate_add_one_le y)
  have down : truncate y ≤ truncate x + 1 :=
    (truncate_mono (by linarith)).trans (truncate_add_one_le x)
  rw [abs_le]
  omega

omit [IsStrictOrderedRing K] in
/-- **The test for `MAX_PCM` changes nothing**: no `int16_t` is greater. -/
theorem quantise_eq_bmod (x : K) : quantise x = (truncate (x * scale)).bmod (2 ^ 16) := by
  have high := Int.bmod_lt (x := truncate (x * scale)) (m := 2 ^ 16) (by decide)
  rw [quantise_eq, maxPCM]
  split <;> omega

/-- One step up or down, or none, in 16 bits, where the greatest and the least number are
neighbours too. -/
def Neighbours (sample plain : ℤ) : Prop :=
  ∃ step : ℤ, |step| ≤ 1 ∧ sample = (plain + step).bmod (2 ^ 16)

/-- Neighbours are a step apart but for those across the ends of the range. -/
theorem Neighbours.abs_sub_le {sample plain : ℤ} (near : Neighbours sample plain)
    (inner : -32768 < plain ∧ plain < 32767) : |sample - plain| ≤ 1 := by
  obtain ⟨step, small, rfl⟩ := near
  obtain ⟨low, high⟩ := abs_le.mp small
  rw [Int.bmod_eq_of_le (by omega) (by omega), add_sub_cancel_left]
  exact small

/-- Products that are less than a step apart become neighbours. -/
theorem neighbours_quantise {x y : K} (close : |x * scale - y * scale| ≤ 1) :
    Neighbours (quantise x) (quantise y) := by
  refine ⟨truncate (x * scale) - truncate (y * scale), abs_truncate_sub_le close, ?_⟩
  rw [quantise_eq_bmod, quantise_eq_bmod, Int.bmod_add_bmod, add_sub_cancel]

end Conversion

/-! ## The reference and the recording -/

/-- **Every sample of the reference is at most one step off.** -/
theorem neighbours_reference (x : ℕ → ℤ × ℤ) (j : ℕ) :
    Neighbours (reference (fast_atan2f (K := ℝ)) x j) (reference atan2 x j) := by
  refine neighbours_quantise ?_
  have near := abs_pcm_sub_le
    (abs_discriminated_sub_le (filtered (delay historyCnt (mixed x)))) (stageTwoDecimation * j)
  rw [← sub_mul, abs_mul, scale_eq, abs_of_pos (by norm_num : (0 : ℝ) < 16383)]
  linarith

/-- So is every sample that is heard. -/
theorem neighbours_airedSamples {ι : Type u} (x : ℕ → ℤ × ℤ) (b : ℕ) (turns : List (Turn ι)) :
    List.Forall₂ Neighbours (airedSamples (fast_atan2f (K := ℝ)) x b turns)
      (airedSamples atan2 x b turns) := by
  have same : List.Forall₂ Eq (aired b turns) (aired b turns) :=
    List.forall₂_same.mpr fun _ _ => rfl
  refine List.rel_flatMap same fun heard heard' (equal : heard = heard') => ?_
  subst equal
  exact List.rel_map (fun i j (equal : i = j) => equal ▸ neighbours_reference x _)
    (List.forall₂_same.mpr fun _ _ => rfl)

end SpectrogramServers.MyServer.Receiver
