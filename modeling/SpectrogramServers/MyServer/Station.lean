import SpectrogramServers.Lib.Discriminator
import SpectrogramServers.MyServer.AudioAccuracy
import SpectrogramServers.MyServer.Oscillator
import SpectrogramServers.MyServer.SteadyCarrier

/-!
# What a station says is what is recorded

The receiver as a whole.  A station is a carrier whose phase goes faster and slower, and
what it says is how fast (`message`).  This module follows it from the samples of the radio
into the wave file (`readMono16_station`), in exact arithmetic.

The oscillator leaves the phase of the station and a hundredth of noise
(`Station.norm_mixed_sub_le`).  The first filter averages 33 samples, and the discriminator
takes the angle from one average to the next.  The load-bearing clause is that this angle
is how far the phase goes between the middles of the windows, up to a small multiple of the
noise and of what the speed changes from sample to sample
(`Station.abs_discriminated_sub_le`); it rests on two moments of the taps and on no other
property of the filter.  The second filter is part of the message.  The conversion to 16
bits cuts off a fraction and nothing else, because a station whose phase goes at most 3/80
from sample to sample, 105 kHz, stays in the range (`Station.abs_message_le`).
-/

namespace SpectrogramServers.MyServer.Receiver

open Tables

/-! ## The taps of the first filter -/

theorem filter_coeff_one_cast (p : Fin filterLengthOne) :
    (filter_coeff_one : CArray ℝ filterLengthOne) p =
      ((filter_coeff_one : CArray ℚ filterLengthOne) p : ℝ) := by
  simp [filter_coeff_one, normalized_fir1_32_02267573696, normalized]

theorem sum_filter_coeff_one : ∑ p, (filter_coeff_one : CArray ℝ filterLengthOne) p = 1 :=
  sum_normalized (n := 33) fun _ =>
    Rat.cast_pos.mpr (fir1_32_02267573696_pos _ (List.get_mem _ _))

/-- A mean over the taps can be computed with rational numbers. -/
theorem sum_mul_filter_coeff_one_le (weight : Fin filterLengthOne → ℚ) {M : ℚ}
    (rational : ∑ p, weight p * (filter_coeff_one : CArray ℚ filterLengthOne) p ≤ M) :
    ∑ p, (weight p : ℝ) * (filter_coeff_one : CArray ℝ filterLengthOne) p ≤ M := by
  refine le_of_eq_of_le ?_ ((Rat.cast_le (K := ℝ)).mpr rational)
  rw [Rat.cast_sum]
  refine Finset.sum_congr rfl fun p _ => ?_
  rw [filter_coeff_one_cast, Rat.cast_mul]

/-- How far a tap is from the middle one, on average. -/
theorem sum_abs_sub_middle :
    ∑ p : Fin filterLengthOne, |((p : ℕ) : ℝ) - (16 : ℕ)| *
      (filter_coeff_one : CArray ℝ filterLengthOne) p ≤ 5.2 := by
  have mean := sum_mul_filter_coeff_one_le (fun p => |((p : ℕ) : ℚ) - (16 : ℕ)|) (M := 5.2)
    (by decide +kernel)
  push_cast at mean ⊢
  refine mean.trans ?_
  norm_num

/-- The square of it. -/
theorem sum_sq_sub_middle :
    ∑ p : Fin filterLengthOne, (((p : ℕ) : ℝ) - (16 : ℕ)) ^ 2 *
      (filter_coeff_one : CArray ℝ filterLengthOne) p ≤ 40.1 := by
  have mean := sum_mul_filter_coeff_one_le (fun p => (((p : ℕ) : ℚ) - (16 : ℕ)) ^ 2) (M := 40.1)
    (by decide +kernel)
  push_cast at mean ⊢
  refine mean.trans ?_
  norm_num

/-! ## Samples that fit -/

/-- Cutting off the fraction moves by less than one. -/
theorem abs_truncate_sub_self_le (z : ℝ) : |(truncate z : ℝ) - z| ≤ 1 := by
  unfold truncate
  rw [abs_le]
  split
  · have below := Int.floor_le z
    have above := Int.lt_floor_add_one z
    constructor <;> linarith
  · have above := Int.le_ceil z
    have below := Int.ceil_lt_add_one z
    constructor <;> linarith

/-- A product that fits is converted to within one. -/
theorem abs_quantise_sub_le {y : ℝ} (fits : Fits (y * scale)) :
    |(quantise y : ℝ) - y * scale| ≤ 1 := by
  obtain ⟨low, high⟩ := (fits_iff _).mp fits
  rw [maxPCM] at high
  rw [quantise_eq_bmod, Int.bmod_eq_of_le (by omega) (by omega)]
  exact abs_truncate_sub_self_le _

/-! ## What a station says -/

/-- How far the phase goes between the middles of two windows of the first filter. -/
def advance (φ : ℕ → ℝ) (t : ℕ) : ℝ :=
  φ (stageOneDecimation * (t + 1) + 16) - φ (stageOneDecimation * t + 16)

/-- What there is to hear of a phase: how fast it goes, through the second filter. -/
noncomputable def message (φ : ℕ → ℝ) (j : ℕ) : ℝ := pcm (advance φ) (stageTwoDecimation * j)

/-- A station in the samples of the radio, at the frequency the receiver shifts to the
middle: a carrier of amplitude `A` and phase `φ`, but for the noise.  The phase goes at
most `swing` from sample to sample, and its speed changes by at most `bend`. -/
structure Station (x : ℕ → ℤ × ℤ) (A noise swing bend : ℝ) (φ : ℕ → ℝ) : Prop where
  positive : 0 < A
  carrier : ∀ g, ‖received x g -
    A * Complex.exp (φ g * Complex.I) * starRingEnd ℂ (exactOscillator g)‖ ≤ A * noise
  slow : ∀ g, |φ (g + 1) - φ g| ≤ swing
  steady : ∀ g, |φ (g + 2) - φ (g + 1) - (φ (g + 1) - φ g)| ≤ bend

/-- The amplitude of the carrier is its size. -/
theorem norm_carrier {A : ℝ} (positive : 0 < A) (φ : ℕ → ℝ) (g : ℕ) :
    ‖(A : ℂ) * Complex.exp (φ g * Complex.I) * starRingEnd ℂ (exactOscillator g)‖ = A := by
  rw [norm_mul, norm_mul, Complex.norm_real, Complex.norm_exp_ofReal_mul_I, RCLike.norm_conj,
    exactOscillator, Circle.norm_coe, Real.norm_of_nonneg positive.le, mul_one, mul_one]

theorem equivariant_advance : Equivariant stageOneDecimation advance :=
  equivariant_of_window (fun φ => advance φ 0) fun φ t => by
    simp [advance, shift, Nat.mul_add, Nat.add_assoc]

theorem equivariant_message :
    Equivariant (stageOneDecimation * 1 * stageTwoDecimation) message :=
  Equivariant.comp (G := fun (y : ℕ → ℝ) j => y (stageTwoDecimation * j))
    (equivariant_of_window (fun y => y 0) fun y t => by simp [shift])
    (equivariant_pcm.comp equivariant_advance)

/-- Behind the first block what is delayed has begun. -/
theorem shift_delay {b : ℕ} (later : 1 ≤ b) (φ : ℕ → ℝ) :
    shift (sampleCnt * b) (delay historyCnt φ) = shift (sampleCnt * b - historyCnt) φ := by
  have reach := historyCnt_le_sampleCnt
  have block := Nat.le_mul_of_pos_right sampleCnt later
  funext k
  exact congrArg φ (by omega)

namespace Station

variable {x : ℕ → ℤ × ℤ} {A noise swing bend : ℝ} {φ : ℕ → ℝ}
  (station : Station x A noise swing bend φ)

include station

theorem noise_nonneg : 0 ≤ noise :=
  nonneg_of_mul_nonneg_right ((norm_nonneg _).trans (station.carrier 0)) station.positive

theorem bend_nonneg : 0 ≤ bend := (abs_nonneg _).trans (station.steady 0)

theorem norm_received_le (g : ℕ) : ‖received x g‖ ≤ A * (1 + noise) := by
  have triangle := norm_le_norm_add_norm_sub'
    (received x g) (A * Complex.exp (φ g * Complex.I) * starRingEnd ℂ (exactOscillator g))
  rw [norm_carrier station.positive] at triangle
  linarith [station.carrier g]

/-- **Behind the oscillator** the carrier is its phase, and nothing else turns it. -/
theorem norm_mixed_sub_le (g : ℕ) :
    ‖toComplex (mixed x g) - A * Complex.exp (φ g * Complex.I)‖ ≤
      A * (0.0087 * (1 + noise) + noise) := by
  have unit : starRingEnd ℂ (exactOscillator g) * exactOscillator g = 1 := by
    rw [← Complex.normSq_eq_conj_mul_self, exactOscillator, Circle.normSq_coe, Complex.ofReal_one]
  have exact : ‖received x g * exactOscillator g - A * Complex.exp (φ g * Complex.I)‖ ≤
      A * noise := by
    have split : received x g * exactOscillator g - A * Complex.exp (φ g * Complex.I) =
        (received x g - A * Complex.exp (φ g * Complex.I) *
          starRingEnd ℂ (exactOscillator g)) * exactOscillator g := by
      rw [sub_mul, mul_assoc _ (starRingEnd ℂ _), unit, mul_one]
    rw [split, norm_mul, exactOscillator, Circle.norm_coe, mul_one, ← exactOscillator]
    exact station.carrier g
  have oscillator := (Receiver.norm_mixed_sub_le x g).trans
    (mul_le_mul_of_nonneg_left (station.norm_received_le g) (by norm_num))
  refine (norm_sub_le_norm_sub_add_norm_sub _ (received x g * exactOscillator g) _).trans ?_
  linarith

theorem slow_shift (m k : ℕ) : |shift m φ (k + 1) - shift m φ k| ≤ swing := station.slow (m + k)

theorem steady_shift (m k : ℕ) :
    |shift m φ (k + 2) - shift m φ (k + 1) - (shift m φ (k + 1) - shift m φ k)| ≤ bend :=
  station.steady (m + k)

/-- **The discriminator of a block** gives how far the phase goes from window to window. -/
theorem abs_discriminated_sub_le {b : ℕ} (later : 1 ≤ b) (narrow : swing ≤ 3 / 80)
    (quiet : noise ≤ 1 / 20) (even : bend ≤ 1 / 2000) (t : ℕ) :
    |discriminated fast_atan2f (filtered (window x b)) t -
      advance (shift (sampleCnt * b) (delay historyCnt φ)) t| ≤
        0.026 + 3 * noise + 304 * bend := by
  have noise_nonneg := station.noise_nonneg
  have bend_nonneg := station.bend_nonneg
  have swing_nonneg : 0 ≤ swing := (abs_nonneg _).trans (station.slow 0)
  have pi := Real.pi_gt_three
  have carries : ∀ k, ‖toComplex (window x b k) - A * Complex.exp
      (shift (sampleCnt * b) (delay historyCnt φ) k * Complex.I)‖ ≤
      A * (0.0087 * (1 + noise) + noise) := fun k => station.norm_mixed_sub_le _
  rw [shift_delay later] at carries ⊢
  generalize sampleCnt * b - historyCnt = m at carries ⊢
  -- the share of the deviation in what is heard
  let η := (0.0174 + 2.0174 * noise + 208 * bend) / 0.9126
  have share : 0.9126 * η = 0.0174 + 2.0174 * noise + 208 * bend := mul_div_cancel₀ _ (by norm_num)
  have small : η < 1 / 4 := by linarith
  have η_nonneg : 0 ≤ η := by linarith
  have square : swing ^ 2 ≤ (3 / 80) ^ 2 := pow_le_pow_left₀ swing_nonneg narrow 2
  have heard : 0.9126 ≤ 1 - swing ^ 2 * 40.1 / 2 - (0.0087 * (1 + noise) + noise) := by
    norm_num at square
    linarith
  have rest : η / (1 - η) ≤ 0.0255 + 3 * noise + 304 * bend := by
    have most := mul_le_mul_of_nonneg_left (by linarith : 3 / 4 ≤ 1 - η)
      (by linarith : 0 ≤ 0.0255 + 3 * noise + 304 * bend)
    rw [div_le_iff₀ (by linarith)]
    linarith
  have enough : 0.0087 * (1 + noise) + noise + (0.0087 * (1 + noise) + noise) +
      ((40 : ℕ) : ℝ) * bend * 5.2 ≤
        η * (1 - swing ^ 2 * 40.1 / 2 - (0.0087 * (1 + noise) + noise)) := by
    have least := mul_le_mul_of_nonneg_left heard η_nonneg
    push_cast
    linarith
  have room : ((40 : ℕ) : ℝ) * swing + η / (1 - η) < Real.pi := by
    push_cast
    linarith
  have angle := abs_arg_average_sub_le (fun p => (filter_coeff_one_pos p).le)
    sum_filter_coeff_one sum_abs_sub_middle sum_sq_sub_middle (station.slow_shift m)
    (station.steady_shift m) station.positive carries (by linarith) enough (by linarith) room
    (stageOneDecimation * t)
  have exact : discriminated atan2 (filtered (window x b)) t =
      Complex.arg (starRingEnd ℂ (∑ p : Fin filterLengthOne,
          toComplex (window x b (stageOneDecimation * t + p)) * ((filter_coeff_one p : ℝ) : ℂ)) *
        ∑ p : Fin filterLengthOne, toComplex (window x b (stageOneDecimation * t + 40 + p)) *
          ((filter_coeff_one p : ℝ) : ℂ)) := by
    rw [discriminated_atan2, toComplex_filtered, toComplex_filtered]
    rfl
  rw [← exact] at angle
  have table := Receiver.abs_discriminated_sub_le (filtered (window x b)) t
  refine (abs_sub_le _ _ _).trans ((add_le_add table angle).trans ?_)
  linarith

/-- What is heard never leaves the range of the samples. -/
theorem abs_message_le {b : ℕ} (later : 1 ≤ b) (narrow : swing ≤ 3 / 80) (i : ℕ) :
    |message (shift (sampleCnt * b) (delay historyCnt φ)) i| ≤ 3 / 2 := by
  rw [shift_delay later]
  refine abs_pcm_le (fun t => ?_) _
  have steps := abs_add_sub_le (station.slow_shift (sampleCnt * b - historyCnt))
    (stageOneDecimation * t + 16) 40
  have far : ((40 : ℕ) : ℝ) * swing ≤ 3 / 2 := by
    push_cast
    linarith
  exact steps.trans far

/-- **A sample of the reference** is what the station says, in sample steps. -/
theorem abs_reference_sub_le {b : ℕ} (later : 1 ≤ b) (narrow : swing ≤ 3 / 80)
    (quiet : noise ≤ 1 / 20) (even : bend ≤ 1 / 2000) (i : ℕ) :
    |(reference (fast_atan2f (K := ℝ)) x (downSampleCnt * b + i) : ℝ) -
        16383 * message (delay historyCnt φ) (downSampleCnt * b + i)| ≤
      16383 * (0.026 + 3 * noise + 304 * bend) + 1 := by
  have block : message (shift (sampleCnt * b) (delay historyCnt φ)) i =
      message (delay historyCnt φ) (downSampleCnt * b + i) :=
    equivariant_message.block downSampleCnt b i (delay historyCnt φ)
  rw [← audio_window, ← block]
  let y : ℝ := pcm (discriminated fast_atan2f (filtered (window x b))) (stageTwoDecimation * i)
  let m := message (shift (sampleCnt * b) (delay historyCnt φ)) i
  have heard : |y - m| ≤ 0.026 + 3 * noise + 304 * bend :=
    abs_pcm_sub_le (station.abs_discriminated_sub_le later narrow quiet even) _
  have range : |m| ≤ 3 / 2 := station.abs_message_le later narrow i
  have fits : Fits (y * scale) := by
    obtain ⟨near_low, near_high⟩ := abs_le.mp heard
    obtain ⟨low, high⟩ := abs_le.mp range
    rw [Fits, scale_eq]
    constructor <;> linarith
  have sample : |(quantise y : ℝ) - y * scale| ≤ 1 := abs_quantise_sub_le fits
  have scaled : |y * scale - 16383 * m| ≤ 16383 * (0.026 + 3 * noise + 304 * bend) := by
    rw [scale_eq, mul_comm y, ← mul_sub, abs_mul, abs_of_pos (by norm_num : (0 : ℝ) < 16383)]
    exact mul_le_mul_of_nonneg_left heard (by norm_num)
  refine (abs_sub_le _ (y * scale) _).trans ((add_le_add sample scaled).trans_eq ?_)
  ring

end Station

/-! ## The recording -/

/-- A sample and what the station says then. -/
def Says (tolerance : ℝ) (sample : ℤ) (said : ℝ) : Prop := |(sample : ℝ) - scale * said| ≤ tolerance

/-- What the station says in the blocks that are heard. -/
noncomputable def airedMessages {ι : Type} (φ : ℕ → ℝ) (b : ℕ) (turns : List (Turn ι)) : List ℝ :=
  (aired b turns).flatMap fun heard =>
    firsts (fun i => message (delay historyCnt φ) (downSampleCnt * heard.1 + i)) downSampleCnt

theorem Station.says_airedSamples {ι : Type} {x : ℕ → ℤ × ℤ} {A noise swing bend : ℝ} {φ : ℕ → ℝ}
    (station : Station x A noise swing bend φ) (narrow : swing ≤ 3 / 80)
    (quiet : noise ≤ 1 / 20) (even : bend ≤ 1 / 2000) {turns : List (Turn ι)}
    (warms : WarmsUp turns) :
    List.Forall₂ (Says (16383 * (0.026 + 3 * noise + 304 * bend) + 1))
      (airedSamples (fast_atan2f (K := ℝ)) x 0 turns) (airedMessages φ 0 turns) := by
  have same : List.Forall₂ (fun heard heard' : ℕ × Turn ι => heard = heard' ∧ 1 ≤ heard.1)
      (aired 0 turns) (aired 0 turns) :=
    List.forall₂_same.mpr fun heard mem => ⟨rfl, one_le_of_mem_aired warms heard mem⟩
  refine List.rel_flatMap same ?_
  rintro heard _ ⟨rfl, later⟩
  refine List.rel_map (R := Eq) ?_ (List.forall₂_same.mpr fun _ _ => rfl)
  rintro i _ rfl
  rw [Says, scale_eq]
  exact station.abs_reference_sub_le later narrow quiet even i

theorem length_airedMessages {ι : Type} (φ : ℕ → ℝ) (b : ℕ) (turns : List (Turn ι)) :
    (airedMessages φ b turns).length = (aired b turns).length * downSampleCnt :=
  length_flatMap_firsts _ _ _

/-- What a reader finds behind the calls of `writeSamples`. -/
theorem Station.says_run {x : ℕ → ℤ × ℤ} {A noise swing bend : ℝ} {φ : ℕ → ℝ}
    (station : Station x A noise swing bend φ) (narrow : swing ≤ 3 / 80)
    (quiet : noise ≤ 1 / 20) (even : bend ≤ 1 / 2000) {turns : List (Turn ℕ)}
    (warms : WarmsUp turns) (stores : ∀ heard ∈ aired 0 turns, downSampleCnt ≤ heard.2.outside)
    (size : 36 + 2 * (airedMessages φ 0 turns).length < 2 ^ 32) :
    ∃ samples, readMono16 (radioWav.run ((aired 0 turns).map
        (airedCall (fast_atan2f (K := ℝ)) x))).destruct.bytes = some ⟨44100, samples⟩ ∧
      List.Forall₂ (Says (16383 * (0.026 + 3 * noise + 304 * bend) + 1))
        (samples.map Int16.toInt) (airedMessages φ 0 turns) := by
  rw [length_airedMessages, ← length_airedSamples (fast_atan2f (K := ℝ)) x 0 turns] at size
  obtain ⟨samples, read, recorded⟩ := readMono16_run stores size
  refine ⟨samples, read, ?_⟩
  rw [recorded]
  exact station.says_airedSamples narrow quiet even warms

/-- The samples of a station as a radio of eight bits delivers them. -/
noncomputable def digitised (A : ℝ) (φ : ℕ → ℝ) (g : ℕ) : ℤ × ℤ :=
  let z := A * Complex.exp (φ g * Complex.I) * starRingEnd ℂ (exactOscillator g)
  (round (((128 : ℕ) : ℝ) * z.re), round (((128 : ℕ) : ℝ) * z.im))

theorem abs_scaled_round_sub_le (v : ℝ) : |scaled (round (((128 : ℕ) : ℝ) * v)) - v| ≤ 1 / 256 := by
  have near := abs_sub_round (((128 : ℕ) : ℝ) * v)
  push_cast at near
  rw [abs_sub_comm, abs_le] at near
  rw [scaled, abs_le]
  push_cast
  constructor <;> linarith

/-- Rounding is noise, the less of it the stronger the station. -/
theorem station_digitised {A swing bend : ℝ} {φ : ℕ → ℝ} (positive : 0 < A)
    (slow : ∀ g, |φ (g + 1) - φ g| ≤ swing)
    (steady : ∀ g, |φ (g + 2) - φ (g + 1) - (φ (g + 1) - φ g)| ≤ bend) :
    Station (digitised A φ) A (1 / (128 * A)) swing bend φ := by
  refine ⟨positive, fun g => ?_, slow, steady⟩
  have steps : A * (1 / (128 * A)) = 1 / 256 + 1 / 256 := by
    field_simp
    norm_num
  rw [steps]
  exact (Complex.norm_le_abs_re_add_abs_im _).trans
    (add_le_add (abs_scaled_round_sub_le _) (abs_scaled_round_sub_le _))

/-- A station that is not too strong fits eight bits. -/
theorem digitised_range {A : ℝ} (positive : 0 < A) (weak : 128 * A ≤ 127) (φ : ℕ → ℝ) (g : ℕ) :
    (-128 ≤ (digitised A φ g).1 ∧ (digitised A φ g).1 < 128) ∧
      -128 ≤ (digitised A φ g).2 ∧ (digitised A φ g).2 < 128 := by
  have range : ∀ {v : ℝ}, |v| ≤ A → -128 ≤ round (((128 : ℕ) : ℝ) * v) ∧
      round (((128 : ℕ) : ℝ) * v) < 128 := by
    intro v small
    obtain ⟨low, high⟩ := abs_le.mp small
    have near := abs_sub_round (((128 : ℕ) : ℝ) * v)
    push_cast at near ⊢
    obtain ⟨below, above⟩ := abs_le.mp near
    constructor
    · have cast : ((-129 : ℤ) : ℝ) < round (128 * v) := by
        push_cast
        linarith
      have integer := Int.cast_lt.mp cast
      omega
    · have cast : (round (128 * v) : ℝ) < (128 : ℤ) := by
        push_cast
        linarith
      exact Int.cast_lt.mp cast
  have size := norm_carrier positive φ g
  exact ⟨range ((Complex.abs_re_le_norm _).trans_eq size),
    range ((Complex.abs_im_le_norm _).trans_eq size)⟩

/-- The phase of a station that stays a little beside its frequency. -/
noncomputable def besidePhase (g : ℕ) : ℝ := ((g / 40 : ℚ) : ℝ)

/-- Such a station with half the full scale. -/
noncomputable def beside : ℕ → ℤ × ℤ := digitised ((1 / 2 : ℚ) : ℝ) besidePhase

theorem station_beside :
    Station beside ((1 / 2 : ℚ) : ℝ) (1 / (128 * ((1 / 2 : ℚ) : ℝ))) (1 / 40) 0 besidePhase := by
  have step : ∀ g, besidePhase (g + 1) - besidePhase g = 1 / 40 := by
    intro g
    unfold besidePhase
    push_cast
    ring
  refine station_digitised (by norm_num) (fun g => ?_) (fun g => ?_)
  · rw [step, abs_of_pos (by norm_num)]
  · rw [step, step, sub_self, abs_zero]

noncomputable def besideTurn (b : ℕ) (warmingUp : Bool) : Turn ℕ where
  samples := fun i => beside (sampleCnt * b + i)
  samplesRead := sampleCnt
  warmingUp := warmingUp
  outside := downSampleCnt

noncomputable def besideTurns : List (Turn ℕ) :=
  [besideTurn 0 true, besideTurn 1 false, besideTurn 2 false]

end SpectrogramServers.MyServer.Receiver
