import Mathlib.Algebra.BigOperators.Pi
import SpectrogramServers.Lib.Windows
import SpectrogramServers.MyServer.Receiver

/-!
# One block of the receiver

`Receiver` has the code that processes one block, with its arrays and index arithmetic.
This module says what it computes, as stages on streams.  `bufferShifted` is the beginning
of a stream of complex samples, and every array of the block is the beginning of what a
stage makes of it: `filtered`, `discriminated`, `pcm`, `quantised`, one after the other in
`audio`.

## Two platforms

With Accelerate the filtered samples are kept in two arrays and summed by `vDSP_dotprD`
with strides; without it they are interleaved in one array and summed in two loops.  Both
are compared with the stages and not with each other: `succeeds_processBlock` says of
either platform that no index is out of bounds and that the arrays hold the beginnings of
the same streams.

The one thing that had to be found is that `convert_to_pcm` starts at zero.  The portable
loop accumulates in it where the other one assigns.

## Why streams

The stages are windowed: a value depends on a window of the input that moves with it.  So
the whole chain takes 400 samples to one and does not depend on where it is started
(`equivariant_audio`), which is what makes consecutive blocks fit together.  On arrays
with a length each of these facts would need its own bounds.
-/

namespace SpectrogramServers.MyServer.Receiver

universe u

variable {K : Type u} [Field K]

/-! ## The stages -/

/-- The output of `filter_coeff_one` on the samples from `40 * t` on. -/
def filtered (w : ℕ → K × K) (t : ℕ) : K × K :=
  ∑ p : Fin filterLengthOne,
    ((w (stageOneDecimation * t + p)).1 * filter_coeff_one p,
      (w (stageOneDecimation * t + p)).2 * filter_coeff_one p)

/-- The complex product `conj(y) * z`. -/
def conjMul (y z : K × K) : K × K := (y.1 * z.1 + y.2 * z.2, y.1 * z.2 - y.2 * z.1)

/-- The angle from sample `t` to sample `t + 1`. -/
def discriminated (fast_atan2f : K → K → K) (d : ℕ → K × K) (t : ℕ) : K :=
  fast_atan2f (conjMul (d t) (d (t + 1))).2 (conjMul (d t) (d (t + 1))).1

/-- The output of `filter_coeff_two` on the angles from `t` on. -/
def pcm (a : ℕ → K) (t : ℕ) : K :=
  ∑ x : Fin filterLengthTwo, a (t + x) * filter_coeff_two x

/-- Every tenth value, as an audio sample. -/
def quantised [LinearOrder K] [FloorRing K] (y : ℕ → K) (j : ℕ) : ℤ :=
  quantise (y (stageTwoDecimation * j))

/-- The whole chain, from mixed samples to audio samples. -/
def audio [LinearOrder K] [FloorRing K] (fast_atan2f : K → K → K) (w : ℕ → K × K) : ℕ → ℤ :=
  quantised (pcm (discriminated fast_atan2f (filtered w)))

/-- The first filter takes 40 samples to one, wherever it starts. -/
theorem equivariant_filtered :
    Equivariant stageOneDecimation (filtered : (ℕ → K × K) → ℕ → K × K) :=
  equivariant_of_window (fun w => filtered w 0) fun w t => by simp [filtered, shift]

theorem equivariant_discriminated (fast_atan2f : K → K → K) :
    Equivariant 1 (discriminated fast_atan2f) :=
  equivariant_of_window (fun d => discriminated fast_atan2f d 0) fun d t => by
    simp [discriminated, shift]

theorem equivariant_pcm : Equivariant 1 (pcm : (ℕ → K) → ℕ → K) :=
  equivariant_of_window (fun a => pcm a 0) fun a t => by simp [pcm, shift]

/-- The quantiser takes 10 values to one, wherever it starts. -/
theorem equivariant_quantised [LinearOrder K] [FloorRing K] :
    Equivariant stageTwoDecimation (quantised : (ℕ → K) → ℕ → ℤ) :=
  equivariant_of_window (fun y => quantised y 0) fun y t => by simp [quantised, shift]

/-- **The chain is equivariant**: 40 * 10 samples to one, wherever it starts. -/
theorem equivariant_audio [LinearOrder K] [FloorRing K] (fast_atan2f : K → K → K) :
    Equivariant (stageOneDecimation * 1 * 1 * stageTwoDecimation) (audio fast_atan2f) :=
  equivariant_quantised.comp
    (equivariant_pcm.comp ((equivariant_discriminated fast_atan2f).comp equivariant_filtered))

/-! ## Sizes -/

/-- The complex samples a block keeps of the one before it. -/
def historyCnt : ℕ := filterLengthOne + filterLengthTwo * stageOneDecimation

theorem bufferOffset_eq : bufferOffset = 2 * historyCnt := rfl

theorem bufferCount_eq : bufferCount = 2 * (historyCnt + sampleCnt) := rfl

/-- The last window of the first filter ends where the buffer ends. -/
theorem window_inside {n p : ℕ} (hn : n < afterFirstFilterCnt + filterLengthTwo + 1)
    (hp : p < filterLengthOne) : stageOneDecimation * n + p < historyCnt + sampleCnt := by
  unfold afterFirstFilterCnt filterLengthTwo sampleCnt stageOneDecimation at hn
  unfold historyCnt stageOneDecimation filterLengthOne filterLengthTwo sampleCnt at *
  omega

/-! ## The first filter -/

section Filter

variable {bufferShifted : CArray K bufferCount} {w : ℕ → K × K}

omit [Field K] in
/-- The cells of window `n`, as the two loops index them. -/
theorem window_cells (h : bufferShifted.HoldsPairs (historyCnt + sampleCnt) w) {n : ℕ}
    (hn : n < afterFirstFilterCnt + filterLengthTwo + 1) (p : Fin filterLengthOne) :
    bufferShifted.get? (n * stageOneDecimation * 2 + 2 * p) =
        some (w (stageOneDecimation * n + p)).1 ∧
      bufferShifted.get? (n * stageOneDecimation * 2 + 1 + 2 * p) =
        some (w (stageOneDecimation * n + p)).2 := by
  obtain ⟨first, second⟩ := h _ (window_inside hn p.isLt)
  have even : n * stageOneDecimation * 2 + 2 * p = 2 * (stageOneDecimation * n + p) := by ring
  have odd : n * stageOneDecimation * 2 + 1 + 2 * p =
      2 * (stageOneDecimation * n + p) + 1 := by ring
  rw [even, odd]
  exact ⟨first, second⟩

/-- The two sums of the portable loop are one output of the filter. -/
theorem filterSums_eq (h : bufferShifted.HoldsPairs (historyCnt + sampleCnt) w) {n : ℕ}
    (hn : n < afterFirstFilterCnt + filterLengthTwo + 1) :
    filterSums bufferShifted n = some (filtered w n) := by
  unfold filterSums
  rw [forUp_sum (fun p : Fin filterLengthOne =>
    ((w (stageOneDecimation * n + p)).1 * filter_coeff_one p,
      (w (stageOneDecimation * n + p)).2 * filter_coeff_one p))]
  · rw [Prod.mk_zero_zero, zero_add]
    rfl
  · intro p sums
    obtain ⟨re, im⟩ := window_cells h hn p
    rw [re, im, filter_coeff_one.get?_fin]
    rfl

/-- Without Accelerate the filtered samples stand in `decimatedFilter`. -/
theorem succeeds_filterPortable (h : bufferShifted.HoldsPairs (historyCnt + sampleCnt) w)
    (block : Block K) :
    Succeeds (filterPortable bufferShifted block) fun b =>
      b.decimatedFilter.HoldsPairs (afterFirstFilterCnt + filterLengthTwo + 1) (filtered w) ∧
        b.demodded = block.demodded ∧ b.convert_to_pcm = block.convert_to_pcm := by
  refine Succeeds.bind (CArray.succeeds_fillPairs (filtered w) block.decimatedFilter ?_)
    fun a ha => .pure ⟨ha, rfl, rfl⟩
  intro n a hn
  have inside : 2 * n + 1 < afterFirstFilterCnt * 2 + filterLengthTwo * 2 + 1 * 2 := by omega
  refine succeeds_bind_of_eq (filterSums_eq h hn) ?_
  refine (a.succeeds_set? _ (by omega)).bind fun b hb => ?_
  refine (b.succeeds_set? _ inside).mono fun c hc => ⟨?_, ?_, ?_⟩
  · rw [hc, if_neg (by omega), hb, if_pos rfl]
  · rw [hc, if_pos rfl]
  · intro j hj
    rw [hc, if_neg (by omega), hb, if_neg (by omega)]

/-- With strides of two and one, `vDSP_dotprD` on one part of window `n` is that
part of the filter's output. -/
theorem vDSP_dotprD_eq {m n count : ℕ} {a : CArray K m} {b : CArray K n}
    {i strideA j strideB : ℕ} (x y : Fin count → K)
    (left : ∀ p : Fin count, a.get? (i + p * strideA) = some (x p))
    (right : ∀ p : Fin count, b.get? (j + p * strideB) = some (y p)) :
    vDSP_dotprD a i strideA b j strideB count = some (∑ p, x p * y p) := by
  unfold vDSP_dotprD
  rw [forUp_sum fun p => x p * y p]
  · rw [zero_add]
  · intro p sum
    rw [left, right]
    rfl

/-- With Accelerate they stand in the two arrays for real and imaginary parts. -/
theorem succeeds_filterApple (h : bufferShifted.HoldsPairs (historyCnt + sampleCnt) w)
    (block : Block K) :
    Succeeds (filterApple bufferShifted block) fun b =>
      b.realDecimatedFilter.Holds (afterFirstFilterCnt + filterLengthTwo + 1)
          (fun n => (filtered w n).1) ∧
        b.imagDecimatedFilter.Holds (afterFirstFilterCnt + filterLengthTwo + 1)
          (fun n => (filtered w n).2) ∧
        b.demodded = block.demodded ∧ b.convert_to_pcm = block.convert_to_pcm := by
  refine succeeds_forUp_zero (fun n (b : Block K) =>
    b.realDecimatedFilter.Holds n (fun n => (filtered w n).1) ∧
      b.imagDecimatedFilter.Holds n (fun n => (filtered w n).2) ∧
      b.demodded = block.demodded ∧ b.convert_to_pcm = block.convert_to_pcm)
    ⟨fun _ hi => absurd hi (Nat.not_lt_zero _), fun _ hi => absurd hi (Nat.not_lt_zero _),
      rfl, rfl⟩ ?_
  rintro n b hn ⟨real, imag, demodded, pcm⟩
  have coefficients : ∀ p : Fin filterLengthOne,
      (filter_coeff_one : CArray K filterLengthOne).get? (0 + p * 1) =
        some (filter_coeff_one p) := by
    intro p
    rw [Nat.zero_add, Nat.mul_one]
    exact filter_coeff_one.get?_fin p
  have re : vDSP_dotprD bufferShifted (n * stageOneDecimation * 2) 2 filter_coeff_one 0 1
      filterLengthOne = some (filtered w n).1 := by
    rw [vDSP_dotprD_eq (fun p : Fin filterLengthOne => (w (stageOneDecimation * n + p)).1)
      filter_coeff_one _ coefficients]
    · rw [filtered, Prod.fst_sum]
    · intro p
      rw [Nat.mul_comm (p : ℕ) 2]
      exact (window_cells h hn p).1
  have im : vDSP_dotprD bufferShifted (n * stageOneDecimation * 2 + 1) 2 filter_coeff_one 0 1
      filterLengthOne = some (filtered w n).2 := by
    rw [vDSP_dotprD_eq (fun p : Fin filterLengthOne => (w (stageOneDecimation * n + p)).2)
      filter_coeff_one _ coefficients]
    · rw [filtered, Prod.snd_sum]
    · intro p
      rw [Nat.mul_comm (p : ℕ) 2]
      exact (window_cells h hn p).2
  refine succeeds_bind_of_eq re ?_
  refine (b.realDecimatedFilter.succeeds_set? _ hn).bind fun real' hreal => ?_
  refine succeeds_bind_of_eq im ?_
  refine (b.imagDecimatedFilter.succeeds_set? _ hn).bind fun imag' himag => ?_
  exact .pure ⟨real.set hreal, imag.set himag, demodded, pcm⟩

end Filter

/-! ## The demodulator -/

section Demodulator

variable {block : Block K} {d : ℕ → K × K} (fast_atan2f : K → K → K)

/-- The count of the demodulating loop. -/
theorem samplesFiltered_sub_one :
    samplesFiltered - 1 = afterFirstFilterCnt + filterLengthTwo := rfl

/-- Without Accelerate the angles are computed from the interleaved array. -/
theorem succeeds_demodulatePortable
    (h : block.decimatedFilter.HoldsPairs (afterFirstFilterCnt + filterLengthTwo + 1) d) :
    Succeeds (demodulatePortable fast_atan2f block) fun b =>
      b.demodded.Holds (afterFirstFilterCnt + filterLengthTwo) (discriminated fast_atan2f d) ∧
        b.convert_to_pcm = block.convert_to_pcm := by
  refine Succeeds.bind (CArray.succeeds_fill (discriminated fast_atan2f d) block.demodded ?_)
    fun a ha => .pure ⟨ha, rfl⟩
  intro i a hi _
  rw [samplesFiltered_sub_one] at hi
  obtain ⟨undelayedReal, undelayedComplex⟩ := h i (by omega)
  obtain ⟨delayedReal, delayedComplex⟩ := h (i + 1) (by omega)
  refine succeeds_bind_of_eq undelayedReal (succeeds_bind_of_eq undelayedComplex
    (succeeds_bind_of_eq delayedReal (succeeds_bind_of_eq delayedComplex ?_)))
  have angle : discriminated fast_atan2f d i =
      fast_atan2f ((d i).1 * (d (i + 1)).2 + -1 * (d i).2 * (d (i + 1)).1)
        ((d i).1 * (d (i + 1)).1 - -1 * (d i).2 * (d (i + 1)).2) := by
    unfold discriminated conjMul
    congr 1 <;> ring
  rw [angle]
  exact a.succeeds_set?_cell _ hi

/-- With Accelerate they are computed from the two arrays for real and imaginary parts. -/
theorem succeeds_demodulateApple
    (real : block.realDecimatedFilter.Holds (afterFirstFilterCnt + filterLengthTwo + 1)
      fun n => (d n).1)
    (imag : block.imagDecimatedFilter.Holds (afterFirstFilterCnt + filterLengthTwo + 1)
      fun n => (d n).2) :
    Succeeds (demodulateApple fast_atan2f block) fun b =>
      b.demodded.Holds (afterFirstFilterCnt + filterLengthTwo) (discriminated fast_atan2f d) ∧
        b.convert_to_pcm = block.convert_to_pcm := by
  refine Succeeds.bind (CArray.succeeds_fill (discriminated fast_atan2f d) block.demodded ?_)
    fun a ha => .pure ⟨ha, rfl⟩
  intro i a hi _
  rw [samplesFiltered_sub_one] at hi
  refine succeeds_bind_of_eq (real i (by omega)) (succeeds_bind_of_eq (imag i (by omega))
    (succeeds_bind_of_eq (real (i + 1) (by omega))
      (succeeds_bind_of_eq (imag (i + 1) (by omega)) ?_)))
  have angle : discriminated fast_atan2f d i =
      fast_atan2f ((d i).1 * (d (i + 1)).2 + -(d i).2 * (d (i + 1)).1)
        ((d i).1 * (d (i + 1)).1 - -(d i).2 * (d (i + 1)).2) := by
    unfold discriminated conjMul
    congr 1 <;> ring
  rw [angle]
  exact a.succeeds_set?_cell _ hi

/-- **Both platforms demodulate the same stream.** -/
theorem succeeds_demodulate (platform : Platform) {bufferShifted : CArray K bufferCount}
    {w : ℕ → K × K} (h : bufferShifted.HoldsPairs (historyCnt + sampleCnt) w)
    (block : Block K) :
    Succeeds (demodulate platform fast_atan2f bufferShifted block) fun b =>
      b.demodded.Holds (afterFirstFilterCnt + filterLengthTwo)
          (discriminated fast_atan2f (filtered w)) ∧
        b.convert_to_pcm = block.convert_to_pcm := by
  cases platform with
  | portable =>
      unfold demodulate
      refine (succeeds_filterPortable h block).bind ?_
      rintro b ⟨samples, -, unchanged⟩
      refine (succeeds_demodulatePortable fast_atan2f samples).mono ?_
      rintro c ⟨angles, kept⟩
      exact ⟨angles, kept.trans unchanged⟩
  | apple =>
      unfold demodulate
      refine (succeeds_filterApple h block).bind ?_
      rintro b ⟨real, imag, -, unchanged⟩
      refine (succeeds_demodulateApple fast_atan2f real imag).mono ?_
      rintro c ⟨angles, kept⟩
      exact ⟨angles, kept.trans unchanged⟩

end Demodulator

/-! ## The second filter and the quantiser -/

section Audio

variable {block : Block K} {a : ℕ → K}

/-- The last window of the second filter ends where `demodded` ends. -/
theorem pcm_inside {i x : ℕ} (hi : i < afterFirstFilterCnt) (hx : x < filterLengthTwo) :
    i + x < afterFirstFilterCnt + filterLengthTwo := by omega

/-- The accumulating loop adds up one output of the filter in its cell. -/
theorem succeeds_accumulatePcm
    {demodded : CArray K (afterFirstFilterCnt + filterLengthTwo)}
    (h : demodded.Holds (afterFirstFilterCnt + filterLengthTwo) a) {i : ℕ}
    (hi : i < afterFirstFilterCnt) {convert_to_pcm : CArray K afterFirstFilterCnt}
    (zero : convert_to_pcm.get? i = some 0) :
    Succeeds (accumulatePcm demodded (filterLengthTwo + i) convert_to_pcm) fun b =>
      b.get? i = some (pcm a i) ∧ ∀ j, j ≠ i → b.get? j = convert_to_pcm.get? j := by
  unfold accumulatePcm pcm
  rw [Nat.add_sub_cancel_left, Finset.sum_fin_eq_sum_range]
  refine succeeds_forUp_zero (fun x (b : CArray K afterFirstFilterCnt) =>
    b.get? i = some (∑ y ∈ Finset.range x, if hy : y < filterLengthTwo then
      a (i + y) * filter_coeff_two ⟨y, hy⟩ else 0) ∧
      ∀ j, j ≠ i → b.get? j = convert_to_pcm.get? j) ?_ ?_
  · rw [Finset.sum_range_zero]
    exact ⟨zero, fun j _ => rfl⟩
  · rintro x b hx ⟨sum, others⟩
    refine succeeds_bind_of_eq sum (succeeds_bind_of_eq (h _ (pcm_inside hi hx))
      (succeeds_bind_of_eq (filter_coeff_two.get?_of_lt hx) ?_))
    rw [Finset.sum_range_succ, dif_pos hx]
    refine (b.succeeds_set?_cell _ hi).mono ?_
    rintro c ⟨written, unchanged⟩
    exact ⟨written, fun j hj => (unchanged j hj).trans (others j hj)⟩

/-- **Both platforms filter the same values** when `convert_to_pcm` starts at
zero: the portable loop accumulates in it. -/
theorem succeeds_filterPcm (platform : Platform)
    {demodded : CArray K (afterFirstFilterCnt + filterLengthTwo)}
    (h : demodded.Holds (afterFirstFilterCnt + filterLengthTwo) a) {i : ℕ}
    (hi : i < afterFirstFilterCnt) {convert_to_pcm : CArray K afterFirstFilterCnt}
    (zero : convert_to_pcm.get? i = some 0) :
    Succeeds (filterPcm platform demodded (filterLengthTwo + i) convert_to_pcm) fun b =>
      b.get? i = some (pcm a i) ∧ ∀ j, j ≠ i → b.get? j = convert_to_pcm.get? j := by
  cases platform with
  | portable => exact succeeds_accumulatePcm h hi zero
  | apple =>
      unfold filterPcm
      rw [Nat.add_sub_cancel_left]
      -- the sum is computed apart and stored once, so the old value does not matter
      have sum : vDSP_dotprD demodded i 1 filter_coeff_two 0 1 filterLengthTwo =
          some (pcm a i) := by
        refine vDSP_dotprD_eq (fun x : Fin filterLengthTwo => a (i + x)) filter_coeff_two ?_ ?_
        · intro x
          rw [Nat.mul_one]
          exact h _ (pcm_inside hi x.isLt)
        · intro x
          rw [Nat.zero_add, Nat.mul_one]
          exact filter_coeff_two.get?_fin x
      refine succeeds_bind_of_eq sum ?_
      exact convert_to_pcm.succeeds_set?_cell _ hi

/-- The second filter, over the whole of `demodded`. -/
theorem succeeds_filterTwo (platform : Platform)
    (h : block.demodded.Holds (afterFirstFilterCnt + filterLengthTwo) a)
    (zero : block.convert_to_pcm.Holds afterFirstFilterCnt fun _ => 0) :
    Succeeds (filterTwo platform block) fun b =>
      b.demodded = block.demodded ∧ b.convert_to_pcm.Holds afterFirstFilterCnt (pcm a) := by
  unfold filterTwo
  rw [forUp_eq_forUp_zero, samplesFiltered_sub_one, Nat.add_sub_cancel]
  refine Succeeds.bind (CArray.succeeds_fill (pcm a) block.convert_to_pcm ?_)
    fun c hc => .pure ⟨rfl, hc⟩
  intro i c hi untouched
  exact succeeds_filterPcm platform h hi (untouched.trans (zero i hi))

/-- The last loop keeps every tenth value, as an audio sample. -/
theorem succeeds_downsample [LinearOrder K] [FloorRing K] {y : ℕ → K}
    (h : block.convert_to_pcm.Holds afterFirstFilterCnt y) :
    Succeeds (downsample block) fun b =>
      b.demodded = block.demodded ∧ b.convert_to_pcm = block.convert_to_pcm ∧
        b.downsampled_audio.Holds downSampleCnt (quantised y) := by
  refine Succeeds.bind (CArray.succeeds_fill (quantised y) block.downsampled_audio ?_)
    fun c hc => .pure ⟨rfl, rfl, hc⟩
  intro i c hi _
  have inside : i * stageTwoDecimation < afterFirstFilterCnt := by
    unfold stageTwoDecimation at hi ⊢
    omega
  refine succeeds_bind_of_eq (h _ inside) ?_
  rw [quantised, Nat.mul_comm]
  exact c.succeeds_set?_cell _ hi

/-- **A block computes the beginning of the chain.**  On both platforms no index
is out of bounds, and the arrays hold what the stages make of the stream that
`bufferShifted` is the beginning of. -/
theorem succeeds_processBlock [LinearOrder K] [FloorRing K] (platform : Platform)
    (fast_atan2f : K → K → K) {bufferShifted : CArray K bufferCount} {w : ℕ → K × K}
    (h : bufferShifted.HoldsPairs (historyCnt + sampleCnt) w) :
    Succeeds (processBlock platform fast_atan2f bufferShifted) fun b =>
      b.demodded.Holds (afterFirstFilterCnt + filterLengthTwo)
          (discriminated fast_atan2f (filtered w)) ∧
        b.convert_to_pcm.Holds afterFirstFilterCnt
          (pcm (discriminated fast_atan2f (filtered w))) ∧
        b.downsampled_audio.Holds downSampleCnt (audio fast_atan2f w) := by
  refine (succeeds_demodulate fast_atan2f platform h Block.cleared).bind ?_
  rintro b ⟨angles, cleared⟩
  have zero : b.convert_to_pcm.Holds afterFirstFilterCnt fun _ => 0 := by
    rw [cleared]
    exact fun i hi => CArray.get?_of_lt _ hi
  refine (succeeds_filterTwo platform angles zero).bind ?_
  rintro c ⟨sameAngles, filteredTwice⟩
  refine (succeeds_downsample filteredTwice).mono ?_
  rintro e ⟨sameAngles', samePcm, samples⟩
  rw [sameAngles', sameAngles, samePcm]
  exact ⟨angles, filteredTwice, samples⟩

end Audio

end SpectrogramServers.MyServer.Receiver
