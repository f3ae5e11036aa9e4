import SpectrogramServers.MyServer.FastAtan2
import SpectrogramServers.MyServer.ReceiverBlock

/-!
# What the receiver does not hear

A complex factor in front of all samples, an amplitude and a phase, does not change what
is demodulated.  A listener hears a station equally loud at every distance and whatever
the phase of the tuner is; this module proves it of the code, for every array of samples.

## Why

The chain is followed from its end.

* **`fast_atan2f` does not look at lengths** (`ScaleFree`): it gives the same angle for
  every positive multiple of a vector.
* **The discriminator** multiplies a sample with the conjugate of the one before.  Of a
  common factor `c` only `|c|²` is left, which is positive where `c` is not zero
  (`conjMul_complexMul`).
* **The first filter is linear** over the complex numbers and passes the factor on
  (`filtered_complexMul`).

So the demodulated values are equal, not just close, and with them everything that is
computed from them, the audio included.

## On arrays

`main` works on an array of interleaved numbers.  `rotated` replaces every complex sample
in it, and `processBlock_rotated` compares the two blocks on both platforms.  The factor
is any pair that is not zero; that the arithmetic is exact is what lets a product be
cancelled.
-/

namespace SpectrogramServers.MyServer.Receiver

universe u

variable {K : Type u} [Field K] [LinearOrder K] [FloorRing K]

/-! ## Complex factors -/

/-- The product of two complex numbers. -/
def complexMul (c z : K × K) : K × K := (c.1 * z.1 - c.2 * z.2, c.1 * z.2 + c.2 * z.1)

/-- The square of the length. -/
def normSquared (c : K × K) : K := c.1 * c.1 + c.2 * c.2

omit [FloorRing K] in
/-- A factor that is not zero has a positive length. -/
theorem normSquared_pos [IsStrictOrderedRing K] {c : K × K} (nonzero : c ≠ 0) :
    0 < normSquared c := by
  have part : c.1 ≠ 0 ∨ c.2 ≠ 0 := by
    by_contra none
    push Not at none
    exact nonzero (Prod.ext none.1 none.2)
  rw [normSquared]
  rcases part with first | second
  · exact add_pos_of_pos_of_nonneg (mul_self_pos.mpr first) (mul_self_nonneg c.2)
  · exact add_pos_of_nonneg_of_pos (mul_self_nonneg c.1) (mul_self_pos.mpr second)

omit [LinearOrder K] [FloorRing K] in
/-- The first filter is linear over the complex numbers. -/
theorem filtered_complexMul (c : K × K) (w : ℕ → K × K) (t : ℕ) :
    filtered (fun k => complexMul c (w k)) t = complexMul c (filtered w t) := by
  simp only [filtered, complexMul]
  ext
  · simp only [Prod.fst_sum, Prod.snd_sum, Finset.mul_sum, ← Finset.sum_sub_distrib]
    refine Finset.sum_congr rfl fun p _ => ?_
    ring
  · simp only [Prod.fst_sum, Prod.snd_sum, Finset.mul_sum, ← Finset.sum_add_distrib]
    refine Finset.sum_congr rfl fun p _ => ?_
    ring

omit [LinearOrder K] [FloorRing K] in
/-- The conjugate product keeps the square of the length of a common factor. -/
theorem conjMul_complexMul (c y z : K × K) :
    conjMul (complexMul c y) (complexMul c z) =
      (normSquared c * (conjMul y z).1, normSquared c * (conjMul y z).2) := by
  simp only [conjMul, complexMul, normSquared]
  ext <;> ring

/-- An angle function that does not look at the length of a vector.  This is all that the
results here need to know of `fast_atan2f`. -/
def ScaleFree (fast_atan2f : K → K → K) : Prop :=
  ∀ s, 0 < s → ∀ y x, fast_atan2f (s * y) (s * x) = fast_atan2f y x

omit [FloorRing K] in
/-- The discriminator does not hear a complex factor, since its angle function does not
hear the square of its length. -/
theorem discriminated_complexMul [IsStrictOrderedRing K] {fast_atan2f : K → K → K}
    (free : ScaleFree fast_atan2f) {c : K × K} (nonzero : c ≠ 0) (d : ℕ → K × K) :
    discriminated fast_atan2f (fun t => complexMul c (d t)) = discriminated fast_atan2f d := by
  funext t
  rw [discriminated, conjMul_complexMul, free _ (normSquared_pos nonzero), discriminated]

omit [FloorRing K] in
/-- **The chain does not hear a complex factor.** -/
theorem discriminated_filtered_complexMul [IsStrictOrderedRing K] {fast_atan2f : K → K → K}
    (free : ScaleFree fast_atan2f) {c : K × K} (nonzero : c ≠ 0) (w : ℕ → K × K) :
    discriminated fast_atan2f (filtered fun k => complexMul c (w k)) =
      discriminated fast_atan2f (filtered w) := by
  rw [← discriminated_complexMul free nonzero (filtered w)]
  congr 1
  funext t
  exact filtered_complexMul c w t

/-! ## Blocks -/

/-- The complex samples of an array. -/
def samplePairs (bufferShifted : CArray K bufferCount) (k : ℕ) : K × K :=
  ((bufferShifted.get? (2 * k)).getD 0, (bufferShifted.get? (2 * k + 1)).getD 0)

/-- The array with every complex sample `z` replaced by `c * z`. -/
def rotated (c : K × K) (bufferShifted : CArray K bufferCount) : CArray K bufferCount :=
  CArray.ofPairs fun k => complexMul c (samplePairs bufferShifted k)

omit [LinearOrder K] [FloorRing K] in
theorem holdsPairs_samplePairs (bufferShifted : CArray K bufferCount) :
    bufferShifted.HoldsPairs (historyCnt + sampleCnt) (samplePairs bufferShifted) := by
  intro k hk
  have pairs := bufferCount_eq
  rw [samplePairs, CArray.get?_of_lt _ (by omega), CArray.get?_of_lt _ (by omega)]
  exact ⟨rfl, rfl⟩

/-- **Amplitude and phase do not matter**: on both platforms a block of samples and the
block with a complex factor in front of all samples are demodulated to the same values and
the same audio. -/
theorem processBlock_rotated [IsStrictOrderedRing K] (platform : Platform) (c : K × K)
    (nonzero : c ≠ 0) (bufferShifted : CArray K bufferCount) :
    ∃ b b' : Block K, processBlock platform fast_atan2f bufferShifted = some b ∧
      processBlock platform fast_atan2f (rotated c bufferShifted) = some b' ∧
      b'.demodded = b.demodded ∧ b'.convert_to_pcm = b.convert_to_pcm ∧
        b'.downsampled_audio = b.downsampled_audio := by
  have free : ScaleFree (fast_atan2f : K → K → K) := fun s positive => fast_atan2f_scale positive
  obtain ⟨b, run, angles, filteredTwice, samples⟩ :=
    succeeds_processBlock platform fast_atan2f (holdsPairs_samplePairs bufferShifted)
  obtain ⟨b', run', angles', filteredTwice', samples'⟩ :=
    succeeds_processBlock platform fast_atan2f (CArray.holdsPairs_ofPairs
      (fun k => complexMul c (samplePairs bufferShifted k)) bufferCount_eq.ge)
  rw [discriminated_filtered_complexMul free nonzero] at angles' filteredTwice'
  rw [audio, discriminated_filtered_complexMul free nonzero] at samples'
  refine ⟨b, b', run, run', ?_, ?_, ?_⟩
  · funext i
    rw [angles'.cell i i.isLt, angles.cell i i.isLt]
  · funext i
    rw [filteredTwice'.cell i i.isLt, filteredTwice.cell i i.isLt]
  · funext i
    rw [samples'.cell i i.isLt, samples.cell i i.isLt, audio]

/-- Turning all samples by a quarter turn. -/
theorem processBlock_rotated_quarterTurn :
    ∃ b b' : Block ℚ, processBlock .portable fast_atan2f (fun _ => 1) = some b ∧
      processBlock .portable fast_atan2f (rotated (0, 1) fun _ => 1) = some b' ∧
      b'.demodded = b.demodded ∧ b'.convert_to_pcm = b.convert_to_pcm ∧
        b'.downsampled_audio = b.downsampled_audio :=
  processBlock_rotated .portable (0, 1) (by decide) fun _ => 1

end SpectrogramServers.MyServer.Receiver
