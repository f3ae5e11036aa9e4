import Mathlib.Analysis.SpecialFunctions.Log.Base
import Mathlib.Data.EReal.Inv
import Mathlib.Algebra.Order.Floor.Semiring

/-!
# The colours of a spectrum

A capture thread turns each bin of a transform into three bytes: the magnitude
becomes a logarithm, the logarithm a number `spectrum` between 0 and 1, and that a
colour from white over cyan to blue.  Arithmetic is exact here, so a `double` is a
real number; the conversion to `uint8_t` truncates.

The colours are functions over any ordered field with a floor (`colors`), and have
two closed forms, one for each half of the scale (`colors_upper`, `colors_lower`).
Where a bin is on the scale takes a logarithm, so it is in the reals, and in the
extended reals before the clamps: the logarithm of a bin without magnitude is
minus infinity, and only the lower clamp brings it back (`clamp_normalized_zero`).

`level` is what the scale is meant to show, the level of a bin in dBFS.  Since the
normaliser 85 divides `10 * log10`, the scale spans 170 dB (`clamp_normalized`).
-/

namespace SpectrogramServers.CloudServer.SpectrumColors

universe u

section Ramps

variable {K : Type u} [Field K] [LinearOrder K] [IsStrictOrderedRing K] [FloorSemiring K]

/-- The conversion of a `double` to a `uint8_t`, which truncates. -/
def uint8 (x : K) : UInt8 := UInt8.ofNat ⌊x⌋₊

/-- Three bytes of `colors`. -/
@[ext] structure Pixel where
  red : UInt8
  green : UInt8
  blue : UInt8
  deriving DecidableEq

def redShifter (spectrum : K) : K :=
  let redShifter := spectrum * 510
  if redShifter > 255 then 255 else redShifter

def greenMultiplier (spectrum : K) : K :=
  let greenMultiplier := spectrum - 0.5
  let greenMultiplier := if greenMultiplier < 0 then 0 else greenMultiplier
  greenMultiplier / 0.5

/-- The bytes `colors[j*3]`, `colors[j*3 + 1]` and `colors[j*3 + 2]`. -/
def colors (spectrum : K) : Pixel where
  red := uint8 (255 - redShifter spectrum)
  green := uint8 (255 - greenMultiplier spectrum * 255)
  blue := 255

theorem toNat_uint8 {x : K} (h : x < 256) : (uint8 x).toNat = ⌊x⌋₊ := by
  have small : ⌊x⌋₊ < 256 := by
    rw [Nat.floor_lt' (by decide)]
    exact_mod_cast h
  rw [uint8, UInt8.toNat_ofNat', Nat.mod_eq_of_lt small]

/-- The upper half of the scale: red is 0 and green falls. -/
theorem colors_upper {s : K} (h : 1 / 2 ≤ s) : colors s = ⟨0, uint8 (510 - 510 * s), 255⟩ := by
  have red : redShifter s = 255 := by
    unfold redShifter
    dsimp only
    split_ifs with above
    · rfl
    · linarith
  have green : greenMultiplier s * 255 = 510 * s - 255 := by
    unfold greenMultiplier
    dsimp only
    rw [if_neg (by norm_num; linarith)]
    ring
  rw [colors, red, green, sub_self]
  ext1
  · simp [uint8]
  · apply congrArg uint8
    ring
  · rfl

/-- The lower half: green is 255 and red falls. -/
theorem colors_lower {s : K} (h : s ≤ 1 / 2) : colors s = ⟨uint8 (255 - 510 * s), 255, 255⟩ := by
  have red : redShifter s = 510 * s := by
    unfold redShifter
    dsimp only
    rw [if_neg (by linarith), mul_comm]
  have green : greenMultiplier s = 0 := by
    unfold greenMultiplier
    dsimp only
    split_ifs with below
    · rw [zero_div]
    · have half : s - 0.5 = 0 := by norm_num at below ⊢; linarith
      rw [half, zero_div]
  rw [colors, red, green, zero_mul, sub_zero]
  ext1
  · rfl
  · show uint8 255 = 255
    simp [uint8]
  · rfl

end Ramps

/-! ## From a bin to its place on the scale -/

noncomputable section

/-- `log10` of a number that is not negative, as IEEE has it. -/
def log10 (x : ℝ) : EReal := if x = 0 then ⊥ else (Real.logb 10 x : ℝ)

def logNormalizer : ℝ := 85

/-- `spectrum[j]` when it is a magnitude. -/
def magnitude (fft_out : ℝ × ℝ) : ℝ :=
  Real.sqrt (fft_out.1 / 2048 * (fft_out.1 / 2048) + fft_out.2 / 2048 * (fft_out.2 / 2048))

/-- What stands in for a magnitude of 0 is a quotient of integers. -/
def nonzero (magnitude : ℝ) : ℝ := if magnitude = 0 then ((1 / 32768 : ℤ) : ℝ) else magnitude

/-- `spectrum[j]` before it is clamped. -/
def normalized (magnitude : ℝ) : EReal :=
  ((10 : ℝ) : EReal) * log10 (nonzero magnitude) / (logNormalizer : EReal) + ((1 : ℝ) : EReal)

/-- The two clamps. -/
def clamp (spectrum : EReal) : ℝ :=
  if spectrum > 1 then 1 else if spectrum < 0 then 0 else spectrum.toReal

/-- The bytes the capture thread writes for a bin. -/
def binColors (fft_out : ℝ × ℝ) : Pixel := colors (clamp (normalized (magnitude fft_out)))

/-- The level in dBFS of a bin: full scale is 2048. -/
def level (fft_out : ℝ × ℝ) : ℝ :=
  20 * Real.logb 10 (Real.sqrt (fft_out.1 ^ 2 + fft_out.2 ^ 2) / 2048)

/-- The level of a bin that is real. -/
theorem level_real {x : ℝ} (nonneg : 0 ≤ x) : level (x, 0) = 20 * Real.logb 10 (x / 2048) := by
  have root : Real.sqrt ((x, (0 : ℝ)).1 ^ 2 + (x, (0 : ℝ)).2 ^ 2) = x := by
    dsimp only
    rw [zero_pow two_ne_zero, add_zero, Real.sqrt_sq nonneg]
  rw [level, root]

theorem magnitude_eq (fft_out : ℝ × ℝ) :
    magnitude fft_out = Real.sqrt (fft_out.1 ^ 2 + fft_out.2 ^ 2) / 2048 := by
  have scale : fft_out.1 / 2048 * (fft_out.1 / 2048) + fft_out.2 / 2048 * (fft_out.2 / 2048) =
      (fft_out.1 ^ 2 + fft_out.2 ^ 2) / 2048 ^ 2 := by ring
  rw [magnitude, scale, Real.sqrt_div' _ (by norm_num), Real.sqrt_sq (by norm_num)]

/-- Only silence has magnitude 0. -/
theorem magnitude_ne_zero {fft_out : ℝ × ℝ} (sounds : fft_out ≠ 0) : magnitude fft_out ≠ 0 := by
  rw [magnitude_eq]
  intro zero
  apply sounds
  have squares : fft_out.1 ^ 2 + fft_out.2 ^ 2 = 0 := by
    have root : Real.sqrt (fft_out.1 ^ 2 + fft_out.2 ^ 2) = 0 := by linarith
    rwa [Real.sqrt_eq_zero (by positivity)] at root
  obtain ⟨re, im⟩ := (add_eq_zero_iff_of_nonneg (sq_nonneg _) (sq_nonneg _)).mp squares
  ext1
  · exact pow_eq_zero_iff two_ne_zero |>.mp re
  · exact pow_eq_zero_iff two_ne_zero |>.mp im

theorem normalized_of_ne_zero {x : ℝ} (h : x ≠ 0) :
    normalized x = ((Real.logb 10 x / 8.5 + 1 : ℝ) : EReal) := by
  rw [normalized, nonzero, if_neg h, log10, if_neg h, logNormalizer, ← EReal.coe_mul,
    ← EReal.coe_div, ← EReal.coe_add]
  congr 2
  ring

/-- **Silence is at the bottom of the scale**: the integer quotient is 0, its
logarithm minus infinity, and the clamp makes that 0. -/
theorem clamp_normalized_zero : clamp (normalized 0) = 0 := by
  have quotient : ((1 / 32768 : ℤ) : ℝ) = 0 := by norm_num
  have bottom : normalized 0 = ⊥ := by
    rw [normalized, nonzero, if_pos rfl, quotient, log10, if_pos rfl, logNormalizer,
      EReal.coe_mul_bot_of_pos (by norm_num), EReal.bot_div_of_pos_ne_top, EReal.bot_add]
    · exact_mod_cast (by norm_num : (0 : ℝ) < 85)
    · exact EReal.coe_ne_top 85
  rw [bottom, clamp, if_neg (by simp), if_pos (by simp)]

theorem clamp_coe {s : ℝ} (nonneg : 0 ≤ s) (le_one : s ≤ 1) : clamp (s : EReal) = s := by
  rw [clamp, if_neg, if_neg, EReal.toReal_coe]
  · exact not_lt.mpr (by exact_mod_cast nonneg)
  · exact not_lt.mpr (by exact_mod_cast le_one)

/-- **The scale of the capture thread**: 0 dBFS at its top and -170 dBFS at its
bottom. -/
theorem clamp_normalized {fft_out : ℝ × ℝ} (sounds : fft_out ≠ 0)
    (low : -170 ≤ level fft_out) (high : level fft_out ≤ 0) :
    clamp (normalized (magnitude fft_out)) = level fft_out / 170 + 1 := by
  have scale : Real.logb 10 (magnitude fft_out) / 8.5 + 1 = level fft_out / 170 + 1 := by
    rw [level, magnitude_eq]
    ring
  rw [normalized_of_ne_zero (magnitude_ne_zero sounds), scale, clamp_coe]
  · linarith
  · linarith

/-- From 0 down to -85 dBFS green rises, three units for each decibel. -/
theorem binColors_upper {fft_out : ℝ × ℝ} (sounds : fft_out ≠ 0)
    (low : -85 ≤ level fft_out) (high : level fft_out ≤ 0) :
    binColors fft_out = ⟨0, uint8 (-3 * level fft_out), 255⟩ := by
  rw [binColors, clamp_normalized sounds (by linarith) high, colors_upper (by linarith)]
  ext1
  · rfl
  · apply congrArg uint8
    ring
  · rfl

/-- Below, red rises. -/
theorem binColors_lower {fft_out : ℝ × ℝ} (sounds : fft_out ≠ 0)
    (low : -170 ≤ level fft_out) (high : level fft_out ≤ -85) :
    binColors fft_out = ⟨uint8 (-3 * level fft_out - 255), 255, 255⟩ := by
  rw [binColors, clamp_normalized sounds low (by linarith), colors_lower (by linarith)]
  ext1
  · apply congrArg uint8
    ring
  · rfl
  · rfl

end

end SpectrogramServers.CloudServer.SpectrumColors
