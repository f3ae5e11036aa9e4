import Mathlib.Algebra.Order.Floor.Ring
import SpectrogramServers.CloudServer.SpectrumColors

/-!
# The colours of the capture thread as a code

The capture thread of the cloud server colours a bin of the spectrum by its magnitude, on
a scale from silence to full level.  This module asks what a colour says about the
magnitude it was made from.

## The two ramps

Red and green come from two ramps that are clamped apart and meet in the middle of the
scale; blue is always 255.  At every place one of the two is at its end (`red_or_green`),
so their sum is one ramp over the whole scale, and this holds of the bytes as well,
truncation included (`red_add_green`).  A colour therefore says where on the scale its bin
is, up to 1/510.

Both ramps fall where the scale rises, and silence is at its bottom, so a louder bin has
no more red and no more green (`colors_antitone`).

## Conversions

The channels are converted to bytes by truncation, and a conversion of a value outside of
0 to 255 would not be defined.  On the clamped scale it does not happen (`redValue_range`,
`greenValue_range`).

The logarithm of silence is the IEEE `-inf`, which the clamp takes to the bottom of the
scale; `scalePlace` has this as its own case.  `Faithful` collects all of it, and
`faithful_magnitude` proves it of every magnitude that is not negative.
-/

namespace SpectrogramServers.CloudServer.SpectrumColors

universe u

/-! ## The two ramps -/

section Ramps

variable {K : Type u} [Field K] [LinearOrder K] [IsStrictOrderedRing K] [FloorSemiring K]

omit [IsStrictOrderedRing K] [FloorSemiring K] in
/-- The red ramp: it is at its end from the middle of the scale on. -/
theorem redShifter_eq (s : K) : redShifter s = min (s * 510) 255 := by
  unfold redShifter
  dsimp only
  split_ifs with above
  · exact (min_eq_right (le_of_lt above)).symm
  · exact (min_eq_left (not_lt.mp above)).symm

omit [IsStrictOrderedRing K] [FloorSemiring K] in
/-- The green ramp: it begins in the middle of the scale. -/
theorem greenMultiplier_eq (s : K) : greenMultiplier s = max (s - 0.5) 0 / 0.5 := by
  unfold greenMultiplier
  dsimp only
  split_ifs with below
  · rw [max_eq_right (le_of_lt below)]
  · rw [max_eq_left (not_lt.mp below)]

/-- The value that is converted to the red byte. -/
def redValue (s : K) : K := ((255 : ℕ) : K) - redShifter s

/-- The value that is converted to the green byte. -/
def greenValue (s : K) : K := ((255 : ℕ) : K) - greenMultiplier s * ((255 : ℕ) : K)

omit [IsStrictOrderedRing K] in
/-- The three channels, before and after the conversion to bytes. -/
theorem colors_eq (s : K) : colors s = ⟨uint8 (redValue s), uint8 (greenValue s), 255⟩ := by
  rw [colors, redValue, greenValue, Nat.cast_ofNat]

omit [FloorSemiring K] in
theorem redValue_antitone : Antitone (redValue : K → K) := by
  intro s t le
  rw [redValue, redValue, redShifter_eq, redShifter_eq]
  have scaled : s * 510 ≤ t * 510 := mul_le_mul_of_nonneg_right le (by norm_num)
  exact sub_le_sub_left (min_le_min_right 255 scaled) 255

theorem greenValue_antitone : Antitone (greenValue : K → K) := by
  intro s t le
  rw [greenValue, greenValue, greenMultiplier_eq, greenMultiplier_eq]
  have shifted : max (s - 0.5) 0 ≤ max (t - 0.5) 0 := max_le_max_right 0 (sub_le_sub_right le 0.5)
  have divided : max (s - 0.5) 0 / 0.5 ≤ max (t - 0.5) 0 / 0.5 :=
    div_le_div_of_nonneg_right shifted (by norm_num)
  exact sub_le_sub_left (mul_le_mul_of_nonneg_right divided (by norm_num)) 255

omit [FloorSemiring K] in
/-- On the scale neither conversion wraps. -/
theorem redValue_range {s : K} (nonneg : 0 ≤ s) : 0 ≤ redValue s ∧ redValue s ≤ 255 := by
  have upper : redShifter s ≤ 255 := by
    rw [redShifter_eq]
    exact min_le_right _ _
  have lower : 0 ≤ redShifter s := by
    rw [redShifter_eq]
    exact le_min (mul_nonneg nonneg (by norm_num)) (by norm_num)
  rw [redValue, Nat.cast_ofNat]
  exact ⟨by linarith, by linarith⟩

theorem greenValue_range {s : K} (le_one : s ≤ 1) : 0 ≤ greenValue s ∧ greenValue s ≤ 255 := by
  have upper : greenMultiplier s ≤ 1 := by
    rw [greenMultiplier_eq, div_le_one (by norm_num)]
    refine max_le ?_ (by norm_num)
    norm_num at le_one ⊢
    linarith
  have lower : 0 ≤ greenMultiplier s := by
    rw [greenMultiplier_eq]
    exact div_nonneg (le_max_right _ _) (by norm_num)
  rw [greenValue, Nat.cast_ofNat]
  exact ⟨by linarith, by linarith⟩

/-- A byte of a larger value is not smaller. -/
theorem toNat_uint8_mono {x y : K} (le : x ≤ y) (small : y < 256) :
    (uint8 x).toNat ≤ (uint8 y).toNat := by
  rw [toNat_uint8 (le.trans_lt small), toNat_uint8 small]
  exact Nat.floor_mono le

/-- **The ramps meet**: at every place of the scale one of the two is at its end. -/
theorem red_or_green (s : K) : (colors s).red = 0 ∨ (colors s).green = 255 := by
  rcases le_total (1 / 2) s with upper | lower
  · left
    rw [colors_upper upper]
  · right
    rw [colors_lower lower]

/-- **Red and green together are one ramp**, truncation included. -/
theorem red_add_green {s : K} (nonneg : 0 ≤ s) :
    (colors s).red.toNat + (colors s).green.toNat = ⌊510 * (1 - s)⌋₊ := by
  rcases le_total (1 / 2) s with upper | lower
  · have small : 510 - 510 * s < 256 := by linarith
    rw [colors_upper upper]
    show 0 + (uint8 (510 - 510 * s)).toNat = _
    rw [Nat.zero_add, toNat_uint8 small]
    congr 1
    ring
  · have small : 255 - 510 * s < 256 := by linarith
    have ramp : 510 * (1 - s) = 255 - 510 * s + (255 : ℕ) := by
      push_cast
      ring
    rw [colors_lower lower]
    show (uint8 (255 - 510 * s)).toNat + 255 = _
    rw [toNat_uint8 small, ramp, Nat.floor_add_natCast (by linarith)]

/-- A louder place of the scale has no more red and no more green. -/
theorem colors_antitone {s t : K} (nonneg : 0 ≤ s) (le : s ≤ t) (le_one : t ≤ 1) :
    (colors t).red.toNat ≤ (colors s).red.toNat ∧
      (colors t).green.toNat ≤ (colors s).green.toNat := by
  rw [colors_eq, colors_eq]
  refine ⟨toNat_uint8_mono (redValue_antitone le) ?_,
    toNat_uint8_mono (greenValue_antitone le) ?_⟩
  · exact (redValue_range nonneg).2.trans_lt (by norm_num)
  · exact (greenValue_range (le.trans le_one)).2.trans_lt (by norm_num)

end Ramps

/-! ## From a magnitude to its colour -/

noncomputable section

/-- Where a bin of the given magnitude is on the scale. -/
def scalePlace (magnitude : ℝ) : ℝ := clamp (normalized magnitude)

theorem scalePlace_zero : scalePlace 0 = 0 := clamp_normalized_zero

theorem clamp_real (s : ℝ) : clamp (s : EReal) = max 0 (min s 1) := by
  unfold clamp
  split_ifs with above below
  · have higher : 1 < s := by exact_mod_cast above
    rw [min_eq_right higher.le, max_eq_right zero_le_one]
  · have under : s < 0 := by exact_mod_cast below
    rw [min_eq_left (by linarith), max_eq_left under.le]
  · have low : ¬ s < 0 := fun under => below (by exact_mod_cast under)
    have high : ¬ 1 < s := fun higher => above (by exact_mod_cast higher)
    rw [EReal.toReal_coe, min_eq_left (not_lt.mp high), max_eq_right (not_lt.mp low)]

/-- The place of a bin that sounds, in terms of its level. -/
theorem scalePlace_of_ne_zero {x : ℝ} (sounds : x ≠ 0) :
    scalePlace x = max 0 (min (Real.logb 10 x / 8.5 + 1) 1) := by
  rw [scalePlace, normalized_of_ne_zero sounds, clamp_real]

/-- The clamp leaves nothing outside of the scale. -/
theorem scalePlace_range (x : ℝ) : 0 ≤ scalePlace x ∧ scalePlace x ≤ 1 := by
  rcases eq_or_ne x 0 with rfl | sounds
  · rw [scalePlace_zero]
    exact ⟨le_rfl, zero_le_one⟩
  · rw [scalePlace_of_ne_zero sounds]
    exact ⟨le_max_left _ _, max_le zero_le_one (min_le_right _ _)⟩

/-- A louder bin is not lower on the scale. -/
theorem scalePlace_mono {x y : ℝ} (nonneg : 0 ≤ x) (le : x ≤ y) :
    scalePlace x ≤ scalePlace y := by
  rcases nonneg.eq_or_lt with rfl | positive
  · rw [scalePlace_zero]
    exact (scalePlace_range y).1
  · have log : Real.logb 10 x ≤ Real.logb 10 y :=
      Real.logb_le_logb_of_le (by norm_num) positive le
    have place : Real.logb 10 x / 8.5 + 1 ≤ Real.logb 10 y / 8.5 + 1 :=
      add_le_add_left (div_le_div_of_nonneg_right log (by norm_num)) 1
    rw [scalePlace_of_ne_zero positive.ne', scalePlace_of_ne_zero (positive.trans_le le).ne']
    exact max_le_max_left 0 (min_le_min_right 1 place)

/-- Bins of one colour are at places less than 1/510 apart. -/
theorem abs_scalePlace_sub_lt {x y : ℝ}
    (same : colors (scalePlace x) = colors (scalePlace y)) :
    |scalePlace x - scalePlace y| < 1 / 510 := by
  obtain ⟨lowX, highX⟩ := scalePlace_range x
  obtain ⟨lowY, highY⟩ := scalePlace_range y
  have sums : ⌊510 * (1 - scalePlace x)⌋₊ = ⌊510 * (1 - scalePlace y)⌋₊ := by
    rw [← red_add_green lowX, ← red_add_green lowY, same]
  have near : |510 * (1 - scalePlace x) - 510 * (1 - scalePlace y)| < 1 := by
    apply Int.abs_sub_lt_one_of_floor_eq_floor
    rw [← Int.natCast_floor_eq_floor (by linarith), ← Int.natCast_floor_eq_floor (by linarith),
      sums]
  have scale : 510 * (1 - scalePlace x) - 510 * (1 - scalePlace y) =
      -510 * (scalePlace x - scalePlace y) := by ring
  rw [scale, abs_mul, abs_neg, abs_of_pos (by norm_num : (0 : ℝ) < 510)] at near
  linarith

/-- What a colour says about the magnitude it was made from. -/
structure Faithful (x : ℝ) : Prop where
  /-- Before the conversion the channels are in the range of a byte. -/
  red_range : 0 ≤ redValue (scalePlace x) ∧ redValue (scalePlace x) ≤ 255
  green_range : 0 ≤ greenValue (scalePlace x) ∧ greenValue (scalePlace x) ≤ 255
  blue : (colors (scalePlace x)).blue = 255
  ramp : (colors (scalePlace x)).red = 0 ∨ (colors (scalePlace x)).green = 255
  sum : (colors (scalePlace x)).red.toNat + (colors (scalePlace x)).green.toNat =
    ⌊510 * (1 - scalePlace x)⌋₊
  /-- The colour determines the place on the scale. -/
  place : ∀ y : ℝ, 0 ≤ y → colors (scalePlace x) = colors (scalePlace y) →
    |scalePlace x - scalePlace y| < 1 / 510
  /-- No louder bin is lighter. -/
  darker : ∀ y : ℝ, x ≤ y →
    (colors (scalePlace y)).red.toNat ≤ (colors (scalePlace x)).red.toNat ∧
      (colors (scalePlace y)).green.toNat ≤ (colors (scalePlace x)).green.toNat

/-- **The colour code.**  A colour is faithful at every magnitude, silence included: no
conversion wraps, red and green are one ramp, and louder bins come later in it. -/
theorem faithful_magnitude (x : ℝ) (nonneg : 0 ≤ x) : Faithful x := by
  obtain ⟨low, high⟩ := scalePlace_range x
  exact
    { red_range := redValue_range low
      green_range := greenValue_range high
      blue := rfl
      ramp := red_or_green _
      sum := red_add_green low
      place := fun y _ same => abs_scalePlace_sub_lt same
      darker := fun y le => colors_antitone low (scalePlace_mono nonneg le) (scalePlace_range y).2 }

/-- The code covers silence, whose logarithm is minus infinity. -/
theorem faithful_silence : Faithful 0 := faithful_magnitude 0 le_rfl

end

end SpectrogramServers.CloudServer.SpectrumColors
