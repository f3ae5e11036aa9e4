import Mathlib.Analysis.SpecialFunctions.Log.Base
import SpectrogramServers.MyServer.Spectrogram

/-!
# The grey level of a bin

`writeToBuffer` turns the modulus of a bin into decibels below full scale and maps -80
dBFS to black and 0 dBFS to white.  A louder bin should not be darker than a quieter one.

## Where the map goes on

Above 0 dBFS the level is clamped.  Below -80 dBFS it is not: the map goes on to negative
numbers, `abs` makes them positive, and the conversion to `uint8_t` cuts them off.  So
what is quieter than black becomes brighter again, over and over.  And a bin without any
magnitude is given the modulus 0.2048 for its logarithm, which is -80 dB before the
division by 2048 and -14 dB after it: silence comes out at level 211.

## Which bins are in their place

`Graded` says of a bin that no louder one is darker, and that it is white above 0 dBFS.
It is shown in its place (`Shown`) down to half a grey level below -80 dBFS, and below
that only where it happens to come out black: once in every 256 grey levels, for the width
of one.  `graded_iff_shown` is exact over all moduli, silence included.

## Rounding

The exact logarithm takes the place of `log10`, and `round` is C's, away from zero at the
halves.  Most of the lemmas here move between the three scales, modulus, decibels and grey
levels; all three are monotone into each other, so an interval on one is an interval on
the others.
-/

namespace SpectrogramServers.MyServer.Spectrogram

universe u

/-! ## Rounding -/

section Round

variable {K : Type u} [Field K] [LinearOrder K] [IsStrictOrderedRing K] [FloorRing K]

omit [IsStrictOrderedRing K] in
theorem round_of_nonneg {x : K} (nonneg : 0 ≤ x) : round x = ⌊x + 1 / 2⌋ := by
  rw [round, if_pos nonneg, Nat.cast_ofNat]

omit [IsStrictOrderedRing K] in
theorem round_of_neg {x : K} (negative : x < 0) : round x = ⌈x - 1 / 2⌉ := by
  rw [round, if_neg (not_le.mpr negative), Nat.cast_ofNat]

theorem round_nonneg_of_lt {x : K} (above : -1 / 2 < x) : 0 ≤ round x := by
  rcases le_or_gt 0 x with nonneg | negative
  · rw [round_of_nonneg nonneg, Int.floor_nonneg]
    linarith
  · have lower : ((-1 : ℤ) : K) < x - 1 / 2 := by
      push_cast
      linarith
    rw [round_of_neg negative]
    exact Int.lt_ceil.mpr lower

theorem round_le_of_le {x : K} {n : ℕ} (le : x ≤ n) : round x ≤ n := by
  rcases le_or_gt 0 x with nonneg | negative
  · have below : x + 1 / 2 < (n : ℤ) + 1 := by
      push_cast
      linarith
    rw [round_of_nonneg nonneg]
    exact Int.floor_le_iff.mpr (by exact_mod_cast below)
  · rw [round_of_neg negative, Int.ceil_le]
    have positive : (0 : K) ≤ n := Nat.cast_nonneg n
    push_cast
    linarith

/-- Rounding keeps the order. -/
theorem round_mono : Monotone (round : K → ℤ) := by
  intro x y le
  rcases le_or_gt 0 x with nonneg | negative
  · rw [round_of_nonneg nonneg, round_of_nonneg (nonneg.trans le)]
    exact Int.floor_mono (by linarith)
  · rcases le_or_gt 0 y with nonneg | negative'
    · have upper : round x ≤ 0 := round_le_of_le (n := 0) (by rw [Nat.cast_zero]; exact negative.le)
      exact upper.trans (round_nonneg_of_lt (by linarith))
    · rw [round_of_neg negative, round_of_neg negative']
      exact Int.ceil_mono (by linarith)

/-- Where a value below zero is rounded to. -/
theorem round_eq_neg_iff {x : K} {n : ℕ} (positive : 0 < n) :
    round x = -(n : ℤ) ↔ -(n : K) - 1 / 2 < x ∧ x ≤ -(n : K) + 1 / 2 := by
  have large : (1 : K) ≤ n := by exact_mod_cast positive
  rcases le_or_gt 0 x with nonneg | negative
  · have above := round_nonneg_of_lt (x := x) (by linarith)
    refine iff_of_false (by omega) ?_
    rintro ⟨-, le⟩
    linarith
  · rw [round_of_neg negative, Int.ceil_eq_iff]
    push_cast
    constructor
    · rintro ⟨low, high⟩
      exact ⟨by linarith, by linarith⟩
    · rintro ⟨low, high⟩
      exact ⟨by linarith, by linarith⟩

theorem round_eq_zero_iff {x : K} (nonpos : x ≤ 0) : round x = 0 ↔ -1 / 2 < x := by
  constructor
  · intro zero
    by_contra low
    have negative : x < 0 := by linarith
    have below : round x ≤ -1 := by
      rw [round_of_neg negative, Int.ceil_le]
      push_cast
      linarith
    omega
  · intro above
    have upper : round x ≤ 0 := round_le_of_le (n := 0) (by rwa [Nat.cast_zero])
    exact le_antisymm upper (round_nonneg_of_lt above)

end Round

/-! ## Levels in decibels -/

noncomputable section

/-- The exact logarithm. -/
def log10 : ℝ → ℝ := Real.logb ((10 : ℕ) : ℝ)

/-- The modulus of a bin at 0 dBFS. -/
def fullScale : ℝ := ((2048 : ℕ) : ℝ) * hann2048Sum

/-- The modulus of a bin at `d` dBFS. -/
def modulusAt (d : ℝ) : ℝ := fullScale * ((10 : ℕ) : ℝ) ^ (d / ((20 : ℕ) : ℝ))

/-- The modulus of a bin `g` grey levels below -80 dBFS. -/
def modulusBelow (g : ℝ) : ℝ :=
  modulusAt (-((80 : ℕ) : ℝ) - g * ((80 : ℕ) : ℝ) / ((255 : ℕ) : ℝ))

/-- The level of a bin in dBFS. -/
def decibels (modulus : ℝ) : ℝ := ((20 : ℕ) : ℝ) * log10 (modulus / fullScale)

/-- The linear map from -80 dBFS to 0 and 0 dBFS to 255. -/
def grey (dbFSMagnitude : ℝ) : ℝ :=
  (((80 : ℕ) : ℝ) + dbFSMagnitude) * ((255 : ℕ) : ℝ) / ((80 : ℕ) : ℝ)

theorem log10_eq (x : ℝ) : log10 x = Real.logb 10 x := by
  rw [log10, Nat.cast_ofNat]

theorem decibels_eq (modulus : ℝ) : decibels modulus = 20 * log10 (modulus / fullScale) := by
  rw [decibels, Nat.cast_ofNat]

theorem grey_eq (d : ℝ) : grey d = (80 + d) * 255 / 80 := by
  rw [grey]
  norm_num

theorem modulusAt_eq (d : ℝ) : modulusAt d = fullScale * 10 ^ (d / 20) := by
  rw [modulusAt]
  norm_num

theorem modulusBelow_eq (g : ℝ) : modulusBelow g = modulusAt (-80 - g * 80 / 255) := by
  rw [modulusBelow]
  norm_num

theorem fullScale_pos : 0 < fullScale := by
  rw [fullScale, hann2048Sum]
  norm_num

theorem modulusAt_pos (d : ℝ) : 0 < modulusAt d :=
  mul_pos fullScale_pos (Real.rpow_pos_of_pos (by norm_num) _)

theorem modulusAt_zero : modulusAt 0 = fullScale := by
  rw [modulusAt_eq, zero_div, Real.rpow_zero, mul_one]

theorem lt_decibels_iff {modulus d : ℝ} (positive : 0 < modulus) :
    d < decibels modulus ↔ modulusAt d < modulus := by
  have scaled : 0 < modulus / fullScale := div_pos positive fullScale_pos
  calc d < decibels modulus ↔ d / 20 < log10 (modulus / fullScale) := by
        rw [decibels_eq, div_lt_iff₀' (by norm_num)]
    _ ↔ 10 ^ (d / 20) < modulus / fullScale := by
        rw [log10_eq, Real.lt_logb_iff_rpow_lt (by norm_num) scaled]
    _ ↔ modulusAt d < modulus := by
        rw [lt_div_iff₀' fullScale_pos, modulusAt_eq]

theorem decibels_le_iff {modulus d : ℝ} (positive : 0 < modulus) :
    decibels modulus ≤ d ↔ modulus ≤ modulusAt d := by
  rw [← not_lt, lt_decibels_iff positive, not_lt]

theorem decibels_mono {modulus modulus' : ℝ} (positive : 0 < modulus)
    (le : modulus ≤ modulus') : decibels modulus ≤ decibels modulus' := by
  by_contra greater
  have below := (lt_decibels_iff positive).mp (not_le.mp greater)
  have above := (decibels_le_iff (positive.trans_le le)).mp le_rfl
  exact absurd (below.trans_le le) (not_lt.mpr above)

/-- The scales are inverse to each other. -/
theorem decibels_modulusAt (d : ℝ) : decibels (modulusAt d) = d := by
  rw [decibels_eq, modulusAt_eq, mul_div_cancel_left₀ _ fullScale_pos.ne', log10_eq,
    Real.logb_rpow (by norm_num) (by norm_num), mul_div_cancel₀ _ (by norm_num)]

theorem grey_mono {d e : ℝ} (le : d ≤ e) : grey d ≤ grey e := by
  rw [grey_eq, grey_eq]
  linarith

/-! ## The level of a bin -/

/-- The map as the code computes it. -/
theorem grey_neg (d : ℝ) :
    (-((80 : ℕ) : ℝ) - d) * ((255 : ℕ) : ℝ) / -((80 : ℕ) : ℝ) = grey d := by
  rw [grey_eq]
  push_cast
  ring

theorem normalize_eq (modulus : ℝ) :
    modulus / ((2048 : ℕ) : ℝ) / hann2048Sum = modulus / fullScale := by
  rw [fullScale, div_div]

/-- The level of a bin with some magnitude: the rounded map, made positive and cut off. -/
theorem level_of_pos {modulus : ℝ} (positive : 0 < modulus) :
    level log10 modulus = |round (grey (min (decibels modulus) 0))| % 256 := by
  have normalize : ¬ modulus / fullScale ≤ 0 := not_le.mpr (div_pos positive fullScale_pos)
  have clamped : (if 0 < decibels modulus then 0 else decibels modulus) =
      min (decibels modulus) 0 := by
    split_ifs with above
    · exact (min_eq_right above.le).symm
    · exact (min_eq_left (not_lt.mp above)).symm
  rw [← clamped, ← grey_neg, decibels]
  unfold level
  dsimp only
  rw [normalize_eq, if_neg normalize]

/-- The stand-in for a bin without magnitude lies between -14 and -13.7 dBFS, since it
is not divided by 2048 any more. -/
theorem log10_standIn : -9 / 13 ≤ log10 (2048 / 10000) ∧ log10 (2048 / 10000) ≤ -11 / 16 := by
  have thirteen : -9 ≤ log10 ((2048 / 10000) ^ 13) := by
    rw [log10_eq, Real.le_logb_iff_rpow_le (by norm_num) (by norm_num)]
    norm_num
  have sixteen : log10 ((2048 / 10000) ^ 16) ≤ -11 := by
    rw [log10_eq, Real.logb_le_iff_le_rpow (by norm_num) (by norm_num)]
    norm_num
  rw [log10_eq, Real.logb_pow, ← log10_eq] at thirteen sixteen
  push_cast at thirteen sixteen
  constructor <;> linarith

/-- **Silence is at level 211**, brighter than most of what can be heard. -/
theorem level_zero : level log10 0 = 211 := by
  obtain ⟨low, high⟩ := log10_standIn
  have value : ((20 : ℕ) : ℝ) * log10 (((2048 : ℕ) : ℝ) / ((10000 : ℕ) : ℝ)) =
      20 * log10 (2048 / 10000) := by norm_num
  have unclamped : ¬ 0 < 20 * log10 (2048 / 10000) := by linarith
  have rounded : round (grey (20 * log10 (2048 / 10000))) = 211 := by
    have nonneg : 0 ≤ grey (20 * log10 (2048 / 10000)) := by
      rw [grey_eq]
      linarith
    rw [round_of_nonneg nonneg, Int.floor_eq_iff, grey_eq]
    push_cast
    constructor <;> linarith
  unfold level
  dsimp only
  rw [normalize_eq, zero_div, if_pos le_rfl, value, if_neg unclamped, grey_neg, rounded]
  decide

theorem level_nonneg (modulus : ℝ) : 0 ≤ level log10 modulus :=
  Int.emod_nonneg _ (by decide)

/-- From half a grey level below -80 dBFS on the level is the rounded map. -/
theorem level_of_above {modulus : ℝ} (above : modulusBelow 0.5 < modulus) :
    level log10 modulus = round (grey (min (decibels modulus) 0)) := by
  have positive : 0 < modulus := (modulusAt_pos _).trans above
  have louder : -80 - 0.5 * 80 / 255 < decibels modulus := by
    rwa [lt_decibels_iff positive, ← modulusBelow_eq]
  have lower : 0 ≤ round (grey (min (decibels modulus) 0)) := by
    refine round_nonneg_of_lt ?_
    rw [grey_eq]
    rcases min_choice (decibels modulus) 0 with same | same <;> rw [same] <;> linarith
  have upper : round (grey (min (decibels modulus) 0)) ≤ (255 : ℕ) := by
    refine round_le_of_le ?_
    have clamped := min_le_right (decibels modulus) 0
    rw [grey_eq, Nat.cast_ofNat]
    linarith
  rw [level_of_pos positive, abs_of_nonneg lower, Int.emod_eq_of_lt lower (by omega)]

/-- From half a grey level below -80 dBFS on, a louder bin is not darker. -/
theorem level_mono {modulus modulus' : ℝ}
    (above : modulusBelow 0.5 < modulus) (le : modulus ≤ modulus') :
    level log10 modulus ≤ level log10 modulus' := by
  have louder := decibels_mono ((modulusAt_pos _).trans above) le
  rw [level_of_above above, level_of_above (above.trans_le le)]
  exact round_mono (grey_mono (min_le_min_right 0 louder))

theorem modulusAt_strictMono : StrictMono modulusAt := by
  intro d e less
  rw [← lt_decibels_iff (modulusAt_pos e), decibels_modulusAt]
  exact less

theorem modulusBelow_lt {g d : ℝ} (positive : 0 < g) (above : -80 ≤ d) :
    modulusBelow g < modulusAt d := by
  rw [modulusBelow_eq]
  exact modulusAt_strictMono (by linarith)

theorem level_fullScale {modulus : ℝ} (louder : fullScale < modulus) :
    level log10 modulus = 255 := by
  rw [← modulusAt_zero] at louder
  have positive := (modulusAt_pos _).trans louder
  have above : modulusBelow 0.5 < modulus :=
    (modulusBelow_lt (by norm_num) (by norm_num)).trans louder
  have clamped : min (decibels modulus) 0 = 0 :=
    min_eq_right ((lt_decibels_iff positive).mpr louder).le
  have white : grey 0 = (255 : ℤ) := by
    rw [grey_eq]
    norm_num
  rw [level_of_above above, clamped, white, round_of_nonneg (by norm_num), Int.floor_eq_iff]
  norm_num

/-! ## Moduli that are shown in their place -/

/-- The bin is less than half a grey level below -80 dBFS, or a multiple of 256 grey
levels below, up to half a level. -/
def Shown (modulus : ℝ) : Prop :=
  modulusBelow 0.5 < modulus ∨
    ∃ k : ℕ, 0 < k ∧ modulusBelow ((256 * k : ℕ) + 0.5) < modulus ∧
      modulus ≤ modulusBelow ((256 * k : ℕ) - 0.5)

/-- The bin is not brighter than any bin with a larger modulus, and white if it is
above 0 dBFS. -/
def Graded (modulus : ℝ) : Prop :=
  (∀ modulus', modulus ≤ modulus' → level log10 modulus ≤ level log10 modulus') ∧
    (fullScale < modulus → level log10 modulus = 255)

theorem Shown.pos {modulus : ℝ} (shown : Shown modulus) : 0 < modulus := by
  rcases shown with above | ⟨_, _, above, _⟩ <;> exact (modulusAt_pos _).trans above

theorem lt_grey_iff {modulus g : ℝ} (positive : 0 < modulus) :
    -g < grey (decibels modulus) ↔ modulusBelow g < modulus := by
  rw [modulusBelow_eq, ← lt_decibels_iff positive, grey_eq]
  constructor <;> intro less <;> linarith

theorem grey_le_iff {modulus g : ℝ} (positive : 0 < modulus) :
    grey (decibels modulus) ≤ -g ↔ modulus ≤ modulusBelow g := by
  rw [← not_lt, lt_grey_iff positive, not_lt]

/-- Up to -80 dBFS a bin is shown in its place exactly if it comes out black. -/
theorem level_eq_zero_iff {modulus : ℝ} (positive : 0 < modulus)
    (below : modulus ≤ modulusAt (-80)) : level log10 modulus = 0 ↔ Shown modulus := by
  have quiet : decibels modulus ≤ -80 := (decibels_le_iff positive).mpr below
  have dark : grey (decibels modulus) ≤ 0 := by
    rw [grey_eq]
    linarith
  have negative : round (grey (decibels modulus)) ≤ 0 :=
    round_le_of_le (n := 0) (by rwa [Nat.cast_zero])
  have near : round (grey (decibels modulus)) = 0 ↔ modulusBelow 0.5 < modulus := by
    rw [round_eq_zero_iff dark, ← lt_grey_iff positive]
    norm_num
  have far (k : ℕ) (large : 0 < k) : round (grey (decibels modulus)) = -((256 * k : ℕ) : ℤ) ↔
      modulusBelow ((256 * k : ℕ) + 0.5) < modulus ∧
        modulus ≤ modulusBelow ((256 * k : ℕ) - 0.5) := by
    have half : (0.5 : ℝ) = 1 / 2 := by norm_num
    rw [round_eq_neg_iff (by omega), ← lt_grey_iff positive, ← grey_le_iff positive, neg_add',
      neg_sub', sub_neg_eq_add, half]
  rw [level_of_pos positive, min_eq_left (quiet.trans (by norm_num)),
    abs_of_nonpos negative, Shown, ← near]
  constructor
  · intro zero
    obtain ⟨k, multiple⟩ : ∃ k : ℕ, round (grey (decibels modulus)) = -((256 * k : ℕ) : ℤ) :=
      ⟨(round (grey (decibels modulus))).natAbs / 256, by omega⟩
    rcases Nat.eq_zero_or_pos k with none | some
    · left
      rw [multiple, none]
      rfl
    · exact Or.inr ⟨k, some, (far k some).mp multiple⟩
  · rintro (zero | ⟨k, some, between⟩)
    · rw [zero]
      rfl
    · rw [(far k some).mpr between]
      omega

theorem level_black : level log10 (modulusAt (-80)) = 0 :=
  (level_eq_zero_iff (modulusAt_pos _) le_rfl).mpr
    (Or.inl (modulusBelow_lt (by norm_num) (by norm_num)))

/-- **The level is in its place for exactly the moduli described by `Shown`**, over all
moduli from silence on.  Where it is not, a louder bin is darker, if not at once then
after the next turn of the eight bits. -/
theorem graded_iff_shown (modulus : ℝ) (nonneg : 0 ≤ modulus) :
    Graded modulus ↔ Shown modulus := by
  constructor
  · rintro ⟨darker, -⟩
    rcases le_or_gt modulus (modulusAt (-80)) with below | above
    · have zero := darker _ below
      rw [level_black] at zero
      rcases nonneg.eq_or_lt with silent | positive
      · rw [← silent, level_zero] at zero
        norm_num at zero
      · exact (level_eq_zero_iff positive below).mp (le_antisymm zero (level_nonneg _))
    · exact Or.inl ((modulusBelow_lt (by norm_num) (by norm_num)).trans above)
  · intro shown
    refine ⟨?_, level_fullScale⟩
    intro modulus' le
    rcases le_or_gt modulus (modulusAt (-80)) with below | above
    · rw [(level_eq_zero_iff shown.pos below).mpr shown]
      exact level_nonneg modulus'
    · exact level_mono ((modulusBelow_lt (by norm_num) (by norm_num)).trans above) le

/-- A bin at 0 dBFS. -/
theorem graded_fullScale : Graded fullScale :=
  (graded_iff_shown fullScale fullScale_pos.le).mpr
    (Or.inl (by
      rw [← modulusAt_zero]
      exact modulusBelow_lt (by norm_num) (by norm_num)))

/-- Silence is brighter than a bin at -80 dBFS, so the level does not grow with the
modulus. -/
theorem not_level_mono_silence : level log10 0 = 211 ∧
    ¬ ∀ modulus modulus' : ℝ, 0 ≤ modulus → modulus ≤ modulus' →
      level log10 modulus ≤ level log10 modulus' := by
  refine ⟨level_zero, ?_⟩
  intro mono
  have darker := mono 0 _ le_rfl (modulusAt_pos (-80)).le
  rw [level_zero, level_black] at darker
  norm_num at darker

end

end SpectrogramServers.MyServer.Spectrogram
