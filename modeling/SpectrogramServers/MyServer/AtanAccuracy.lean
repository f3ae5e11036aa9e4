import Mathlib.Analysis.Real.Pi.Bounds
import SpectrogramServers.Lib.Arctan
import SpectrogramServers.Lib.Interpolation
import SpectrogramServers.MyServer.FastAtan2
import SpectrogramServers.MyServer.PhaseUnwrapping
import SpectrogramServers.MyServer.ReceiverStream

/-!
# How exact `fast_atan2f` is

The function looks its angles up in a table of seven-digit decimal fractions.  This module
bounds its error over all vectors, in exact arithmetic, with the constants as they are
written.

## Two errors

They make up nearly all of what `fast_atan2f` is off.

* **The entries of the table** are rounded to seven digits, which a test of the whole
  table shows to cost at most `10⁻⁷` (`abs_fast_atan_table_sub_le`).  The test computes
  the arctangents with `Lib.Arctan`, on rational numbers.
* **Between two entries** a chord stands for the curve, which costs up to `0.65 / (8 * 255
  ^ 2)`, a little over `1.2 * 10⁻⁶` (`Lib.Interpolation`).

Below `tan_map_res`, where a quotient is its own angle, and in the last digit of the two
literals for half a turn and a quarter there is much less to lose.

## The octants

The eight leaves are the same for the exact angle (`atan2_eq_octant`), and no leaf makes
an error larger (`abs_octant_sub_octant_le`).  So what is known of the angles from 0 to 45
degrees is known of all, up to the two literals.

Where the table is used its indices are inside and the mask changes nothing
(`LooksUpInside`); the entry that pads the table is read where the quotient is exactly
one.
-/

namespace SpectrogramServers.MyServer.Receiver

universe u

/-! ## The table -/

/-- The test of the whole table, by evaluation on rational numbers. -/
theorem arctansWithin_fast_atan_table :
    arctansWithin (10 ^ 12) 255 (1 / 10 ^ 7) 0 0 0 (fast_atan_tableEntries.take 256) = true := by
  decide +kernel

/-- Entry `i` is the arctangent of `i / 255`, but for the one that pads the table. -/
theorem abs_fast_atan_table_sub_le (i : Fin 256) :
    |(fast_atan_table i.castSucc : ℝ) - Real.arctan ((i : ℕ) / 255)| ≤ 1 / 10 ^ 7 := by
  have inside : (i : ℕ) < (fast_atan_tableEntries.take 256).length := by
    rw [List.length_take, length_fast_atan_tableEntries]
    omega
  have zero : (10 ^ 12 : ℕ) * Real.arctan ((0 : ℕ) / (255 : ℕ)) = ((0 : ℤ) : ℝ) := by simp
  have entry := abs_entry_sub_arctan_le (by decide) (by decide) zero.ge zero.le
    arctansWithin_fast_atan_table (List.getElem?_eq_getElem inside)
  rw [List.getElem_take, Nat.zero_add] at entry
  push_cast at entry
  exact entry

/-! ## From 0 to 45 degrees -/

/-- Where the table is used, `(int)alpha` and its successor are indices of the table, and
`& 0xff` changes nothing. -/
def LooksUpInside {K : Type u} [Field K] [LinearOrder K] [FloorRing K] (z : K) : Prop :=
  ¬ z < tan_map_res →
    0 ≤ truncate (z * tan_map_size) ∧ truncate (z * tan_map_size) + 1 < 257 ∧
      ((atanIndex (z * tan_map_size) : ℕ) : ℤ) = truncate (z * tan_map_size)

/-- A quotient that is small enough to be its own angle. -/
theorem abs_self_sub_arctan_le {z : ℝ} (nonneg : 0 ≤ z) (small : z < tan_map_res) :
    |z - Real.arctan z| ≤ 1.4 / 10 ^ 6 := by
  have below := arctanSum_even_le 1 nonneg
  have above := le_arctanSum_odd 0 nonneg
  have one : arctanSum (2 * 0 + 1) z = z := by
    simp [arctanSum]
  have two : arctanSum (2 * 1) z = z - z ^ 3 / 3 := by
    norm_num [arctanSum, Finset.sum_range_succ, neg_div, sub_eq_add_neg]
  have cube : z ^ 3 ≤ (1 / 200) ^ 3 := by
    refine pow_le_pow_left₀ nonneg (small.le.trans ?_) 3
    norm_num [tan_map_res]
  rw [one] at above
  rw [two] at below
  rw [abs_of_nonneg (sub_nonneg.mpr above)]
  norm_num at cube ⊢
  linarith

/-- A quotient that is looked up. -/
theorem abs_lookup_sub_arctan_le {z : ℝ} (le_one : z ≤ 1) (index : Fin 256) {alpha : ℝ}
    (low : 0 ≤ alpha) (high : alpha < 1) (place : z * 255 = (index : ℕ) + alpha) :
    |lerp (fast_atan_table index.castSucc) (fast_atan_table index.succ) alpha - Real.arctan z| ≤
      1.4 / 10 ^ 6 := by
  have first := abs_fast_atan_table_sub_le index
  rcases Nat.lt_or_ge index 255 with inner | last
  · -- between two entries
    have second := abs_fast_atan_table_sub_le ⟨index + 1, by omega⟩
    have between : z = (index : ℕ) / 255 + 1 / 255 * alpha := by linarith
    have next : ((index + 1 : ℕ) : ℝ) / 255 = (index : ℕ) / 255 + 1 / 255 := by
      push_cast
      ring
    have here : (0 : ℝ) ≤ (index : ℕ) / 255 := by positivity
    have there : (0 : ℝ) ≤ (index : ℕ) / 255 + 1 / 255 := by positivity
    dsimp only at second
    rw [next] at second
    rw [between]
    have error := abs_lerp_sub_le here there low high.le (by norm_num) concaveOn_arctan
      (convexOn_arctan.subset (Set.subset_univ _) (convex_Ici 0)) first second
    exact error.trans (by norm_num)
  · -- the quotient is 1, and the entry after the last is not used
    have top : ((index : ℕ) : ℝ) = 255 := by
      exact_mod_cast (by omega : (index : ℕ) = 255)
    rw [top] at place first
    have zero : alpha = 0 := by linarith
    have one : z = 255 / 255 := by linarith
    rw [lerp, zero, mul_zero, add_zero, one]
    norm_num at first ⊢
    linarith

section Base

variable {z : ℝ} (nonneg : 0 ≤ z) (le_one : z ≤ 1)

include nonneg le_one

theorem truncate_mul_tan_map_size :
    truncate (z * tan_map_size) = ⌊z * 255⌋ ∧ 0 ≤ ⌊z * 255⌋ ∧ ⌊z * 255⌋ < 256 := by
  have size : z * tan_map_size = z * 255 := congrArg (z * ·) (Nat.cast_ofNat)
  have scaled : 0 ≤ z * 255 := by positivity
  rw [size]
  refine ⟨truncate_of_nonneg scaled, Int.floor_nonneg.mpr scaled, Int.floor_lt.mpr ?_⟩
  push_cast
  linarith

theorem coe_atanIndex : ((atanIndex (z * tan_map_size) : ℕ) : ℤ) = ⌊z * 255⌋ := by
  obtain ⟨floor, low, high⟩ := truncate_mul_tan_map_size nonneg le_one
  show (((truncate (z * tan_map_size) % 256).toNat : ℕ) : ℤ) = _
  rw [floor]
  omega

theorem looksUpInside : LooksUpInside z := by
  intro _
  obtain ⟨floor, low, high⟩ := truncate_mul_tan_map_size nonneg le_one
  rw [coe_atanIndex nonneg le_one, floor]
  exact ⟨low, by omega, rfl⟩

/-- The angle of a quotient from 0 to 1, in either way. -/
theorem abs_base_angle_sub_arctan_le : |base_angle z - Real.arctan z| ≤ 1.4 / 10 ^ 6 := by
  by_cases small : z < tan_map_res
  · have self : base_angle z = z := if_pos small
    rw [self]
    exact abs_self_sub_arctan_le nonneg small
  · have looked : base_angle z = lerp (fast_atan_table (atanIndex (z * tan_map_size)).castSucc)
        (fast_atan_table (atanIndex (z * tan_map_size)).succ)
        (z * tan_map_size - ((atanIndex (z * tan_map_size) : ℕ) : ℝ)) := if_neg small
    have size : z * tan_map_size = z * 255 := congrArg (z * ·) (Nat.cast_ofNat)
    have index : ((atanIndex (z * tan_map_size) : ℕ) : ℝ) = ⌊z * 255⌋ := by
      exact_mod_cast coe_atanIndex nonneg le_one
    rw [looked]
    refine abs_lookup_sub_arctan_le le_one _ ?_ ?_ ?_
    · rw [index, size]
      exact Int.fract_nonneg _
    · rw [index, size]
      exact Int.fract_lt_one _
    · rw [size]
      ring

end Base

/-! ## The octants -/

section

variable {K : Type u} [Field K] [LinearOrder K]

/-- The quotient of the smaller and the larger coordinate. -/
def quotient (y x : K) : K := if |y| < |x| then |y| / |x| else |x| / |y|

/-- The angle of the vector `(x, y)`, when `half` and `quarter` are half a turn and a
quarter and `base` is the angle of the quotient.  The tests are those of the source, so
that the exact angle can be put in as well. -/
def octant (half quarter base y x : K) : K :=
  if |y| < |x| then
    if 0 ≤ x then
      if 0 ≤ y then base else -base
    else
      if 0 ≤ y then half - base else base - half
  else
    if 0 ≤ y then
      if 0 ≤ x then quarter - base else quarter + base
    else
      if 0 ≤ x then -quarter + base else -quarter - base

end

theorem fast_atan2f_eq_octant {y x : ℝ} (nonzero : y ≠ 0 ∨ x ≠ 0) :
    fast_atan2f y x = octant angle_180 angle_90 (base_angle (quotient y x)) y x := by
  have branch : ¬ ¬ (0 < |y| ∨ 0 < |x|) := not_not.mpr (nonzero.imp abs_pos.mpr abs_pos.mpr)
  exact if_neg branch

theorem quotient_nonneg (y x : ℝ) : 0 ≤ quotient y x := by
  unfold quotient
  split
  · positivity
  · positivity

theorem quotient_le_one (y x : ℝ) : quotient y x ≤ 1 := by
  unfold quotient
  split
  · next flat => exact div_le_one_of_le₀ flat.le (abs_nonneg x)
  · next steep => exact div_le_one_of_le₀ (not_lt.mp steep) (abs_nonneg y)

/-- The angle of a vector in polar coordinates. -/
theorem atan2_of_polar {y x r θ : ℝ} (positive : 0 < r) (sin : r * Real.sin θ = y)
    (cos : r * Real.cos θ = x) (low : -Real.pi < θ) (high : θ ≤ Real.pi) : atan2 y x = θ := by
  have polar : (⟨x, y⟩ : ℂ) = r * (Complex.cos θ + Complex.sin θ * Complex.I) := by
    rw [← sin, ← cos]
    apply Complex.ext
    · simp [← Complex.ofReal_cos, ← Complex.ofReal_sin]
    · simp [← Complex.ofReal_cos, ← Complex.ofReal_sin]
  rw [atan2, polar]
  exact Complex.arg_mul_cos_add_sin_mul_I positive ⟨low, high⟩

/-- Polar coordinates of a vector to the right of the axis. -/
theorem exists_polar {a : ℝ} (positive : 0 < a) (b : ℝ) :
    ∃ r, 0 < r ∧ r * Real.cos (Real.arctan (b / a)) = a ∧
      r * Real.sin (Real.arctan (b / a)) = b := by
  have cos := Real.cos_arctan_pos (b / a)
  refine ⟨a / Real.cos (Real.arctan (b / a)), div_pos positive cos,
    div_mul_cancel₀ a cos.ne', ?_⟩
  rw [← Real.tan_mul_cos cos.ne', Real.tan_arctan]
  field_simp

/-- The four leaves next to the horizontal axis. -/
theorem atan2_eq_octant_of_lt {y x : ℝ} (flat : |y| < |x|) :
    atan2 y x = octant Real.pi (Real.pi / 2) (Real.arctan (quotient y x)) y x := by
  have ratio : quotient y x = |y| / |x| := if_pos flat
  obtain ⟨r, positive, cos, sin⟩ := exists_polar ((abs_nonneg y).trans_lt flat) |y|
  rw [← ratio] at cos sin
  have low := Real.arctan_nonneg.mpr (quotient_nonneg y x)
  have high := Real.arctan_lt_pi_div_two (quotient y x)
  have turn := Real.pi_pos
  unfold octant
  rw [if_pos flat]
  rcases le_or_gt 0 x with right | left
  · rw [if_pos right]
    rw [abs_of_nonneg right] at cos
    rcases le_or_gt 0 y with up | down
    · rw [if_pos up]
      rw [abs_of_nonneg up] at sin
      exact atan2_of_polar positive sin cos (by linarith) (by linarith)
    · rw [if_neg down.not_ge]
      refine atan2_of_polar positive ?_ ?_ (by linarith) (by linarith)
      · rw [Real.sin_neg, mul_neg, sin, abs_of_neg down, neg_neg]
      · rw [Real.cos_neg, cos]
  · rw [if_neg left.not_ge]
    rw [abs_of_neg left] at cos
    rcases le_or_gt 0 y with up | down
    · rw [if_pos up]
      refine atan2_of_polar positive ?_ ?_ (by linarith) (by linarith)
      · rw [Real.sin_pi_sub, sin, abs_of_nonneg up]
      · rw [Real.cos_pi_sub, mul_neg, cos, neg_neg]
    · -- the angle is not `-π`, since `y` is not 0
      have steeper : 0 < quotient y x := by
        rw [ratio]
        exact div_pos (abs_pos.mpr down.ne) (abs_pos.mpr left.ne)
      have more := Real.arctan_pos.mpr steeper
      rw [if_neg down.not_ge]
      refine atan2_of_polar positive ?_ ?_ (by linarith) (by linarith)
      · rw [Real.sin_sub_pi, mul_neg, sin, abs_of_neg down, neg_neg]
      · rw [Real.cos_sub_pi, mul_neg, cos, neg_neg]

/-- The four leaves next to the vertical axis, with the diagonals. -/
theorem atan2_eq_octant_of_le {y x : ℝ} (steep : |x| ≤ |y|) (nonzero : y ≠ 0) :
    atan2 y x = octant Real.pi (Real.pi / 2) (Real.arctan (quotient y x)) y x := by
  have ratio : quotient y x = |x| / |y| := if_neg steep.not_gt
  obtain ⟨r, positive, cos, sin⟩ := exists_polar (abs_pos.mpr nonzero) |x|
  rw [← ratio] at cos sin
  have low := Real.arctan_nonneg.mpr (quotient_nonneg y x)
  have high := Real.arctan_lt_pi_div_two (quotient y x)
  unfold octant
  rw [if_neg steep.not_gt]
  rcases le_or_gt 0 y with up | down
  · rw [if_pos up]
    rw [abs_of_nonneg up] at cos
    rcases le_or_gt 0 x with right | left
    · rw [if_pos right]
      refine atan2_of_polar positive ?_ ?_ (by linarith) (by linarith)
      · rw [Real.sin_pi_div_two_sub, cos]
      · rw [Real.cos_pi_div_two_sub, sin, abs_of_nonneg right]
    · rw [if_neg left.not_ge, add_comm]
      refine atan2_of_polar positive ?_ ?_ (by linarith) (by linarith)
      · rw [Real.sin_add_pi_div_two, cos]
      · rw [Real.cos_add_pi_div_two, mul_neg, sin, abs_of_neg left, neg_neg]
  · rw [if_neg down.not_ge]
    rw [abs_of_neg down] at cos
    rcases le_or_gt 0 x with right | left
    · rw [if_pos right, neg_add_eq_sub]
      refine atan2_of_polar positive ?_ ?_ (by linarith) (by linarith)
      · rw [Real.sin_sub_pi_div_two, mul_neg, cos, neg_neg]
      · rw [Real.cos_sub_pi_div_two, sin, abs_of_nonneg right]
    · rw [if_neg left.not_ge, ← neg_add', add_comm]
      refine atan2_of_polar positive ?_ ?_ (by linarith) (by linarith)
      · rw [Real.sin_neg, Real.sin_add_pi_div_two, mul_neg, cos, neg_neg]
      · rw [Real.cos_neg, Real.cos_add_pi_div_two, mul_neg, sin, abs_of_neg left, neg_neg]

theorem atan2_eq_octant {y x : ℝ} (nonzero : y ≠ 0 ∨ x ≠ 0) :
    atan2 y x = octant Real.pi (Real.pi / 2) (Real.arctan (quotient y x)) y x := by
  rcases lt_or_ge |y| |x| with flat | steep
  · exact atan2_eq_octant_of_lt flat
  · refine atan2_eq_octant_of_le steep fun zero => ?_
    -- then both coordinates are 0
    rw [zero, abs_zero] at steep
    exact nonzero.elim (absurd zero) (absurd (abs_nonpos_iff.mp steep))

/-- No leaf makes an error larger. -/
theorem abs_octant_sub_octant_le {half quarter base half' quarter' base' δ ε : ℝ}
    (halves : |half - half'| ≤ δ) (quarters : |quarter - quarter'| ≤ δ)
    (bases : |base - base'| ≤ ε) (y x : ℝ) :
    |octant half quarter base y x - octant half' quarter' base' y x| ≤ δ + ε := by
  have positive := (abs_nonneg _).trans halves
  rw [abs_le] at halves quarters bases ⊢
  unfold octant
  split_ifs <;> constructor <;> linarith

/-- **Accuracy.**  For every vector but the null vector the indices are inside the table, and
what `fast_atan2f` returns is within `1.5 * 10⁻⁶` of the angle in `(-π, π]`. -/
theorem abs_fast_atan2f_sub_atan2_le (y x : ℝ) (nonzero : y ≠ 0 ∨ x ≠ 0) :
    LooksUpInside (quotient y x) ∧ |fast_atan2f y x - atan2 y x| ≤ 1.5 / 10 ^ 6 ∧
      fast_atan2f (0 : ℝ) 0 = 0 := by
  refine ⟨looksUpInside (quotient_nonneg y x) (quotient_le_one y x), ?_, ?_⟩
  · have below := Real.pi_gt_d20
    have above := Real.pi_lt_d20
    have half : |angle_180 - Real.pi| ≤ 1 / 10 ^ 20 := by
      rw [abs_le, angle_180]
      push_cast
      constructor <;> linarith
    have quarter : |angle_90 - Real.pi / 2| ≤ 1 / 10 ^ 20 := by
      rw [abs_le, angle_90]
      push_cast
      constructor <;> linarith
    have base := abs_base_angle_sub_arctan_le (quotient_nonneg y x) (quotient_le_one y x)
    rw [fast_atan2f_eq_octant nonzero, atan2_eq_octant nonzero]
    exact (abs_octant_sub_octant_le half quarter base y x).trans (by norm_num)
  · simp [fast_atan2f]

/-- A vector on a diagonal, where the quotient is 1 and the padded entry is read. -/
theorem abs_fast_atan2f_sub_atan2_le_diagonal :
    LooksUpInside (quotient (1 : ℝ) (-1)) ∧ |fast_atan2f (1 : ℝ) (-1) - atan2 1 (-1)| ≤
      1.5 / 10 ^ 6 ∧ fast_atan2f (0 : ℝ) 0 = 0 :=
  abs_fast_atan2f_sub_atan2_le 1 (-1) (Or.inl one_ne_zero)

end SpectrogramServers.MyServer.Receiver
