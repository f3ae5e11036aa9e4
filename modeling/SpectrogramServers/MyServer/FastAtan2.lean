import Mathlib.Algebra.Order.Field.Basic
import Mathlib.Data.Rat.Floor
import SpectrogramServers.MyServer.Receiver

/-!
# `fast_atan2f`

The arctangent that the demodulator uses: a table of 257 angles from 0 to 45 degrees,
interpolated linearly at the quotient of the smaller and the larger coordinate, and taken
to the right octant by the signs of the two.  A quotient below the resolution of the table
is its own angle.

## What is kept of the source

The table and the constants are the literals of the source, as rational numbers, and the
function is its nest of tests in the same order, the vector of length zero first.  It is
defined over any ordered field with truncation (`K`), so that it can be evaluated over the
rationals and compared with the arctangent over the reals; `AtanAccuracy` does the latter.

The index is masked as in the source, `((int)alpha) & 0xff`.  With 257 entries both
`index` and `index + 1` are then inside the table whatever the quotient is, which is why
`atanIndex` is a `Fin 256` and no access can fail.

## What is proved here

Nothing in the function looks at how long the vector is: only the quotient of the
magnitudes and the two signs enter (`fast_atan2f_scale`).  This is what makes the
demodulator indifferent to the amplitude of the carrier.
-/

namespace SpectrogramServers.MyServer.Receiver

universe u

/-- The initialiser of `fast_atan_table`. -/
def fast_atan_tableEntries : List ℚ := [
  0.000000e+00, 3.921549e-03, 7.842976e-03, 1.176416e-02, 1.568499e-02, 1.960533e-02,
  2.352507e-02, 2.744409e-02, 3.136226e-02, 3.527947e-02, 3.919560e-02, 4.311053e-02,
  4.702413e-02, 5.093629e-02, 5.484690e-02, 5.875582e-02, 6.266295e-02, 6.656816e-02,
  7.047134e-02, 7.437238e-02, 7.827114e-02, 8.216752e-02, 8.606141e-02, 8.995267e-02,
  9.384121e-02, 9.772691e-02, 1.016096e-01, 1.054893e-01, 1.093658e-01, 1.132390e-01,
  1.171087e-01, 1.209750e-01, 1.248376e-01, 1.286965e-01, 1.325515e-01, 1.364026e-01,
  1.402496e-01, 1.440924e-01, 1.479310e-01, 1.517652e-01, 1.555948e-01, 1.594199e-01,
  1.632403e-01, 1.670559e-01, 1.708665e-01, 1.746722e-01, 1.784728e-01, 1.822681e-01,
  1.860582e-01, 1.898428e-01, 1.936220e-01, 1.973956e-01, 2.011634e-01, 2.049255e-01,
  2.086818e-01, 2.124320e-01, 2.161762e-01, 2.199143e-01, 2.236461e-01, 2.273716e-01,
  2.310907e-01, 2.348033e-01, 2.385093e-01, 2.422086e-01, 2.459012e-01, 2.495869e-01,
  2.532658e-01, 2.569376e-01, 2.606024e-01, 2.642600e-01, 2.679104e-01, 2.715535e-01,
  2.751892e-01, 2.788175e-01, 2.824383e-01, 2.860514e-01, 2.896569e-01, 2.932547e-01,
  2.968447e-01, 3.004268e-01, 3.040009e-01, 3.075671e-01, 3.111252e-01, 3.146752e-01,
  3.182170e-01, 3.217506e-01, 3.252758e-01, 3.287927e-01, 3.323012e-01, 3.358012e-01,
  3.392926e-01, 3.427755e-01, 3.462497e-01, 3.497153e-01, 3.531721e-01, 3.566201e-01,
  3.600593e-01, 3.634896e-01, 3.669110e-01, 3.703234e-01, 3.737268e-01, 3.771211e-01,
  3.805064e-01, 3.838825e-01, 3.872494e-01, 3.906070e-01, 3.939555e-01, 3.972946e-01,
  4.006244e-01, 4.039448e-01, 4.072558e-01, 4.105574e-01, 4.138496e-01, 4.171322e-01,
  4.204054e-01, 4.236689e-01, 4.269229e-01, 4.301673e-01, 4.334021e-01, 4.366272e-01,
  4.398426e-01, 4.430483e-01, 4.462443e-01, 4.494306e-01, 4.526070e-01, 4.557738e-01,
  4.589307e-01, 4.620778e-01, 4.652150e-01, 4.683424e-01, 4.714600e-01, 4.745676e-01,
  4.776654e-01, 4.807532e-01, 4.838312e-01, 4.868992e-01, 4.899573e-01, 4.930055e-01,
  4.960437e-01, 4.990719e-01, 5.020902e-01, 5.050985e-01, 5.080968e-01, 5.110852e-01,
  5.140636e-01, 5.170320e-01, 5.199904e-01, 5.229388e-01, 5.258772e-01, 5.288056e-01,
  5.317241e-01, 5.346325e-01, 5.375310e-01, 5.404195e-01, 5.432980e-01, 5.461666e-01,
  5.490251e-01, 5.518738e-01, 5.547124e-01, 5.575411e-01, 5.603599e-01, 5.631687e-01,
  5.659676e-01, 5.687566e-01, 5.715357e-01, 5.743048e-01, 5.770641e-01, 5.798135e-01,
  5.825531e-01, 5.852828e-01, 5.880026e-01, 5.907126e-01, 5.934128e-01, 5.961032e-01,
  5.987839e-01, 6.014547e-01, 6.041158e-01, 6.067672e-01, 6.094088e-01, 6.120407e-01,
  6.146630e-01, 6.172755e-01, 6.198784e-01, 6.224717e-01, 6.250554e-01, 6.276294e-01,
  6.301939e-01, 6.327488e-01, 6.352942e-01, 6.378301e-01, 6.403565e-01, 6.428734e-01,
  6.453808e-01, 6.478788e-01, 6.503674e-01, 6.528466e-01, 6.553165e-01, 6.577770e-01,
  6.602282e-01, 6.626701e-01, 6.651027e-01, 6.675261e-01, 6.699402e-01, 6.723452e-01,
  6.747409e-01, 6.771276e-01, 6.795051e-01, 6.818735e-01, 6.842328e-01, 6.865831e-01,
  6.889244e-01, 6.912567e-01, 6.935800e-01, 6.958943e-01, 6.981998e-01, 7.004964e-01,
  7.027841e-01, 7.050630e-01, 7.073330e-01, 7.095943e-01, 7.118469e-01, 7.140907e-01,
  7.163258e-01, 7.185523e-01, 7.207701e-01, 7.229794e-01, 7.251800e-01, 7.273721e-01,
  7.295557e-01, 7.317307e-01, 7.338974e-01, 7.360555e-01, 7.382053e-01, 7.403467e-01,
  7.424797e-01, 7.446045e-01, 7.467209e-01, 7.488291e-01, 7.509291e-01, 7.530208e-01,
  7.551044e-01, 7.571798e-01, 7.592472e-01, 7.613064e-01, 7.633576e-01, 7.654008e-01,
  7.674360e-01, 7.694633e-01, 7.714826e-01, 7.734940e-01, 7.754975e-01, 7.774932e-01,
  7.794811e-01, 7.814612e-01, 7.834335e-01, 7.853982e-01, 7.853982e-01]

/-- The initialiser has 257 entries, one more than the comment above it says. -/
theorem length_fast_atan_tableEntries : fast_atan_tableEntries.length = 257 := by decide +kernel

section

variable {K : Type u} [Field K] [LinearOrder K] [FloorRing K]

/-- `fast_atan_table`: the entries from 0 to 45 degrees, both ends included. -/
def fast_atan_table : CArray K 257 := fun i =>
  ((fast_atan_tableEntries.get (i.cast length_fast_atan_tableEntries.symm) : ℚ) : K)

/-- `TAN_MAP_RES`. -/
def tan_map_res : K := ((0.003921569 : ℚ) : K)

/-- `TAN_MAP_SIZE`. -/
def tan_map_size : K := ((255 : ℕ) : K)

/-- The literal `3.14159265358979323846`. -/
def angle_180 : K := ((3.14159265358979323846 : ℚ) : K)

/-- The literal `1.57079632679489661923`. -/
def angle_90 : K := ((1.57079632679489661923 : ℚ) : K)

/-- `((int)alpha) & 0xff`: the low eight bits. -/
def atanIndex (alpha : K) : Fin 256 :=
  ⟨(truncate alpha % 256).toNat, by
    have low := Int.emod_nonneg (truncate alpha) (by decide : (256 : ℤ) ≠ 0)
    have high := Int.emod_lt_of_pos (truncate alpha) (by decide : (0 : ℤ) < 256)
    omega⟩

/-- The angle between 0 and 45 degrees whose tangent is about `z`: by the table, or `z`
itself below the resolution of the table. -/
def base_angle (z : K) : K :=
  if z < tan_map_res then z
  else
    let alpha := z * tan_map_size
    let index := atanIndex alpha
    let alpha := alpha - ((index : ℕ) : K)
    fast_atan_table index.castSucc +
      (fast_atan_table index.succ - fast_atan_table index.castSucc) * alpha

/-- `fast_atan2f(y, x)`: the angle of the smaller over the larger magnitude, and then its
octant. -/
def fast_atan2f (y x : K) : K :=
  let y_abs := |y|
  let x_abs := |x|
  if ¬ (0 < y_abs ∨ 0 < x_abs) then 0
  else
    let z := if y_abs < x_abs then y_abs / x_abs else x_abs / y_abs
    if y_abs < x_abs then
      if 0 ≤ x then
        if 0 ≤ y then base_angle z else -base_angle z
      else
        if 0 ≤ y then angle_180 - base_angle z else base_angle z - angle_180
    else
      if 0 ≤ y then
        if 0 ≤ x then angle_90 - base_angle z else angle_90 + base_angle z
      else
        if 0 ≤ x then -angle_90 + base_angle z else -angle_90 - base_angle z

/-- **The length does not matter**: a vector and every positive multiple of it have the
same angle. -/
theorem fast_atan2f_scale [IsStrictOrderedRing K] {s : K} (positive : 0 < s) (y x : K) :
    fast_atan2f (s * y) (s * x) = fast_atan2f y x := by
  have length (v : K) : |s * v| = s * |v| := by
    rw [abs_mul, abs_of_pos positive]
  unfold fast_atan2f
  simp only [length, mul_pos_iff_of_pos_left positive, mul_lt_mul_iff_right₀ positive,
    mul_div_mul_left _ _ positive.ne', mul_nonneg_iff_of_pos_left positive]

end

example : fast_atan2f (1 : ℚ) (-1) = 1.57079632679489661923 + 0.7853982 := by decide +kernel

end SpectrogramServers.MyServer.Receiver
