import Mathlib.Analysis.SpecialFunctions.Complex.Arg
import SpectrogramServers.Lib.Unwrapping
import SpectrogramServers.MyServer.ReceiverBlock

/-!
# The discriminator and the unwrapped phase

There are two ways to the angle from one filtered sample to the next.  The demodulating
loop multiplies a sample with the conjugate of the one before and takes one angle.  The
plain way, which `main` keeps in a comment, takes the angle of every sample, lets
`unwrap_array` undo the jumps and subtracts neighbours.

## They agree

With an exact arctangent the two agree, and both stay in `[-π, π]`
(`agrees_discriminated`). Modulo full turns this is that the argument of a product is the
sum of the arguments (`coe_discriminated`); what has to be added is which of the angles
that are equal modulo full turns each way picks.  The discriminator picks the one in `(-π,
π]`.  `unwrap_array` corrects a difference by one turn, and since two phases differ by
less than a turn and a half, one is enough (`Lib.Unwrapping`).

## Half a turn down

Only this case is told apart: the angle of a number is never `-π`, so the discriminator
gives `π`, while `unwrap_array` has no reason to correct a difference of `-π`.  `Agrees`
states the exception with the rule, and the witness is a sample that turns back and forth
by just that.

`unwrap_array` itself is transcribed with its loop, over any field, with the constant
`M_PI` as an argument.
-/

namespace SpectrogramServers.MyServer.Receiver

universe u

/-! ## `unwrap_array` -/

section Unwrap

variable {K : Type u} [CommRing K] [LinearOrder K] {m n : ℕ}

/-- `unwrap_array(in, out, len)`. -/
def unwrap_array (M_PI : K) (input : CArray K m) (out : CArray K n) (len : ℕ) :
    Option (CArray K n) :=
  (input.get? 0).bind fun first =>
  (out.set? 0 first).bind fun out =>
  forUp (fun i (out : CArray K n) =>
    (input.get? i).bind fun x =>
    (input.get? (i - 1)).bind fun y =>
    let d := x - y
    let d := if M_PI < d then d - 2 * M_PI else if d < -M_PI then d + 2 * M_PI else d
    (out.get? (i - 1)).bind fun last =>
    out.set? i (last + d)) 1 (len - 1) out

/-- What it leaves in `out`. -/
theorem succeeds_unwrap_array (M_PI : K) {input : CArray K m} (out : CArray K n) {len : ℕ}
    {θ : ℕ → K} (angles : input.Holds (len + 1) θ) (room : len + 1 ≤ n) :
    Succeeds (unwrap_array M_PI input out (len + 1)) fun b =>
      b.Holds (len + 1) (unwrapped M_PI θ) := by
  refine succeeds_bind_of_eq (angles 0 (Nat.succ_pos len)) ?_
  refine (out.succeeds_set? (θ 0) (by omega)).bind fun b first => ?_
  rw [Nat.add_sub_cancel, Nat.add_comm len 1]
  have start : b.Holds 1 (unwrapped M_PI θ) := by
    intro i hi
    obtain rfl : i = 0 := by omega
    exact (first 0).trans (if_pos rfl)
  refine succeeds_forUp (fun i (b : CArray K n) => b.Holds i (unwrapped M_PI θ)) start ?_
  intro i b low high held
  obtain ⟨j, rfl⟩ : ∃ j, i = j + 1 := ⟨i - 1, by omega⟩
  refine succeeds_bind_of_eq (angles (j + 1) (by omega)) ?_
  refine succeeds_bind_of_eq (angles j (by omega)) ?_
  refine succeeds_bind_of_eq (held j (Nat.lt_succ_self j)) ?_
  refine (b.succeeds_set? _ (by omega)).mono fun c written => held.set ?_
  rw [unwrapped, wrapOnce, ← two_mul]
  exact written

end Unwrap

/-! ## The exact arctangent -/

noncomputable section

/-- The angle of the vector `(x, y)` in `(-π, π]`. -/
def atan2 (y x : ℝ) : ℝ := Complex.arg ⟨x, y⟩

/-- The angle of a sample. -/
def phase (z : ℝ × ℝ) : ℝ := atan2 z.2 z.1

/-- A sample as a complex number. -/
def toComplex (z : ℝ × ℝ) : ℂ := ⟨z.1, z.2⟩

theorem toComplex_ne_zero {z : ℝ × ℝ} (nonzero : z ≠ 0) : toComplex z ≠ 0 := by
  intro zero
  exact nonzero (Prod.ext (congrArg Complex.re zero) (congrArg Complex.im zero))

/-- The product of the demodulating loop is the complex one. -/
theorem toComplex_conjMul (y z : ℝ × ℝ) :
    toComplex (conjMul y z) = starRingEnd ℂ (toComplex y) * toComplex z := by
  apply Complex.ext
  · simp [toComplex, conjMul]
  · simp [toComplex, conjMul]
    ring

/-- With an exact arctangent the discriminator is the argument of the product. -/
theorem discriminated_atan2 (d : ℕ → ℝ × ℝ) (i : ℕ) :
    discriminated atan2 d i =
      Complex.arg (starRingEnd ℂ (toComplex (d i)) * toComplex (d (i + 1))) := by
  rw [← toComplex_conjMul]
  rfl

theorem abs_discriminated_le (d : ℕ → ℝ × ℝ) (i : ℕ) : |discriminated atan2 d i| ≤ Real.pi :=
  Complex.abs_arg_le_pi _

/-! ## The two ways agree -/

/-- What the discriminator and the difference of the unwrapped phases have to do with
each other when the phase changes by `change`. -/
structure Agrees (change demodded difference : ℝ) : Prop where
  equal : change ≠ -Real.pi → demodded = difference
  half : change = -Real.pi → demodded = Real.pi ∧ difference = -Real.pi
  demodded_le : |demodded| ≤ Real.pi
  difference_le : |difference| ≤ Real.pi

/-- Up to full turns the discriminator gives the change of the phase. -/
theorem coe_discriminated {d : ℕ → ℝ × ℝ} {i : ℕ} (here : d i ≠ 0) (next : d (i + 1) ≠ 0) :
    ((discriminated atan2 d i : ℝ) : Real.Angle) =
      ((phase (d (i + 1)) - phase (d i) : ℝ) : Real.Angle) := by
  have conj : starRingEnd ℂ (toComplex (d i)) ≠ 0 :=
    (map_ne_zero (starRingEnd ℂ)).mpr (toComplex_ne_zero here)
  rw [discriminated_atan2, Complex.arg_mul_coe_angle conj (toComplex_ne_zero next),
    Complex.arg_conj_coe_angle, neg_add_eq_sub, ← Real.Angle.coe_sub]
  rfl

theorem coe_wrapOnce (δ : ℝ) :
    ((wrapOnce Real.pi δ : ℝ) : Real.Angle) = (δ : Real.Angle) := by
  obtain ⟨turns, wrapped⟩ := wrapOnce_congr Real.pi δ
  rw [Real.Angle.angle_eq_iff_two_pi_dvd_sub]
  refine ⟨turns, ?_⟩
  rw [wrapped]
  ring

theorem abs_phase_sub_lt (y z : ℝ × ℝ) : |phase z - phase y| < 3 * Real.pi := by
  have here : -Real.pi < phase y ∧ phase y ≤ Real.pi := Complex.arg_mem_Ioc (toComplex y)
  have next : -Real.pi < phase z ∧ phase z ≤ Real.pi := Complex.arg_mem_Ioc (toComplex z)
  have positive := Real.pi_pos
  exact abs_lt.mpr ⟨by linarith, by linarith⟩

theorem agrees_wrapOnce {d : ℕ → ℝ × ℝ} {i : ℕ} (here : d i ≠ 0) (next : d (i + 1) ≠ 0) :
    Agrees (phase (d (i + 1)) - phase (d i)) (discriminated atan2 d i)
      (wrapOnce Real.pi (phase (d (i + 1)) - phase (d i))) := by
  have less := abs_phase_sub_lt (d i) (d (i + 1))
  have bounded := abs_wrapOnce_le less
  have half := wrapOnce_eq_neg_iff less
  have angle : discriminated atan2 d i =
      ((wrapOnce Real.pi (phase (d (i + 1)) - phase (d i)) : ℝ) : Real.Angle).toReal := by
    rw [coe_wrapOnce, ← coe_discriminated here next, discriminated_atan2]
    exact (Complex.arg_coe_angle_toReal_eq_arg _).symm
  refine ⟨?_, ?_, abs_discriminated_le d i, bounded⟩
  · intro other
    have low := lt_of_le_of_ne (abs_le.mp bounded).1 (Ne.symm (mt half.mp other))
    rw [angle, Real.Angle.toReal_coe_eq_self_iff]
    exact ⟨low, (abs_le.mp bounded).2⟩
  · intro down
    have same := half.mpr down
    refine ⟨?_, same⟩
    rw [angle, same, Real.Angle.coe_neg, Real.Angle.neg_coe_pi, Real.Angle.toReal_pi]

/-- The filtered samples stand where the platform keeps them. -/
def FilteredHolds (platform : Platform) (block : Block ℝ) (d : ℕ → ℝ × ℝ) : Prop :=
  match platform with
  | .portable => block.decimatedFilter.HoldsPairs samplesFiltered d
  | .apple => (block.realDecimatedFilter.Holds samplesFiltered fun i => (d i).1) ∧
      block.imagDecimatedFilter.Holds samplesFiltered fun i => (d i).2

/-- The demodulating loop of the platform. -/
def demodulatingLoop (platform : Platform) (fast_atan2f : ℝ → ℝ → ℝ) (block : Block ℝ) :
    Option (Block ℝ) :=
  match platform with
  | .portable => demodulatePortable fast_atan2f block
  | .apple => demodulateApple fast_atan2f block

theorem succeeds_demodulatingLoop (platform : Platform) (fast_atan2f : ℝ → ℝ → ℝ)
    {block : Block ℝ} {d : ℕ → ℝ × ℝ} (samples : FilteredHolds platform block d) :
    Succeeds (demodulatingLoop platform fast_atan2f block) fun b =>
      b.demodded.Holds (samplesFiltered - 1) (discriminated fast_atan2f d) := by
  cases platform with
  | portable => exact (succeeds_demodulatePortable fast_atan2f samples).mono fun _ => And.left
  | apple =>
      obtain ⟨real, imag⟩ := samples
      exact (succeeds_demodulateApple fast_atan2f real imag).mono fun _ => And.left

/-- **The discriminator is the difference of the unwrapped phases.**  The demodulating
loop of both platforms leaves the angles of `discriminated`; `unwrap_array` leaves phases
that are right up to full turns; and the angles agree with the differences of these
phases, wherever no sample is zero. -/
theorem agrees_discriminated (d : ℕ → ℝ × ℝ) (n : ℕ) (nonzero : ∀ i ≤ n, d i ≠ 0) {m k : ℕ}
    (input : CArray ℝ m) (out : CArray ℝ k)
    (angles : input.Holds (n + 1) fun i => phase (d i)) (room : n + 1 ≤ k) :
    (∀ (platform : Platform) (block : Block ℝ), FilteredHolds platform block d →
      Succeeds (demodulatingLoop platform atan2 block) fun b =>
        b.demodded.Holds (samplesFiltered - 1) (discriminated atan2 d)) ∧
    Succeeds (unwrap_array Real.pi input out (n + 1)) fun b =>
      ∃ u : ℕ → ℝ, b.Holds (n + 1) u ∧
        (∀ i ≤ n, ∃ turns : ℤ, u i = phase (d i) + turns * (2 * Real.pi)) ∧
        ∀ i < n, Agrees (phase (d (i + 1)) - phase (d i)) (discriminated atan2 d i)
          (u (i + 1) - u i) := by
  refine ⟨fun platform block => succeeds_demodulatingLoop platform atan2, ?_⟩
  refine (succeeds_unwrap_array Real.pi out angles room).mono fun b held => ?_
  refine ⟨unwrapped Real.pi fun i => phase (d i), held, ?_, ?_⟩
  · intro i _
    exact unwrapped_congr Real.pi (fun i => phase (d i)) i
  · intro i inside
    rw [unwrapped_succ_sub]
    exact agrees_wrapOnce (nonzero i inside.le) (nonzero (i + 1) inside)

/-- A sample that turns back and forth by half a turn. -/
def flipping (i : ℕ) : ℝ × ℝ := ((-1) ^ (i + 1), 0)

/-- It has a change by half a turn down, the one that is told apart, and one by half a
turn up. -/
theorem agrees_discriminated_flipping :
    (∀ (platform : Platform) (block : Block ℝ), FilteredHolds platform block flipping →
      Succeeds (demodulatingLoop platform atan2 block) fun b =>
        b.demodded.Holds (samplesFiltered - 1) (discriminated atan2 flipping)) ∧
    Succeeds (unwrap_array Real.pi (fun i : Fin 3 => phase (flipping i)) (fun _ : Fin 3 => 0)
      (2 + 1)) fun b =>
      ∃ u : ℕ → ℝ, b.Holds (2 + 1) u ∧
        (∀ i ≤ 2, ∃ turns : ℤ, u i = phase (flipping i) + turns * (2 * Real.pi)) ∧
        ∀ i < 2, Agrees (phase (flipping (i + 1)) - phase (flipping i))
          (discriminated atan2 flipping i) (u (i + 1) - u i) := by
  have nonzero : ∀ i ≤ 2, flipping i ≠ 0 := by
    intro i _ zero
    have part : ((-1 : ℝ)) ^ (i + 1) = 0 := congrArg Prod.fst zero
    exact absurd part (pow_ne_zero _ (by norm_num))
  exact agrees_discriminated flipping 2 nonzero _ _
    (fun i inside => CArray.get?_of_lt _ inside) le_rfl

end

end SpectrogramServers.MyServer.Receiver
