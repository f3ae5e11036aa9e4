import Mathlib.Analysis.Complex.Circle
import Mathlib.Analysis.Complex.Trigonometric
import Mathlib.Analysis.Real.Pi.Bounds
import Mathlib.Data.List.GetD
import SpectrogramServers.Lib.Lists
import SpectrogramServers.Lib.Rotation
import SpectrogramServers.MyServer.FastAtan2
import SpectrogramServers.MyServer.PhaseUnwrapping
import SpectrogramServers.MyServer.ReceiverStream

/-!
# The oscillator

`main` shifts the stream in frequency with a table of 1024 sines in which a comma is
missing: two entries are subtracted from each other, and the table is one short.  This
module says how much that matters, in exact arithmetic.

With the comma the table is right to six digits, which is seen by turning a pointer from
entry to entry (`isChain_pointerEntries`).  Without it the entries behind the gap are the
sines of the next angle.  But an index is rounded down to begin with, so what it finds
there belongs to the other end of the same step (`abs_sin1024_sub_le`).  And the one entry
that is no sine is never found: of the 441 phases that occur none leads to it, in phase or
in quadrature (`tableIndex_ne`, `quadrature_ne`).

So the shift is as good as 1024 steps to a turn can make it, and stays so: the phase is
that of the sample's number, and no error adds up (`mixedWithin_loop`).
-/

namespace SpectrogramServers.MyServer.Receiver

open Tables

/-! ## The table with its comma -/

/-- `sin1024` with the comma that is missing after entry 767. -/
def sineEntries : List ℚ :=
  sin1024Entries.take 767 ++ [-0.99998117528260111, -1] ++ sin1024Entries.drop 768

/-- The cosine and the sine of each angle of the table. -/
def pointerEntries : List (ℚ × ℚ) :=
  (sineEntries.drop 256 ++ sineEntries.take 256).zip sineEntries

theorem length_sineEntries : sineEntries.length = 1024 := by decide +kernel

theorem length_pointerEntries : pointerEntries.length = 1024 := by decide +kernel

/-- The first step of the table. -/
def firstStep : ℚ × ℚ := (0.99998117528260111, 0.0061358846491544753)

theorem isChain_pointerEntries :
    pointerEntries.IsChain (TurnsBy firstStep (1 / 10 ^ 15)) := by decide +kernel

theorem abs_pointerEntries_le : ∀ p ∈ pointerEntries, |p.1| ≤ 1 ∧ |p.2| ≤ 1 := by
  decide +kernel

/-! ## Turning the pointer -/

/-- A 1024th of a turn. -/
theorem turn_bounds :
    0.00613592315154256 ≤ Real.pi / 512 ∧ Real.pi / 512 ≤ 0.00613592315154257 := by
  have below := Real.pi_gt_d20
  have above := Real.pi_lt_d20
  constructor <;> linarith

theorem abs_turn_pow_le (n : ℕ) : |Real.pi / 512| ^ n ≤ 0.0062 ^ n := by
  refine pow_le_pow_left₀ (abs_nonneg _) ?_ n
  rw [abs_of_nonneg (by positivity)]
  exact turn_bounds.2.trans (by norm_num)

theorem turn_pow_bounds (n : ℕ) :
    0.00613592315154256 ^ n ≤ (Real.pi / 512) ^ n ∧
      (Real.pi / 512) ^ n ≤ 0.00613592315154257 ^ n :=
  ⟨pow_le_pow_left₀ (by norm_num) turn_bounds.1 n,
    pow_le_pow_left₀ (by positivity) turn_bounds.2 n⟩

theorem abs_turn_le_one : |Real.pi / 512| ≤ 1 := by
  have small := abs_turn_pow_le 1
  rw [pow_one, pow_one] at small
  exact small.trans (by norm_num)

/-- The cosine of the first step. -/
theorem abs_firstStep_sub_cos_le :
    |(firstStep.1 : ℝ) - Real.cos (Real.pi / 512)| ≤ 2 / 10 ^ 10 := by
  obtain ⟨left, right⟩ := abs_le.mp (Real.cos_bound abs_turn_le_one)
  obtain ⟨low, high⟩ := turn_pow_bounds 2
  have rest := abs_turn_pow_le 4
  norm_num at low high rest
  rw [abs_le, firstStep]
  push_cast
  constructor <;> linarith

/-- The sine of the first step. -/
theorem abs_firstStep_sub_sin_le :
    |(firstStep.2 : ℝ) - Real.sin (Real.pi / 512)| ≤ 1 / 10 ^ 10 := by
  obtain ⟨left, right⟩ := abs_le.mp (Real.sin_bound abs_turn_le_one)
  obtain ⟨below, above⟩ := turn_bounds
  obtain ⟨low, high⟩ := turn_pow_bounds 3
  have rest := abs_turn_pow_le 5
  norm_num at low high rest
  rw [abs_le, firstStep]
  push_cast
  constructor <;> linarith

/-- Entry `k` of the table of pointers. -/
def tableEntry (k : ℕ) : ℚ × ℚ := pointerEntries.getD k (0, 0)

/-- The step of the table is the turn by a 1024th, as far as a table of doubles goes. -/
theorem norm_firstStep_sub_le :
    ‖point firstStep - Complex.exp ((Real.pi / 512 : ℝ) * Complex.I)‖ ≤
      2 / 10 ^ 10 + 1 / 10 ^ 10 := by
  refine (Complex.norm_le_abs_re_add_abs_im _).trans (add_le_add ?_ ?_)
  · rw [Complex.sub_re, Complex.exp_ofReal_mul_I_re]
    exact abs_firstStep_sub_cos_le
  · rw [Complex.sub_im, Complex.exp_ofReal_mul_I_im]
    exact abs_firstStep_sub_sin_le

theorem tableEntry_snd {k : ℕ} (hk : k < sineEntries.length) :
    (tableEntry k).2 = sineEntries[k] := by
  have sines := length_sineEntries
  have entries := length_pointerEntries
  rw [tableEntry, List.getD_eq_getElem _ _ (by omega)]
  unfold pointerEntries
  rw [List.getElem_zip]

theorem turnsBy_tableEntry {k : ℕ} (hk : k < 1023) :
    TurnsBy firstStep (1 / 10 ^ 15) (tableEntry k) (tableEntry (k + 1)) := by
  have length := length_pointerEntries
  rw [tableEntry, tableEntry, List.getD_eq_getElem _ _ (by omega),
    List.getD_eq_getElem _ _ (by omega)]
  exact List.isChain_iff_getElem.mp isChain_pointerEntries k (by omega)

theorem norm_tableEntry_le {k : ℕ} (hk : k < 1024) : ‖point (tableEntry k)‖ ≤ 2 := by
  have length := length_pointerEntries
  have inside := abs_pointerEntries_le _ (List.getElem_mem (l := pointerEntries) (n := k)
    (by omega))
  rw [← List.getD_eq_getElem _ (0, 0)] at inside
  have cosine : |((tableEntry k).1 : ℝ)| ≤ 1 := by exact_mod_cast inside.1
  have sine : |((tableEntry k).2 : ℝ)| ≤ 1 := by exact_mod_cast inside.2
  calc ‖point (tableEntry k)‖ ≤ |((tableEntry k).1 : ℝ)| + |((tableEntry k).2 : ℝ)| :=
        Complex.norm_le_abs_re_add_abs_im _
    _ ≤ 2 := by linarith

theorem point_tableEntry_zero : point (tableEntry 0) = 1 := by
  have first : tableEntry 0 = (1, 0) := by decide +kernel
  rw [first]
  apply Complex.ext <;> simp [point]

/-- **The table with its comma is right** to six digits. -/
theorem norm_tableEntry_sub_le {k : ℕ} (hk : k < 1024) :
    ‖point (tableEntry k) - Complex.exp ((k * (Real.pi / 512) : ℝ) * Complex.I)‖ ≤ 1 / 10 ^ 6 := by
  have step : ∀ i < 1023, ‖point (tableEntry (i + 1)) - point firstStep * point (tableEntry i)‖ ≤
      1 / 10 ^ 14 := by
    intro i hi
    refine (turnsBy_tableEntry hi).norm_sub_le.trans ?_
    norm_num
  have turned : Complex.exp ((k * (Real.pi / 512) : ℝ) * Complex.I) =
      Complex.exp ((Real.pi / 512 : ℝ) * Complex.I) ^ k * point (tableEntry 0) := by
    rw [point_tableEntry_zero, mul_one, ← Complex.exp_nat_mul]
    congr 1
    push_cast
    ring
  have few : (k : ℝ) ≤ 1023 := by exact_mod_cast Nat.le_of_lt_succ hk
  rw [turned]
  refine (norm_sub_pow_mul_le (v := fun i => point (tableEntry i))
    (Complex.norm_exp_ofReal_mul_I _) norm_firstStep_sub_le step
    (fun i hi => norm_tableEntry_le (hi.trans (by decide))) (Nat.le_of_lt_succ hk)).trans ?_
  norm_num
  linarith

/-! ## The table as it is -/

/-- An entry of `sin1024` is the sine of an angle of the table, but for the one that two
entries have been subtracted to make. -/
theorem sin1024_get? {i : ℕ} (inside : i < 1023) (hole : i ≠ 767) :
    ((sin1024 ℝ).get? i).getD 0 = ((tableEntry (if i < 767 then i else i + 1)).2 : ℝ) := by
  have entries : i < sin1024Entries.length := inside.trans_eq length_sin1024Entries.symm
  have mended : sineEntries[if i < 767 then i else i + 1]? = sin1024Entries[i]? :=
    getElem?_mended _ _ entries hole
  have bound : (if i < 767 then i else i + 1) < sineEntries.length := by
    rw [length_sineEntries]
    split <;> omega
  rw [List.getElem?_eq_getElem bound, List.getElem?_eq_getElem entries, ← tableEntry_snd] at mended
  rw [(sin1024 ℝ).get?_of_lt inside, Option.getD_some, Option.some.inj mended]
  rfl

/-- The sine of the angle `q` 1024ths of a turn. -/
theorem abs_sin1024_sub_le {i : ℕ} (inside : i < 1023) (hole : i ≠ 767) {q : ℝ}
    (low : (i : ℝ) ≤ q) (high : q ≤ i + 1) :
    |((sin1024 ℝ).get? i).getD 0 - Real.sin (q * (Real.pi / 512))| ≤ 0.00614 := by
  obtain ⟨k, hk, near, entry⟩ : ∃ k : ℕ, k < 1024 ∧ |(k : ℝ) - q| ≤ 1 ∧
      ((sin1024 ℝ).get? i).getD 0 = ((tableEntry k).2 : ℝ) := by
    refine ⟨if i < 767 then i else i + 1, by split <;> omega, ?_, sin1024_get? inside hole⟩
    rw [abs_le]
    split
    · constructor <;> linarith
    · push_cast
      constructor <;> linarith
  have table : |((tableEntry k).2 : ℝ) - Real.sin (k * (Real.pi / 512))| ≤ 1 / 10 ^ 6 := by
    have im := (Complex.abs_im_le_norm _).trans (norm_tableEntry_sub_le hk)
    rwa [Complex.sub_im, Complex.exp_ofReal_mul_I_im] at im
  have positive : 0 < Real.pi / 512 := by positivity
  have angle : |Real.sin (k * (Real.pi / 512)) - Real.sin (q * (Real.pi / 512))| ≤
      Real.pi / 512 := by
    calc |Real.sin (k * (Real.pi / 512)) - Real.sin (q * (Real.pi / 512))|
        ≤ |k * (Real.pi / 512) - q * (Real.pi / 512)| := Real.abs_sin_sub_sin_le _ _
      _ = |(k : ℝ) - q| * (Real.pi / 512) := by
          rw [← sub_mul, abs_mul, abs_of_pos positive]
      _ ≤ Real.pi / 512 := mul_le_of_le_one_left positive.le near
  have above := Real.pi_lt_d4
  rw [entry]
  refine (abs_sub_le _ _ _).trans ((add_le_add table angle).trans ?_)
  linarith

/-! ## The oscillator -/

/-- No sample looks up the entry that is no sine, with its in-phase index ... -/
theorem tableIndex_ne (g : ℕ) : tableIndex ℝ g ≠ 767 := by
  rw [tableIndex_eq]
  omega

/-- ... or with its quadrature index. -/
theorem quadrature_ne (g : ℕ) : (tableIndex ℝ g + 256) % 1024 ≠ 767 := by
  rw [tableIndex_eq]
  omega

/-- The angle of sample `g`, in 1024ths of a turn. -/
noncomputable def angle (g : ℕ) : ℝ := ((1024 : ℕ) : ℝ) * Int.fract ((g : ℝ) * shiftFactor)

theorem tableIndex_le (g : ℕ) : (tableIndex ℝ g : ℝ) ≤ angle g ∧ angle g < tableIndex ℝ g + 1 := by
  have nonneg : 0 ≤ angle g := mul_nonneg (Nat.cast_nonneg _) (Int.fract_nonneg _)
  have index : tableIndex ℝ g = ⌊angle g⌋₊ := Int.floor_toNat _
  rw [index]
  exact ⟨Nat.floor_le nonneg, Nat.lt_floor_add_one _⟩

/-- Whole turns do not matter. -/
theorem angle_turn (g : ℕ) :
    ∃ turns : ℤ, angle g * (Real.pi / 512) =
      2 * Real.pi * ((g : ℝ) * shiftFactor) - turns * (2 * Real.pi) := by
  refine ⟨⌊(g : ℝ) * shiftFactor⌋, ?_⟩
  have fraction := Int.self_sub_floor ((g : ℝ) * shiftFactor)
  rw [angle, ← fraction]
  push_cast
  ring

theorem abs_sine_sub_le (g : ℕ) :
    |sine ℝ g - Real.sin (2 * Real.pi * ((g : ℝ) * shiftFactor))| ≤ 0.00614 := by
  obtain ⟨low, high⟩ := tableIndex_le g
  obtain ⟨turns, turned⟩ := angle_turn g
  have near := abs_sin1024_sub_le (tableIndex_lt g) (tableIndex_ne g) low high.le
  rwa [turned, Real.sin_sub_int_mul_two_pi] at near

theorem abs_cosine_sub_le (g : ℕ) :
    |cosine ℝ g - Real.cos (2 * Real.pi * ((g : ℝ) * shiftFactor))| ≤ 0.00614 := by
  obtain ⟨low, high⟩ := tableIndex_le g
  obtain ⟨turns, turned⟩ := angle_turn g
  have bound := tableIndex_lt (K := ℝ) g
  -- a quarter turn further on, less the turn that the remainder takes off
  obtain ⟨less, whole⟩ : ∃ less : ℤ,
      (((tableIndex ℝ g + 256) % 1024 : ℕ) : ℝ) = tableIndex ℝ g + 256 - less * 1024 := by
    refine ⟨((tableIndex ℝ g + 256) / 1024 : ℕ), ?_⟩
    have division := Nat.mod_add_div (tableIndex ℝ g + 256) 1024
    have cast : (((tableIndex ℝ g + 256) % 1024 : ℕ) : ℝ) +
        1024 * (((tableIndex ℝ g + 256) / 1024 : ℕ) : ℝ) = tableIndex ℝ g + 256 := by
      exact_mod_cast division
    rw [Int.cast_natCast]
    linarith
  have near := abs_sin1024_sub_le (quadrature_lt (K := ℝ) g) (quadrature_ne g)
    (q := angle g + 256 - less * 1024) (by rw [whole]; linarith) (by rw [whole]; linarith)
  have quarter : (angle g + 256 - less * 1024) * (Real.pi / 512) =
      2 * Real.pi * ((g : ℝ) * shiftFactor) + Real.pi / 2 - (turns + less : ℤ) * (2 * Real.pi) := by
    rw [sub_mul, add_mul, turned]
    push_cast
    ring
  rwa [quarter, Real.sin_sub_int_mul_two_pi, Real.sin_add_pi_div_two] at near

/-- What sample `g` is multiplied with. -/
noncomputable def oscillator (g : ℕ) : ℂ := ⟨cosine ℝ g, sine ℝ g⟩

/-- What it ought to be multiplied with. -/
noncomputable def exactOscillator (g : ℕ) : ℂ := Real.fourierChar ((g : ℝ) * shiftFactor)

/-- **The oscillator is off by less than a hundredth**, however long it has run. -/
theorem norm_oscillator_sub_le (g : ℕ) : ‖oscillator g - exactOscillator g‖ ≤ 0.0087 := by
  have exact : exactOscillator g =
      Complex.exp ((2 * Real.pi * ((g : ℝ) * shiftFactor) : ℝ) * Complex.I) := by
    rw [exactOscillator, Real.fourierChar_apply]
  have re : |(oscillator g - exactOscillator g).re| ≤ 0.00614 := by
    rw [exact, Complex.sub_re, Complex.exp_ofReal_mul_I_re]
    exact abs_cosine_sub_le g
  have im : |(oscillator g - exactOscillator g).im| ≤ 0.00614 := by
    rw [exact, Complex.sub_im, Complex.exp_ofReal_mul_I_im]
    exact abs_sine_sub_le g
  have root : √2 ≤ 1.4143 := Real.sqrt_le_iff.mpr ⟨by norm_num, by norm_num⟩
  calc ‖oscillator g - exactOscillator g‖ ≤ √2 * max _ _ := Complex.norm_le_sqrt_two_mul_max _
    _ ≤ 1.4143 * 0.00614 :=
        mul_le_mul root (max_le re im) (le_max_of_le_left (abs_nonneg _)) (by norm_num)
    _ ≤ 0.0087 := by norm_num

/-! ## The mixed samples -/

/-- Sample `g` as it comes from the radio, on the scale of the receiver. -/
noncomputable def received (x : ℕ → ℤ × ℤ) (g : ℕ) : ℂ := toComplex (scaled (x g).1, scaled (x g).2)

theorem toComplex_mixed (x : ℕ → ℤ × ℤ) (g : ℕ) :
    toComplex (mixed x g) = received x g * oscillator g := by
  apply Complex.ext
  · rw [Complex.mul_re]
    rfl
  · rw [Complex.mul_im]
    rfl

theorem norm_mixed_sub_le (x : ℕ → ℤ × ℤ) (g : ℕ) :
    ‖toComplex (mixed x g) - received x g * exactOscillator g‖ ≤ 0.0087 * ‖received x g‖ := by
  rw [toComplex_mixed, ← mul_sub, norm_mul, mul_comm]
  exact mul_le_mul_of_nonneg_right (norm_oscillator_sub_le g) (norm_nonneg _)

/-! ## The run -/

/-- What is carried behind full blocks none of which the sink refuses. -/
theorem succeeds_loop_carried (platform : Platform) (fast_atan2f : ℝ → ℝ → ℝ) {x : ℕ → ℤ × ℤ}
    {b : ℕ} {s : MainState ℝ} {rounds : List Round} (carried : Carried x b s)
    (stream : Delivers x b rounds) (going : ∀ r ∈ rounds, r.fails = false) :
    Succeeds (s.loop platform fast_atan2f rounds) fun t => Carried x (b + rounds.length) t := by
  induction rounds generalizing b s with
  | nil => exact .pure carried
  | cons r rs ih =>
      obtain ⟨full, samples, rest⟩ := stream
      obtain ⟨this, others⟩ := List.forall_mem_cons.mp going
      unfold MainState.loop
      refine (succeeds_pass platform fast_atan2f carried full samples).bind ?_
      rintro ⟨t, ending⟩ ⟨entry, -, -, -, next⟩
      obtain ⟨rfl, later⟩ := next this
      have behind : b + (r :: rs).length = b + 1 + rs.length := by
        rw [List.length_cons]
        omega
      rw [behind]
      exact ih later rest others

/-- What the mixing loop of block `b` leaves: each sample turned as it ought to be, up to
`ε` of its size.  Before the first block there is no history. -/
def MixedWithin (ε : ℝ) (x : ℕ → ℤ × ℤ) (b : ℕ) (bufferShifted : CArray ℝ bufferCount) : Prop :=
  ∀ k < historyCnt + sampleCnt, (b = 0 → historyCnt ≤ k) →
    ∃ z : ℝ × ℝ, bufferShifted.get? (2 * k) = some z.1 ∧
      bufferShifted.get? (2 * k + 1) = some z.2 ∧
        ‖toComplex z - received x (sampleCnt * b + k - historyCnt) *
            exactOscillator (sampleCnt * b + k - historyCnt)‖ ≤
          ε * ‖received x (sampleCnt * b + k - historyCnt)‖

theorem Mixed.within {x : ℕ → ℤ × ℤ} {b : ℕ} {before after : CArray ℝ bufferCount}
    (mix : Mixed x b sampleCnt before after)
    (history : 1 ≤ b → before.HoldsPairs historyCnt (window x b)) :
    MixedWithin 0.0087 x b after := by
  intro k hk early
  have cells : after.get? (2 * k) = some (window x b k).1 ∧
      after.get? (2 * k + 1) = some (window x b k).2 := by
    rcases Nat.eq_zero_or_pos b with first | later
    · exact mix.block k (early first) hk
    · exact mix.holds (history later) k hk
  exact ⟨window x b k, cells.1, cells.2, norm_mixed_sub_le x _⟩

/-- **The shift in frequency is right in every block**, in exact arithmetic, whatever is
received and however many blocks there have been: the mixing loop stays inside the table
and the buffers, and what it leaves is within a hundredth of the exact shift. -/
theorem mixedWithin_loop (platform : Platform) (fast_atan2f : ℝ → ℝ → ℝ) (x : ℕ → ℤ × ℤ)
    (rounds : List Round) (r : Round) (stream : Delivers x 0 rounds)
    (going : ∀ r ∈ rounds, r.fails = false)
    (samples : r.samples.Holds sampleCnt (shift (sampleCnt * rounds.length) x))
    (buffer : CArray ℤ bufferCount) (bufferShifted : CArray ℝ bufferCount) :
    Succeeds ((start buffer bufferShifted).loop platform fast_atan2f rounds) fun s =>
      Succeeds (receiveSamples r s.buffer) fun buffer =>
        Succeeds (forUp (mixSample buffer) 0 sampleCnt (s.bufferShifted, s.sineSignal))
          fun t => MixedWithin 0.0087 x rounds.length t.1 := by
  refine (succeeds_loop_carried platform fast_atan2f (carried_start x buffer bufferShifted)
    stream going).mono fun s carried => ?_
  rw [Nat.zero_add] at carried
  refine (succeeds_mix carried samples).mono fun buffer mixing => ?_
  exact mixing.mono fun t mixed => mixed.2.within carried.history

/-- A pass over a block of a constant signal. -/
def constantRound (sample : ℤ × ℤ) (warmingUp : Bool) : Round where
  samples := fun _ => sample
  samplesRead := sampleCnt
  warmingUp := warmingUp
  written := downSampleCnt

/-- Of a constant signal at the end of the range, in its third block. -/
theorem mixedWithin_loop_constant :
    Succeeds ((start (fun _ => 1) (fun _ => (1 : ℝ))).loop .portable fast_atan2f
        [constantRound (127, -128) true, constantRound (127, -128) false]) fun s =>
      Succeeds (receiveSamples (constantRound (127, -128) false) s.buffer) fun buffer =>
        Succeeds (forUp (mixSample buffer) 0 sampleCnt (s.bufferShifted, s.sineSignal))
          fun t => MixedWithin 0.0087 (fun _ => (127, -128)) 2 t.1 := by
  have holds : ∀ warmingUp b, (constantRound (127, -128) warmingUp).samples.Holds sampleCnt
      (shift b fun _ => (127, -128)) := fun warmingUp b i hi => CArray.get?_of_lt _ hi
  exact mixedWithin_loop .portable fast_atan2f (fun _ => (127, -128))
    [constantRound (127, -128) true, constantRound (127, -128) false]
    (constantRound (127, -128) false) ⟨rfl, holds _ _, rfl, holds _ _, trivial⟩ (by decide)
    (holds _ _) (fun _ => 1) (fun _ => 1)

end SpectrogramServers.MyServer.Receiver
