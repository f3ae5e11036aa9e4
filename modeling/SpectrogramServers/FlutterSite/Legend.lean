import SpectrogramServers.CloudServer.SpectrumColors

/-!
# The legend of the spectrogram

Under the spectrogram the page draws a gradient from blue over cyan to white, labelled 0
dBFS at its left end and -96 dBFS at its right end.  The capture thread of the server
computes its colours from a scale of its own.  A visitor reads the one with the other.

## Two scales

They have the same three colours in the same order, and differ in where the colours are:
the legend is cyan at -48 dBFS and the capture thread at -85.  So green grows by 85/16 for
each decibel in the legend and by 3 in the picture.  Below -48 dBFS the legend turns red
as well, where the picture is not red at all (`not_agree_lower`).

## Where they agree

`agree_legend_iff` says where the colours still agree within 1 per channel.  That the
scales cross at 0 dBFS only would leave one interval; there are two, since the written
byte is truncated while the drawn colour is not, and a green of 1 comes close to the
legend once more (`floor_close_iff`).

The gradient is Flutter's `LinearGradient` without stops, which spreads its colours
evenly, and `Color.lerp` between two of them.  Colours have channels in a field, so that
the drawn ones are exact and the written ones are bytes.
-/

namespace SpectrogramServers.FlutterSite.Legend

open CloudServer.SpectrumColors

universe u

section Gradient

variable {K : Type u} [Field K] [LinearOrder K] [IsStrictOrderedRing K]

/-- A colour whose channels are numbers. -/
@[ext] structure Color (K : Type u) where
  red : K
  green : K
  blue : K
  deriving DecidableEq

/-- `Color(value)`, without its opacity. -/
def Color.ofValue (value : ℕ) : Color K where
  red := ((value / 65536 % 256 : ℕ) : K)
  green := ((value / 256 % 256 : ℕ) : K)
  blue := ((value % 256 : ℕ) : K)

/-- The colour between two colours. -/
def Color.lerp (a b : Color K) (t : K) : Color K where
  red := a.red + (b.red - a.red) * t
  green := a.green + (b.green - a.green) * t
  blue := a.blue + (b.blue - a.blue) * t

/-- The colour at a distance behind the first of some colours that are one unit
apart. -/
def colorBehind (first : Color K) : List (Color K) → K → Color K
  | [], _ => first
  | second :: rest, distance =>
      if distance ≤ 1 then first.lerp second distance
      else colorBehind second rest (distance - 1)

/-- A `LinearGradient` without stops spreads its colours evenly. -/
def linearGradient (first : Color K) (rest : List (Color K)) (position : K) : Color K :=
  colorBehind first rest (position * (rest.length : ℕ))

/-- The gradient of the legend. -/
def legendGradient : K → Color K :=
  linearGradient (.ofValue 0xFF0000FF) [.ofValue 0xFF00FFFF, .ofValue 0xFFFFFFFF]

/-- The colour of the legend at a level: its left end is labelled 0 dBFS, its right end
-96 dBFS, and in between the labels suggest an even scale. -/
def legend (level : K) : Color K := legendGradient (level / -96)

/-- The first half of a gradient of three colours. -/
theorem linearGradient_first (a b c : Color K) {t : K} (h : t ≤ 1 / 2) :
    linearGradient a [b, c] t = a.lerp b (t * 2) := by
  have two : (([b, c] : List (Color K)).length : K) = 2 := by norm_num
  rw [linearGradient, two, colorBehind, if_pos (by linarith)]

/-- The second half. -/
theorem linearGradient_second (a b c : Color K) {t : K} (h : 1 / 2 < t) (h' : t ≤ 1) :
    linearGradient a [b, c] t = b.lerp c (t * 2 - 1) := by
  have two : (([b, c] : List (Color K)).length : K) = 2 := by norm_num
  rw [linearGradient, two, colorBehind, if_neg (by linarith), colorBehind, if_pos (by linarith)]

/-- The three colours of the legend are blue, cyan and white. -/
theorem legendGradient_eq : (legendGradient : K → Color K) =
    linearGradient ⟨0, 0, 255⟩ [⟨0, 255, 255⟩, ⟨255, 255, 255⟩] := by
  funext t
  simp [legendGradient, Color.ofValue]

/-- Down to -48 dBFS green rises. -/
theorem legend_upper {l : K} (h : -48 ≤ l) : legend l = ⟨0, -85 / 16 * l, 255⟩ := by
  rw [legend, legendGradient_eq, linearGradient_first _ _ _ (by linarith)]
  ext1 <;> simp only [Color.lerp] <;> ring

example : legend (-48 : ℚ) = ⟨0, 255, 255⟩ := by decide +kernel

/-- From there on red rises. -/
theorem legend_lower {l : K} (low : -96 ≤ l) (h : l < -48) :
    legend l = ⟨-85 / 16 * (l + 48), 255, 255⟩ := by
  rw [legend, legendGradient_eq,
    linearGradient_second _ _ _ (by linarith) (by linarith)]
  ext1 <;> simp only [Color.lerp] <;> ring

variable [FloorSemiring K]

/-- The colours agree within 1 per channel. -/
def Agree (written : Pixel) (drawn : Color K) : Prop :=
  |(written.red.toNat : K) - drawn.red| ≤ 1 ∧ |(written.green.toNat : K) - drawn.green| ≤ 1 ∧
    |(written.blue.toNat : K) - drawn.blue| ≤ 1

/-- **Where three units for each decibel are close to 85/16**, truncation
included. -/
theorem floor_close_iff {m : K} (nonneg : 0 ≤ m) :
    |(⌊3 * m⌋₊ : K) - 85 / 16 * m| ≤ 1 ↔ m ≤ 16 / 85 ∨ 1 / 3 ≤ m ∧ m ≤ 32 / 85 := by
  have below : (⌊3 * m⌋₊ : K) ≤ 3 * m := Nat.floor_le (by linarith)
  have above : 3 * m < ⌊3 * m⌋₊ + 1 := Nat.lt_floor_add_one (3 * m)
  constructor
  · intro close
    have near := (abs_le.mp close).1
    -- the two slopes part quickly, so the truncated value is 0 or 1
    have few : ⌊3 * m⌋₊ < 2 := by
      have real : (⌊3 * m⌋₊ : K) < 2 := by linarith
      exact_mod_cast real
    have value : ⌊3 * m⌋₊ = 0 ∨ ⌊3 * m⌋₊ = 1 := by omega
    rcases value with value | value
    · rw [value, Nat.cast_zero] at near
      left
      linarith
    · rw [value, Nat.cast_one] at near below
      right
      exact ⟨by linarith, by linarith⟩
  · rintro (first | ⟨low, high⟩)
    · have zero : ⌊3 * m⌋₊ = 0 := Nat.floor_eq_zero.mpr (by linarith)
      rw [zero, Nat.cast_zero, zero_sub, abs_neg, abs_of_nonneg (by linarith)]
      linarith
    · have one : ⌊3 * m⌋₊ = 1 := by
        rw [Nat.floor_eq_iff (by linarith)]
        push_cast
        exact ⟨by linarith, by linarith⟩
      rw [one, Nat.cast_one, abs_le]
      exact ⟨by linarith, by linarith⟩

end Gradient

/-! ## The two scales compared -/

/-- Where red is 0 and blue 255 on both sides, green decides. -/
theorem agree_iff_green (green : UInt8) (drawn : ℝ) :
    Agree ⟨0, green, 255⟩ ⟨0, drawn, 255⟩ ↔ |(green.toNat : ℝ) - drawn| ≤ 1 := by
  have red : ((0 : UInt8).toNat : ℝ) - 0 = 0 := by
    rw [sub_zero]
    exact Nat.cast_zero
  have blue : ((255 : UInt8).toNat : ℝ) - 255 = 0 := by
    have value : (255 : UInt8).toNat = 255 := rfl
    rw [value]
    norm_num
  rw [Agree, red, blue, abs_zero]
  exact ⟨fun h => h.2.1, fun h => ⟨zero_le_one, h, zero_le_one⟩⟩

/-- Down to -48 dBFS only green differs. -/
theorem agree_upper_iff {fft_out : ℝ × ℝ} (sounds : fft_out ≠ 0) (low : -48 ≤ level fft_out)
    (high : level fft_out ≤ 0) :
    Agree (binColors fft_out) (legend (level fft_out)) ↔
      -16 / 85 ≤ level fft_out ∨ -32 / 85 ≤ level fft_out ∧ level fft_out ≤ -1 / 3 := by
  have green : (uint8 (-3 * level fft_out)).toNat = ⌊3 * -level fft_out⌋₊ := by
    rw [toNat_uint8 (by linarith)]
    congr 1
    ring
  have slope : -85 / 16 * level fft_out = 85 / 16 * -level fft_out := by ring
  rw [binColors_upper sounds (by linarith) high, legend_upper low, agree_iff_green, green,
    slope, floor_close_iff (by linarith)]
  constructor
  · rintro (first | ⟨second, third⟩)
    · left
      linarith
    · right
      exact ⟨by linarith, by linarith⟩
  · rintro (first | ⟨second, third⟩)
    · left
      linarith
    · right
      exact ⟨by linarith, by linarith⟩

/-- Below -48 dBFS the legend is red where the capture thread is not. -/
theorem not_agree_lower {fft_out : ℝ × ℝ} (sounds : fft_out ≠ 0) (low : -96 ≤ level fft_out)
    (high : level fft_out < -48) : ¬ Agree (binColors fft_out) (legend (level fft_out)) := by
  rintro ⟨red, green, -⟩
  rw [legend_lower low high] at red green
  rcases le_or_gt (-85) (level fft_out) with upper | lower
  · rw [binColors_upper sounds upper (by linarith)] at red green
    -- red is still 0, so the level is just below -48, and there green is not 255
    have noRed := (abs_le.mp red).1
    have muchGreen := (abs_le.mp green).1
    rw [toNat_uint8 (by linarith)] at muchGreen
    have truncated : (⌊-3 * level fft_out⌋₊ : ℝ) ≤ -3 * level fft_out :=
      Nat.floor_le (by linarith)
    have none : (((0 : UInt8).toNat : ℕ) : ℝ) = 0 := Nat.cast_zero
    dsimp only at noRed muchGreen
    rw [none] at noRed
    linarith
  · rw [binColors_lower sounds (by linarith) lower.le] at red
    have littleRed := (abs_le.mp red).1
    rw [toNat_uint8 (by linarith)] at littleRed
    have truncated : (⌊-3 * level fft_out - 255⌋₊ : ℝ) ≤ -3 * level fft_out - 255 :=
      Nat.floor_le (by linarith)
    dsimp only at littleRed
    linarith

/-- **Where the legend is right.**  Between -96 and 0 dBFS the bytes that the capture
thread writes are within 1 of the colour of the legend exactly in two small intervals next
to 0 dBFS, together less than a third of a decibel. -/
theorem agree_legend_iff {fft_out : ℝ × ℝ} (sounds : fft_out ≠ 0) (low : -96 ≤ level fft_out)
    (high : level fft_out ≤ 0) :
    Agree (binColors fft_out) (legend (level fft_out)) ↔
      -16 / 85 ≤ level fft_out ∨ -32 / 85 ≤ level fft_out ∧ level fft_out ≤ -1 / 3 := by
  rcases le_or_gt (-48) (level fft_out) with upper | lower
  · exact agree_upper_iff sounds upper high
  · refine iff_of_false (not_agree_lower sounds low lower) ?_
    rintro (near | ⟨near, -⟩)
    · linarith
    · linarith

/-- At full scale they agree. -/
theorem agree_legend_fullScale : Agree (binColors (2048, 0)) (legend (level (2048, 0))) := by
  have zero : level (2048, 0) = 0 := by
    rw [level_real (by norm_num), div_self (by norm_num), Real.logb_one, mul_zero]
  exact (agree_legend_iff (by simp) (by rw [zero]; norm_num) zero.le).mpr
    (Or.inl (by rw [zero]; norm_num))

/-- **At -40 dBFS they do not**: the capture thread writes green 120, and the
legend has 212.5. -/
theorem not_agree_legend_fortyBelow : level (20.48, 0) = -40 ∧
    binColors (20.48, 0) = ⟨0, 120, 255⟩ ∧ legend (level (20.48, 0)) = ⟨0, 212.5, 255⟩ ∧
      ¬ Agree (binColors (20.48, 0)) (legend (level (20.48, 0))) := by
  have forty : level (20.48, 0) = -40 := by
    have tenth : (20.48 / 2048 : ℝ) = 10 ^ (-2 : ℝ) := by
      rw [Real.rpow_neg (by norm_num)]
      norm_num
    rw [level_real (by norm_num), tenth, Real.logb_rpow (by norm_num) (by norm_num)]
    norm_num
  have sounds : ((20.48, 0) : ℝ × ℝ) ≠ 0 := by
    intro zero
    have first := congrArg Prod.fst zero
    norm_num at first
  have written : binColors (20.48, 0) = ⟨0, 120, 255⟩ := by
    rw [binColors_upper sounds (by rw [forty]; norm_num) (by rw [forty]; norm_num), forty]
    ext1
    · rfl
    · show uint8 (-3 * -40 : ℝ) = 120
      have green : (-3 * -40 : ℝ) = (120 : ℕ) := by norm_num
      rw [uint8, green, Nat.floor_natCast]
      rfl
    · rfl
  have drawn : legend (level (20.48, 0)) = ⟨0, 212.5, 255⟩ := by
    rw [forty, legend_upper (by norm_num)]
    ext1
    · rfl
    · norm_num
    · rfl
  refine ⟨forty, written, drawn, ?_⟩
  rw [written, drawn, agree_iff_green]
  have green : (120 : UInt8).toNat = 120 := rfl
  rw [green]
  norm_num

end SpectrogramServers.FlutterSite.Legend
