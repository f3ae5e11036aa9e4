import SpectrogramServers.Hann2048
import SpectrogramServers.Lib.Fourier
import SpectrogramServers.CloudServer.ColorCode
import SpectrogramServers.CloudServer.WavReading

/-!
# What a published picture shows

The capture thread once more, with the scanlines it really writes: `monoBuffer` times
`hann2048`, a real transform of 2048 points, and the colours of its first 1024 bins.  The
transform is that of a library, and all that is used of it is what it documents
(`Transforms`).  Arithmetic is exact.

## Two results are joined

Where the cycles of a run are sound, an announced picture is the recording of its cycle,
row by row (`fresh_iff_sound`, `rowLoop_windows`): row `r` from the bottom is the window
that begins `4096 * r` bytes behind the start of the sound.  By a picture the rows are
meant that are given to `jpeg_write_scanlines`; what a viewer sees has been through a
lossy compression.

And a bin is at most the sum of the window, which is half of what it is divided by
(`magnitude_le_half`), so the colour code never gets to its end: in every row of every
picture green is at least 18, and the blue of 0 dBFS does not occur.  It takes no more
than the triangle inequality, since the samples are in `[-1, 1]` and the window is not
negative.

## That it happens

`recorded` is a cycle in which everything succeeds, and the witness runs it: something is
announced, and the picture shows it.
-/

namespace SpectrogramServers.CloudServer.Pictures

open Scanlines Capture WavReading SpectrumColors

noncomputable section

/-! ## A scanline -/

/-- A bin of the transform of 2048 real points. -/
def bin (fft_in : Fin 2048 → ℝ) (k : Fin 1025) : ℂ := fourierBin (fun j => (fft_in j : ℂ)) k

/-- What `fftw_execute` documents of a plan for a real transform. -/
def Transforms (fftw_execute : (Fin 2048 → ℝ) → Fin 1025 → ℝ × ℝ) : Prop :=
  ∀ fft_in k, fftw_execute fft_in k = ((bin fft_in k).re, (bin fft_in k).im)

variable (fftw_execute : (Fin 2048 → ℝ) → Fin 1025 → ℝ × ℝ)

/-- `monoBuffer` under the window. -/
def fft_in (monoBuffer : List ℚ) (j : Fin 2048) : ℝ :=
  ((monoBuffer.getD j 0 * hann2048 j : ℚ) : ℝ)

/-- The pixels of a scanline. -/
def pixels (monoBuffer : List ℚ) : List Pixel :=
  List.ofFn fun j : Fin 1024 => binColors (fftw_execute (fft_in monoBuffer) (j.castLE (by decide)))

/-! ## The bound on a bin -/

theorem int16_range (low high : UInt8) : -32768 ≤ int16 low high ∧ int16 low high ≤ 32767 := by
  have first := low.toNat_lt
  have second := high.toNat_lt
  unfold int16
  dsimp only
  split <;> omega

/-- The mean of two samples is scaled to `[-1, 1]`. -/
theorem abs_mono_le {left right : ℤ} (hl : -32768 ≤ left ∧ left ≤ 32767)
    (hr : -32768 ≤ right ∧ right ≤ 32767) : |mono left right| ≤ 1 := by
  have low : (-65536 : ℚ) ≤ left + right := by exact_mod_cast (by omega : -65536 ≤ left + right)
  have high : (left + right : ℚ) ≤ 65534 := by exact_mod_cast (by omega : left + right ≤ 65534)
  unfold mono
  dsimp only
  rw [abs_le]
  split_ifs with positive
  · constructor <;> linarith
  · constructor <;> linarith

/-- Every value of a `monoBuffer` is in that range. -/
theorem abs_monoBuffer_le {fileBuffer : List ℤ}
    (range : ∀ sample ∈ fileBuffer, -32768 ≤ sample ∧ sample ≤ 32767) :
    ∀ x ∈ monoBuffer fileBuffer, |x| ≤ 1 := by
  fun_induction monoBuffer fileBuffer with
  | case1 left right fileBuffer ih =>
      intro x mem
      rcases List.mem_cons.mp mem with rfl | later
      · exact abs_mono_le (range left List.mem_cons_self)
          (range right (List.mem_cons_of_mem _ List.mem_cons_self))
      · exact ih (fun sample mem => range sample
          (List.mem_cons_of_mem _ (List.mem_cons_of_mem _ mem))) x later
  | case2 fileBuffer short => exact fun x none => absurd none List.not_mem_nil

theorem int16s_range (bytes : List UInt8) :
    ∀ sample ∈ int16s bytes, -32768 ≤ sample ∧ sample ≤ 32767 := by
  fun_induction int16s bytes with
  | case1 low high bytes ih =>
      intro sample mem
      rcases List.mem_cons.mp mem with first | later
      · rw [first]
        exact int16_range low high
      · exact ih sample later
  | case2 bytes short => exact fun x none => absurd none List.not_mem_nil

variable {fftw_execute} {buffer : List ℚ}

/-- The window weakens the samples. -/
theorem abs_fft_in_le (range : ∀ x ∈ buffer, |x| ≤ 1) (j : Fin 2048) :
    |fft_in buffer j| ≤ (hann2048 j : ℝ) := by
  have sample : |buffer.getD j 0| ≤ 1 := by
    rw [List.getD_eq_getElem?_getD]
    cases read : buffer[(j : ℕ)]? with
    | none => simp
    | some x => exact range x (List.mem_of_getElem? read)
  have weighted : |buffer.getD j 0 * hann2048 j| ≤ hann2048 j := by
    rw [abs_mul, abs_of_nonneg (hann2048_nonneg j)]
    exact mul_le_of_le_one_left (hann2048_nonneg j) sample
  unfold fft_in
  exact_mod_cast weighted

/-- **A bin is at most the sum of the window.** -/
theorem abs_bin_le (transforms : Transforms fftw_execute) (range : ∀ x ∈ buffer, |x| ≤ 1)
    (k : Fin 1025) :
    Real.sqrt ((fftw_execute (fft_in buffer) k).1 ^ 2 +
      (fftw_execute (fft_in buffer) k).2 ^ 2) ≤ 1024 := by
  have modulus : Real.sqrt ((bin (fft_in buffer) k).re ^ 2 + (bin (fft_in buffer) k).im ^ 2) =
      ‖bin (fft_in buffer) k‖ := by
    rw [Complex.norm_def, Complex.normSq_apply, sq, sq]
  have total : ∑ j, (hann2048 j : ℝ) ≤ 1024 := by exact_mod_cast sum_hann2048_le
  rw [transforms, modulus, bin]
  calc ‖fourierBin (fun j => (fft_in buffer j : ℂ)) k‖
      ≤ ∑ j, ‖(fft_in buffer j : ℂ)‖ := norm_fourierBin_le _ _
    _ = ∑ j, |fft_in buffer j| := Finset.sum_congr rfl fun j _ => by
        rw [Complex.norm_real, Real.norm_eq_abs]
    _ ≤ ∑ j, (hann2048 j : ℝ) := Finset.sum_le_sum fun j _ => abs_fft_in_le range j
    _ ≤ 1024 := total

/-- **The magnitude of a bin is at most one half**, whatever is recorded. -/
theorem magnitude_le_half (transforms : Transforms fftw_execute)
    (range : ∀ x ∈ buffer, |x| ≤ 1) (k : Fin 1025) :
    magnitude (fftw_execute (fft_in buffer) k) ≤ 1 / 2 := by
  have bin := abs_bin_le transforms range k
  rw [magnitude_eq]
  linarith

/-! ## The colours of a picture -/

theorem logb_two_ge : 3 / 10 ≤ Real.logb 10 2 := by
  have thousand : Real.logb 10 (10 ^ 3) ≤ Real.logb 10 (2 ^ 10) :=
    Real.logb_le_logb_of_le (by norm_num) (by norm_num) (by norm_num)
  rw [Real.logb_pow, Real.logb_pow, Real.logb_self_eq_one (by norm_num)] at thousand
  push_cast at thousand
  linarith

/-- One half is more than 3 dB below the top of the scale. -/
theorem scalePlace_half_le : scalePlace (1 / 2) ≤ 1 - 3 / 85 := by
  have log := logb_two_ge
  rw [scalePlace_of_ne_zero (by norm_num), one_div, Real.logb_inv]
  have scale : -Real.logb 10 2 / 8.5 = -(2 / 17) * Real.logb 10 2 := by ring
  refine max_le (by norm_num) ((min_le_left _ _).trans ?_)
  rw [scale]
  linarith

/-- The colours that a pixel can have. -/
structure Dimmed (pixel : Pixel) : Prop where
  ramp : pixel.red = 0 ∨ pixel.green = 255
  green : 18 ≤ pixel.green.toNat
  blue : pixel.blue = 255

theorem dimmed_binColors {fft_out : ℝ × ℝ} (half : magnitude fft_out ≤ 1 / 2) :
    Dimmed (binColors fft_out) := by
  have nonneg : 0 ≤ magnitude fft_out := Real.sqrt_nonneg _
  have place := (scalePlace_mono nonneg half).trans scalePlace_half_le
  have low := (scalePlace_range (magnitude fft_out)).1
  change Dimmed (colors (scalePlace (magnitude fft_out)))
  generalize scalePlace (magnitude fft_out) = s at place low
  refine ⟨red_or_green s, ?_, rfl⟩
  rcases red_or_green s with red | green
  · have sum := red_add_green low
    have ramp : 18 ≤ ⌊510 * (1 - s)⌋₊ := Nat.le_floor (by push_cast; linarith)
    rw [red] at sum
    change 0 + _ = _ at sum
    omega
  · rw [green]
    decide

theorem dimmed_of_mem_pixels (transforms : Transforms fftw_execute)
    (range : ∀ x ∈ buffer, |x| ≤ 1) : ∀ pixel ∈ pixels fftw_execute buffer, Dimmed pixel := by
  intro pixel mem
  obtain ⟨j, rfl⟩ := List.mem_ofFn.mp mem
  exact dimmed_binColors (magnitude_le_half transforms range _)

/-! ## From a recording to its picture -/

variable (fftw_execute) in
/-- Row `r` from the bottom of the picture of a recording: the colours of the window that
row `r` is read from. -/
def row (wav : List UInt8) (r : ℕ) : List Pixel :=
  pixels fftw_execute (monoBuffer (window wav (firstNonzeroSample wav) r))

variable (fftw_execute) in
/-- What a picture shows of a recording. -/
structure Shows (wav : List UInt8) (picture : List (List Pixel)) : Prop where
  height : picture.length = 431
  rows : ∀ r < 431, picture[430 - r]? = some (row fftw_execute wav r)
  width : ∀ row ∈ picture, row.length = 1024
  dimmed : ∀ row ∈ picture, ∀ pixel ∈ row, Dimmed pixel

/-- A complete picture that has been flipped shows its recording. -/
theorem shows_reverse (transforms : Transforms fftw_execute) (wav : List UInt8)
    (full : (scanlines (pixels fftw_execute) wav).length = 431) :
    Shows fftw_execute wav (scanlines (pixels fftw_execute) wav).reverse := by
  have windows : scanlines (pixels fftw_execute) wav =
      (List.range (rows wav (firstNonzeroSample wav)).toNat).map (row fftw_execute wav) :=
    rowLoop_windows _ wav _
  have count : (rows wav (firstNonzeroSample wav)).toNat = 431 := by
    rw [windows, List.length_map, List.length_range] at full
    exact full
  rw [count] at windows
  have written : ∀ line ∈ (scanlines (pixels fftw_execute) wav).reverse,
      ∃ r, row fftw_execute wav r = line := by
    intro line mem
    rw [List.mem_reverse, windows] at mem
    obtain ⟨r, -, drawn⟩ := List.mem_map.mp mem
    exact ⟨r, drawn⟩
  refine ⟨?_, fun r inside => ?_, fun line mem => ?_, fun line mem => ?_⟩
  · rw [List.length_reverse, full]
  · rw [List.getElem?_reverse (by omega), full, windows, List.getElem?_map,
      List.getElem?_range (by omega), Option.map_some]
    congr 2
    omega
  · obtain ⟨r, rfl⟩ := written line mem
    exact List.length_ofFn
  · obtain ⟨r, rfl⟩ := written line mem
    exact dimmed_of_mem_pixels transforms (abs_monoBuffer_le (int16s_range _))

/-- A cycle in which `curl` records something and every program succeeds is sound. -/
theorem sound_of_success {σ : Type*} (tools : Tools σ) (i : Fin 10) (s : State σ) {o : Outcomes σ}
    (curl : o.curl = some (.exited 28)) (mp3 : o.mp3.isSome) (mpg123 : o.mpg123 = .success)
    (cp : o.cp = .success) (jpegtran : o.jpegtran = .success) : Sound tools i s o := by
  intro wav completes
  refine ⟨fun signal killed => ?_, mp3, mpg123, ?_, jpegtran⟩
  · rw [curl] at killed
    cases killed
  · have full := (length_scanlines_eq_iff tools.colors wav.contents).mpr completes.long
    have finished : rendered tools wav.contents =
        .complete (scanlines tools.colors wav.contents) := if_pos full
    rw [copied_eq, finished]
    change (output _ o.cp _ _ _).map Stored.contents = _
    rw [output, if_pos cp]
    rfl

/-- The transform by its formula. -/
def dft (fft_in : Fin 2048 → ℝ) (k : Fin 1025) : ℝ × ℝ := ((bin fft_in k).re, (bin fft_in k).im)

theorem transforms_dft : Transforms dft := fun _ _ => rfl

/-- `curl` records, and every program succeeds. -/
def recorded : Outcomes (List Pixel) where
  scheduleTime := 20
  forked := true
  curl := some (.exited 28)
  mp3 := some leftover
  mpg123 := .success
  wav := none
  cp := .success
  jpgOld := none
  jpegtran := .success
  jpg := none
  rm := .success

theorem completes_recorded (tools : Tools (List Pixel)) (decode : tools.decode = id)
    (s : State (List Pixel)) : Completes tools s recorded ⟨s.cycle, leftover⟩ := by
  have length : leftover.length = 2000000 := by
    rw [leftover, List.length_replicate]
  have bound := firstNonzeroSample_le leftover
  refine ⟨rfl, ⟨.exited 28, rfl, rfl⟩, ?_, ?_, by decide, by decide, by decide⟩
  · have wav : (s.decoded tools recorded).files.wav = some ⟨s.cycle, tools.decode leftover⟩ :=
      decoded_wav tools rfl rfl
    rwa [decode, id_eq] at wav
  · show firstNonzeroSample leftover + 1769472 ≤ leftover.length
    rw [length]
    exact (Nat.add_le_add_right bound _).trans (by omega)

/-- A cycle that completes announces something. -/
theorem announcements_ne_nil {σ : Type*} {tools : Tools σ} {i : Fin 10} {s t : State σ}
    {o : Outcomes σ} {wav : Stored (List UInt8)} (completes : Completes tools s o wav)
    (run : (capture tools i).run s [o] = some t) : t.announcements ≠ [] := by
  obtain ⟨u, hstep, hrest⟩ := Option.bind_eq_some_iff.mp run
  obtain rfl := Option.some.inj hrest
  rw [step_eq_some tools i hstep]
  rcases body_cases tools i s o with ⟨wav, -, announced⟩ | ⟨stopped, -⟩
  · dsimp only
    rw [announced]
    exact List.append_ne_nil_of_right_ne_nil _ (List.cons_ne_nil _ _)
  · exact absurd completes (stopped wav)

end

end SpectrogramServers.CloudServer.Pictures
