import Mathlib.Algebra.Group.Nat.Even
import Mathlib.Data.List.GetD
import SpectrogramServers.Lib.Lists
import SpectrogramServers.Lib.LittleEndian
import SpectrogramServers.CloudServer.Freshness

/-!
# Which bytes of a wav file become scanlines

The capture thread reads the file that `mpg123` has written and makes one scanline of the
image from each window of samples.  Three questions are settled here, for files of any
length: which windows there are, whether silence in front is left out, and whether a
window begins with a whole frame.

## The windows

The rows are read from windows of 8192 bytes at a distance of 4096, as long as the file
and the ten seconds last (`rowLoop_windows`).  Two conditions end the loop, a short
`fread` and the count of bytes, and the number of rows is the smaller of what they allow
(`rows`).  The image is complete exactly when ten seconds and a window follow the start;
otherwise the thread gives up on it (`scanlines_of_wav`).

## Where the first window begins

It begins at the result of the search for the end of the silence.  The search has two
slips:

* it gives up at the end of the first chunk and then returns the position of the header's
  end, so silence of a chunk or more becomes scanlines (`skipsSilence_iff`);
* it counts single samples, not frames, so where the sound begins on the right the windows
  begin in the middle of a frame and mix the right sample of each with the left of the
  next (`aligned_iff_beginsLeft`).

Both equivalences are exact, and their conditions only look at the first chunk.
-/

namespace SpectrogramServers.CloudServer.WavReading

open Scanlines Capture

universe u

/-! ## Samples and frames -/

/-- The sample at a byte position. -/
def sampleAt (file : List UInt8) (position : ℕ) : ℤ :=
  int16 (file.getD position 0) (file.getD (position + 1) 0)

/-- `n` samples from a byte position on. -/
def samples (file : List UInt8) (position n : ℕ) : List ℤ :=
  (List.range n).map fun k => sampleAt file (position + 2 * k)

/-- One sample after the other. -/
theorem samples_succ (file : List UInt8) (position n : ℕ) :
    samples file position (n + 1) = sampleAt file position :: samples file (position + 2) n := by
  have later : ∀ k, position + 2 * (k + 1) = position + 2 + 2 * k := by omega
  simp only [samples, map_range_succ, Nat.mul_zero, Nat.add_zero, later]

/-- What is read from the file, where it is long enough. -/
theorem int16s_take_drop {file : List UInt8} {position n : ℕ}
    (inside : position + 2 * n ≤ file.length) :
    int16s ((file.drop position).take (2 * n)) = samples file position n := by
  induction n generalizing position with
  | zero => rfl
  | succ n ih =>
      have low : position < file.length := by omega
      have high : position + 1 < file.length := by omega
      rw [List.drop_eq_getElem_cons low, List.drop_eq_getElem_cons high, Nat.mul_succ,
        List.take_succ_cons, List.take_succ_cons, int16s, ih (by omega), samples_succ, sampleAt,
        List.getD_eq_getElem _ _ low, List.getD_eq_getElem _ _ high]

/-- A complete chunk is 4096 samples. -/
theorem fread_eq {file : List UInt8} {position : ℕ} (inside : position + 8192 ≤ file.length) :
    fread file position = some (samples file position 4096) := by
  have read := int16s_take_drop (show position + 2 * 4096 ≤ file.length from inside)
  rw [fread, if_pos inside, ← read]

/-- The left sample of frame `k` behind the header. -/
def left (file : List UInt8) (k : ℕ) : ℤ := sampleAt file (44 + 4 * k)

/-- The right sample of frame `k`. -/
def right (file : List UInt8) (k : ℕ) : ℤ := sampleAt file (44 + 4 * k + 2)

/-- `n` values of `monoBuffer` from a byte position on. -/
def mixed (file : List UInt8) (position n : ℕ) : List ℚ :=
  (List.range n).map fun j =>
    mono (sampleAt file (position + 4 * j)) (sampleAt file (position + 4 * j + 2))

theorem mixed_succ (file : List UInt8) (position n : ℕ) :
    mixed file position (n + 1) =
      mono (sampleAt file position) (sampleAt file (position + 2)) ::
        mixed file (position + 4) n := by
  have later : ∀ j, position + 4 * (j + 1) = position + 4 + 4 * j := by omega
  simp only [mixed, map_range_succ, Nat.mul_zero, Nat.add_zero, later]

theorem monoBuffer_samples (file : List UInt8) (position n : ℕ) :
    monoBuffer (samples file position (2 * n)) = mixed file position n := by
  induction n generalizing position with
  | zero => rfl
  | succ n ih =>
      rw [Nat.mul_succ, samples_succ, samples_succ, monoBuffer, ih, mixed_succ]

/-! ## Windows -/

/-- The loop that writes the scanlines, with the position at which each is read and its
`monoBuffer`. -/
def rowReads (file : List UInt8) (position currentByte : ℕ) : List (ℕ × List ℚ) :=
  if currentByte < tenSecondsOfBytes then
    match fread file position with
    | none => []
    | some fileBuffer =>
        (position, monoBuffer fileBuffer) ::
          rowReads file (position + 8192 - 4096) (currentByte + 4096)
  else []
  termination_by tenSecondsOfBytes - currentByte
  decreasing_by omega

/-- The scanlines are the colours of what is read. -/
theorem rowLoop_eq_map {σ : Type u} (colors : List ℚ → σ) (file : List UInt8)
    (position currentByte : ℕ) :
    rowLoop colors file position currentByte =
      (rowReads file position currentByte).map fun row => colors row.2 := by
  fun_induction rowReads file position currentByte with
  | case1 position currentByte inTime short =>
      rw [rowLoop, if_pos inTime, short, List.map_nil]
  | case2 position currentByte inTime fileBuffer read ih =>
      rw [rowLoop, if_pos inTime, read, List.map_cons, ← ih]
  | case3 position currentByte late =>
      rw [rowLoop, if_neg late, List.map_nil]

/-- How often the loop reads: as long as the count and the file allow. -/
theorem length_rowReads (file : List UInt8) (position currentByte : ℕ) :
    (rowReads file position currentByte).length =
      min ((tenSecondsOfBytes - currentByte + 4095) / 4096)
        ((file.length - position - 4096) / 4096) := by
  have length := length_rowLoop (fun row : List ℚ => row) file position currentByte
  rw [rowLoop_eq_map, List.length_map] at length
  exact length

/-- **Row `r` is read 4096 bytes behind the row before.** -/
theorem rowReads_getElem? {file : List UInt8} {position currentByte r : ℕ} {row : ℕ × List ℚ}
    (read : (rowReads file position currentByte)[r]? = some row) :
    position + 4096 * r + 8192 ≤ file.length ∧
      row = (position + 4096 * r, mixed file (position + 4096 * r) 2048) := by
  fun_induction rowReads file position currentByte generalizing r with
  | case1 position currentByte inTime short => cases read
  | case2 position currentByte inTime fileBuffer found ih =>
      have inside := fread_eq_some found
      cases r with
      | zero =>
          rw [fread_eq inside] at found
          obtain rfl := Option.some.inj found
          obtain rfl := Option.some.inj read
          exact ⟨inside, congrArg (Prod.mk position) (monoBuffer_samples file position 2048)⟩
      | succ r =>
          have step := ih (List.getElem?_cons_succ.symm.trans read)
          have next : position + 8192 - 4096 + 4096 * r = position + 4096 * (r + 1) := by omega
          rw [next] at step
          exact step
  | case3 position currentByte late => cases read

/-! ## Rows -/

/-- The declared height of the image. -/
def image_height : ℕ := 431

/-- The number of rows that a file has from a start on. -/
def rows (file : List UInt8) (start : ℕ) : ℤ :=
  min image_height (max 0 (((file.length : ℤ) - start - 8192) / 4096 + 1))

/-- The samples that row `r` is computed from. -/
def window (file : List UInt8) (start r : ℕ) : List ℤ :=
  int16s ((file.drop (start + 4096 * r)).take 8192)

theorem length_rowLoop_eq_rows {σ : Type u} (colors : List ℚ → σ) (file : List UInt8)
    (start : ℕ) : (rowLoop colors file start 0).length = (rows file start).toNat := by
  rw [length_rowLoop, rows, image_height, tenSecondsOfBytes]
  omega

theorem window_inside {file : List UInt8} {start r : ℕ} (row : r < (rows file start).toNat) :
    start + 4096 * r + 8192 ≤ file.length := by
  rw [rows, image_height] at row
  omega

theorem window_eq {file : List UInt8} {start r : ℕ}
    (inside : start + 4096 * r + 8192 ≤ file.length) :
    window file start r = samples file (start + 4096 * r) 4096 :=
  int16s_take_drop (show start + 4096 * r + 2 * 4096 ≤ file.length from inside)

/-- **The rows that are written**: one for each window that fits, from the start on, at a
distance of half a window. -/
theorem rowLoop_windows {σ : Type u} (colors : List ℚ → σ) (file : List UInt8) (start : ℕ) :
    rowLoop colors file start 0 =
      (List.range (rows file start).toNat).map fun r =>
        colors (monoBuffer (window file start r)) := by
  have length := length_rowLoop_eq_rows colors file start
  refine List.ext_getElem? fun r => ?_
  rw [rowLoop_eq_map, List.length_map] at length
  rw [rowLoop_eq_map, List.getElem?_map, List.getElem?_map]
  by_cases row : r < (rows file start).toNat
  · have inside := window_inside row
    have exists_row : (rowReads file start 0)[r]? = some (rowReads file start 0)[r] :=
      List.getElem?_eq_getElem (length ▸ row)
    have frames : monoBuffer (samples file (start + 4096 * r) 4096) =
        mixed file (start + 4096 * r) 2048 := monoBuffer_samples file (start + 4096 * r) 2048
    rw [exists_row, (rowReads_getElem? exists_row).2, List.getElem?_range row, Option.map_some,
      Option.map_some, window_eq inside, frames]
  · rw [List.getElem?_eq_none (length ▸ Nat.not_lt.mp row),
      List.getElem?_eq_none (by rw [List.length_range]; exact Nat.not_lt.mp row),
      Option.map_none, Option.map_none]

/-- The image is complete exactly when ten seconds and a window follow the start. -/
theorem length_rowLoop_eq_image_height_iff {σ : Type u} (colors : List ℚ → σ)
    (file : List UInt8) (start : ℕ) :
    (rowLoop colors file start 0).length = image_height ↔
      1769472 ≤ (file.length : ℤ) - start := by
  rw [length_rowLoop_eq_rows, rows, image_height]
  omega

/-- There are ten seconds and a window behind the start of the scanlines. -/
def TenSeconds (file : List UInt8) : Prop :=
  1769472 ≤ (file.length : ℤ) - firstNonzeroSample file

instance (file : List UInt8) : Decidable (TenSeconds file) :=
  inferInstanceAs (Decidable (1769472 ≤ _))

theorem scanlines_eq_image_height_iff {σ : Type u} (colors : List ℚ → σ) (file : List UInt8) :
    (scanlines colors file).length = 431 ↔ TenSeconds file :=
  length_rowLoop_eq_image_height_iff colors file (firstNonzeroSample file)

section Thread

variable {σ : Type u} (tools : Tools σ) (i : Fin 10)

/-- **What becomes of a wav file**: from every start on the rows are computed from the
windows that fit into the file, at most as many as the image has; and the thread finishes
the image and converts it exactly where ten seconds and a window follow the start. -/
theorem scanlines_of_wav :
    (∀ (file : List UInt8) (start : ℕ),
      rowLoop tools.colors file start 0 =
          (List.range (rows file start).toNat).map (fun r =>
            tools.colors (monoBuffer (window file start r))) ∧
        (∀ r < (rows file start).toNat, start + 4096 * r + 8192 ≤ file.length) ∧
        ((rowLoop tools.colors file start 0).length = image_height ↔
          1769472 ≤ (file.length : ℤ) - start)) ∧
      (∀ file : List UInt8, rendered tools file =
        if TenSeconds file then .complete (scanlines tools.colors file) else .incomplete) ∧
      ∀ (s : State σ) (o : Outcomes σ) (status : WaitStatus),
        s.afterCurl tools i o status =
          if status.badCurl then s
          else
            match (s.mpg123 tools o).files.wav with
            | none => s.mpg123 tools o
            | some wav =>
                if TenSeconds wav.contents then
                  ((s.mpg123 tools o).render tools i wav.contents).convert tools i o
                else (s.mpg123 tools o).render tools i wav.contents := by
  refine ⟨fun file start => ⟨?_, ?_, ?_⟩, fun file => ?_, fun s o status => ?_⟩
  · exact rowLoop_windows tools.colors file start
  · exact fun r row => window_inside row
  · exact length_rowLoop_eq_image_height_iff tools.colors file start
  · rw [rendered]
    exact if_congr (scanlines_eq_image_height_iff tools.colors file) rfl rfl
  · unfold State.afterCurl
    cases decoded : (s.mpg123 tools o).files.wav with
    | none => simp only [decoded]
    | some wav => simp only [decoded, scanlines_eq_image_height_iff]

end Thread

/-! ## Silence -/

/-- How many complete chunks follow the header. -/
def chunks (file : List UInt8) : ℕ := (file.length - 44) / 8192

/-- Where the search should end: at the first non-zero sample of the complete chunks, or
behind them if there is none. -/
def silenceEnd (file : List UInt8) : ℕ :=
  match (List.range (4096 * chunks file)).find? fun k => sampleAt file (44 + 2 * k) ≠ 0 with
  | some k => 44 + 2 * k
  | none => 44 + 8192 * chunks file

/-- The first `n` samples are zero. -/
def SilentUpTo (file : List UInt8) (n : ℕ) : Prop := ∀ k < n, sampleAt file (44 + 2 * k) = 0

/-- The scanlines begin where the silence ends, and the first of them not with a zero.  A
file too short for a scanline has no first one. -/
structure SkipsSilence (file : List UInt8) : Prop where
  start : firstNonzeroSample file = silenceEnd file
  loud : rowReads file (firstNonzeroSample file) 0 ≠ [] →
    sampleAt file (firstNonzeroSample file) ≠ 0

/-- The first chunk is complete and silent.  The search then returns what it returns for a
file that begins with sound. -/
def BeginsSilent (file : List UInt8) : Prop := 44 + 8192 ≤ file.length ∧ SilentUpTo file 4096

theorem silentUpTo_or_first (file : List UInt8) (n : ℕ) :
    SilentUpTo file n ∨
      ∃ k < n, sampleAt file (44 + 2 * k) ≠ 0 ∧ SilentUpTo file k := by
  induction n with
  | zero => exact Or.inl fun k lt => absurd lt (Nat.not_lt_zero k)
  | succ n ih =>
      rcases ih with silent | ⟨k, lt, loud, silent⟩
      · by_cases zero : sampleAt file (44 + 2 * n) = 0
        · refine Or.inl fun k lt => ?_
          rcases Nat.lt_succ_iff_lt_or_eq.mp lt with before | rfl
          · exact silent k before
          · exact zero
        · exact Or.inr ⟨n, n.lt_succ_self, zero, silent⟩
      · exact Or.inr ⟨k, Nat.lt_succ_of_lt lt, loud, silent⟩

theorem silenceEnd_of_silent {file : List UInt8} (silent : SilentUpTo file (4096 * chunks file)) :
    silenceEnd file = 44 + 8192 * chunks file := by
  have none_found : (List.range (4096 * chunks file)).find?
      (fun k => sampleAt file (44 + 2 * k) ≠ 0) = none := by
    rw [List.find?_eq_none]
    intro k member
    rw [silent k (List.mem_range.mp member)]
    decide
  rw [silenceEnd, none_found]

theorem silenceEnd_of_first {file : List UInt8} {k : ℕ} (lt : k < 4096 * chunks file)
    (loud : sampleAt file (44 + 2 * k) ≠ 0) (silent : SilentUpTo file k) :
    silenceEnd file = 44 + 2 * k := by
  have found : (List.range (4096 * chunks file)).find?
      (fun k => sampleAt file (44 + 2 * k) ≠ 0) = some k := by
    rw [List.find?_range_eq_some]
    refine ⟨decide_eq_true loud, List.mem_range.mpr lt, fun j before => ?_⟩
    rw [silent j before]
    rfl
  rw [silenceEnd, found]

theorem searchChunk_samples_of_silent {file : List UInt8} (silent : SilentUpTo file 4096) :
    searchChunk (samples file 44 4096) 44 = 44 := by
  have none_found : (samples file 44 4096).findIdx? (fun sample => sample ≠ 0) = none := by
    rw [List.findIdx?_eq_none_iff]
    intro sample member
    obtain ⟨k, inside, rfl⟩ := List.mem_map.mp member
    rw [silent k (List.mem_range.mp inside)]
    rfl
  rw [searchChunk, none_found]

theorem searchChunk_samples_of_first {file : List UInt8} {k : ℕ} (lt : k < 4096)
    (loud : sampleAt file (44 + 2 * k) ≠ 0) (silent : SilentUpTo file k) :
    searchChunk (samples file 44 4096) 44 = 44 + 2 * k := by
  have found : (samples file 44 4096).findIdx? (fun sample => sample ≠ 0) = some k := by
    rw [samples, List.findIdx?_map, List.findIdx?_eq_some_iff_getElem]
    refine ⟨by rwa [List.length_range], ?_, fun j before => ?_⟩
    · rw [List.getElem_range, Function.comp_apply]
      simpa using loud
    · rw [List.getElem_range, Function.comp_apply, silent j before]
      decide
  rw [searchChunk, found]
  exact congrArg (44 + ·) (Nat.mul_comm k 2)

/-- **The search stops in the first chunk**, at its first non-zero sample if it has one. -/
theorem firstNonzeroSample_cases (file : List UInt8) :
    (file.length < 44 + 8192 ∧ firstNonzeroSample file = 44) ∨
      (BeginsSilent file ∧ firstNonzeroSample file = 44) ∨
      (44 + 8192 ≤ file.length ∧ ∃ k < 4096, sampleAt file (44 + 2 * k) ≠ 0 ∧
        SilentUpTo file k ∧ firstNonzeroSample file = 44 + 2 * k) := by
  rw [firstNonzeroSample_eq]
  rcases Nat.lt_or_ge file.length (44 + 8192) with short | long
  · have outside : fread file 44 = none := if_neg (Nat.not_le.mpr short)
    rw [outside]
    exact Or.inl ⟨short, rfl⟩
  · rw [fread_eq long]
    dsimp only
    rcases silentUpTo_or_first file 4096 with silent | ⟨k, lt, loud, silent⟩
    · rw [searchChunk_samples_of_silent silent]
      exact Or.inr (Or.inl ⟨⟨long, silent⟩, rfl⟩)
    · rw [searchChunk_samples_of_first lt loud silent]
      exact Or.inr (Or.inr ⟨long, k, lt, loud, silent, rfl⟩)

theorem one_le_chunks {file : List UInt8} (long : 44 + 8192 ≤ file.length) : 1 ≤ chunks file :=
  (Nat.le_div_iff_mul_le (by decide)).mpr (by omega)

/-- A silent first chunk should be skipped. -/
theorem lt_silenceEnd {file : List UInt8} (begins : BeginsSilent file) :
    44 < silenceEnd file := by
  have complete := one_le_chunks begins.1
  rcases silentUpTo_or_first file (4096 * chunks file) with silent | ⟨k, lt, loud, silent⟩
  · rw [silenceEnd_of_silent silent]
    omega
  · rw [silenceEnd_of_first lt loud silent]
    have positive : k ≠ 0 := by
      rintro rfl
      exact loud (begins.2 0 (by decide))
    omega

/-- The search ends where it should exactly where the first chunk is not silent. -/
theorem firstNonzeroSample_eq_silenceEnd_iff (file : List UInt8) :
    firstNonzeroSample file = silenceEnd file ↔ ¬ BeginsSilent file := by
  rcases firstNonzeroSample_cases file with ⟨short, e⟩ | ⟨begins, e⟩ |
    ⟨long, k, lt, loud, silent, e⟩
  · have none_complete : chunks file = 0 := Nat.div_eq_of_lt (by omega)
    refine iff_of_true ?_ fun begins => absurd begins.1 (Nat.not_le.mpr short)
    rw [e, silenceEnd, none_complete]
    rfl
  · rw [e]
    exact iff_of_false (lt_silenceEnd begins).ne fun other => other begins
  · have complete := one_le_chunks long
    refine iff_of_true ?_ fun begins => loud (begins.2 k lt)
    rw [e, silenceEnd_of_first (by omega) loud silent]

theorem rowReads_ne_nil_iff (file : List UInt8) (start : ℕ) :
    rowReads file start 0 ≠ [] ↔ start + 8192 ≤ file.length := by
  rw [← List.length_pos_iff, length_rowReads, tenSecondsOfBytes]
  omega

/-- **Silence is skipped exactly where the first chunk does not consist of it.**  A
shorter silence ends inside the first chunk and is found; a longer one is not. -/
theorem skipsSilence_iff (file : List UInt8) : SkipsSilence file ↔ ¬ BeginsSilent file := by
  rw [← firstNonzeroSample_eq_silenceEnd_iff]
  refine ⟨fun skips => skips.start, fun start => ⟨start, fun row => ?_⟩⟩
  rw [rowReads_ne_nil_iff] at row
  rw [firstNonzeroSample_eq_silenceEnd_iff] at start
  rcases firstNonzeroSample_cases file with ⟨short, e⟩ | ⟨begins, e⟩ |
    ⟨long, k, lt, loud, silent, e⟩
  · rw [e] at row
    exact absurd row (Nat.not_le.mpr short)
  · exact absurd begins start
  · rw [e]
    exact loud

/-- The header that `mpg123 -w` writes before `bytes` bytes of stereo samples. -/
def wavHeader (bytes : ℕ) : List UInt8 :=
  [82, 73, 70, 70] ++ bytesLE 4 (36 + bytes) ++
    [87, 65, 86, 69, 102, 109, 116, 32, 16, 0, 0, 0, 1, 0, 2, 0, 68, 172, 0, 0, 16, 177, 2, 0,
      4, 0, 16, 0, 100, 97, 116, 97] ++ bytesLE 4 bytes

theorem length_wavHeader (bytes : ℕ) : (wavHeader bytes).length = 44 := by
  simp [wavHeader]

theorem sampleAt_wavHeader_append (bytes : ℕ) (data : List UInt8) (position : ℕ) :
    sampleAt (wavHeader bytes ++ data) (44 + position) = sampleAt data position := by
  have header := length_wavHeader bytes
  rw [sampleAt, List.getD_append_right _ _ _ _ (by omega),
    List.getD_append_right _ _ _ _ (by omega), header, Nat.add_assoc, Nat.add_sub_cancel_left,
    Nat.add_sub_cancel_left, sampleAt]

theorem sampleAt_replicate {n position : ℕ} (byte : UInt8) (inside : position + 1 < n) :
    sampleAt (List.replicate n byte) position = int16 byte byte := by
  have low : position < n := Nat.lt_of_succ_lt inside
  rw [sampleAt, List.getD_replicate byte low, List.getD_replicate byte inside]

theorem int16_zero : int16 0 0 = 0 := by decide

/-- A silent chunk. -/
def silentFile : List UInt8 := wavHeader 8192 ++ List.replicate 8192 0

theorem beginsSilent_silentFile : BeginsSilent silentFile := by
  refine ⟨?_, fun k lt => ?_⟩
  · rw [silentFile, List.length_append, length_wavHeader, List.length_replicate]
  · rw [silentFile, sampleAt_wavHeader_append, sampleAt_replicate _ (by omega), int16_zero]

/-- The silent chunk becomes a scanline. -/
theorem not_skipsSilence_silentFile : ¬ SkipsSilence silentFile := by
  rw [skipsSilence_iff]
  exact fun loud => loud beginsSilent_silentFile

/-! ## Frames -/

/-- Every scanline is read from the beginning of a frame, and every value of its
`monoBuffer` is mixed from the two samples of one frame. -/
def Aligned (file : List UInt8) : Prop :=
  ∀ row ∈ rowReads file (firstNonzeroSample file) 0, ∃ k, row.1 = 44 + 4 * k ∧
    row.2 = (List.range 2048).map fun j => mono (left file (k + j)) (right file (k + j))

/-- The first non-zero sample of the first chunk is a left one, or too few bytes follow it
for a scanline. -/
def BeginsLeft (file : List UInt8) : Prop :=
  ∀ k < 4096, 44 + 2 * k + 8192 ≤ file.length → sampleAt file (44 + 2 * k) ≠ 0 →
    SilentUpTo file k → Even k

theorem mixed_frames (file : List UInt8) (k n : ℕ) :
    mixed file (44 + 4 * k) n =
      (List.range n).map fun j => mono (left file (k + j)) (right file (k + j)) := by
  refine List.map_congr_left fun j _ => ?_
  rw [left, right, Nat.mul_add, ← Nat.add_assoc]

theorem aligned_of_start {file : List UInt8} {k : ℕ}
    (start : firstNonzeroSample file = 44 + 4 * k) : Aligned file := by
  intro row member
  obtain ⟨r, read⟩ := List.getElem?_of_mem member
  have position : 44 + 4 * k + 4096 * r = 44 + 4 * (k + 1024 * r) := by omega
  rw [start] at read
  obtain ⟨-, rfl⟩ := rowReads_getElem? read
  rw [position]
  refine ⟨k + 1024 * r, rfl, ?_⟩
  dsimp only
  rw [mixed_frames]

/-- **The frames are kept together exactly where the sound begins on the left**, or too
late in the file for a scanline to be read. -/
theorem aligned_iff_beginsLeft (file : List UInt8) : Aligned file ↔ BeginsLeft file := by
  constructor
  · intro aligned k lt inside loud silent
    have e : firstNonzeroSample file = 44 + 2 * k := by
      rw [firstNonzeroSample_eq, fread_eq (by omega)]
      exact searchChunk_samples_of_first lt loud silent
    obtain ⟨row, rest, first⟩ := List.exists_cons_of_ne_nil
      ((rowReads_ne_nil_iff file (44 + 2 * k)).mpr inside)
    have read : (rowReads file (44 + 2 * k) 0)[0]? = some row := by
      rw [first, List.getElem?_cons_zero]
    obtain ⟨m, position, -⟩ := aligned row (e ▸ List.mem_of_getElem? read)
    rw [(rowReads_getElem? read).2] at position
    exact ⟨m, by omega⟩
  · intro begins
    rcases firstNonzeroSample_cases file with ⟨short, e⟩ | ⟨begins, e⟩ |
      ⟨long, k, lt, loud, silent, e⟩
    · exact aligned_of_start (k := 0) e
    · exact aligned_of_start (k := 0) e
    · by_cases inside : 44 + 2 * k + 8192 ≤ file.length
      · obtain ⟨m, half⟩ := begins k lt inside loud silent
        refine aligned_of_start (k := m) ?_
        omega
      · intro row member
        rw [e] at member
        have empty : rowReads file (44 + 2 * k) 0 = [] :=
          not_ne_iff.mp fun other => inside ((rowReads_ne_nil_iff _ _).mp other)
        rw [empty] at member
        cases member

/-- 2049 frames, of which the first is silent on the left. -/
def rightFile : List UInt8 := wavHeader (4 * 2049) ++ ([0, 0] ++ List.replicate 8194 1)

theorem length_rightFile : rightFile.length = 44 + 4 * 2049 := by
  rw [rightFile, List.length_append, length_wavHeader, List.length_append, List.length_replicate]
  rfl

/-- Its scanline mixes the right sample of each frame with the left sample of the next. -/
theorem not_aligned_rightFile : rightFile.length = 44 + 4 * 2049 ∧ ¬ Aligned rightFile := by
  refine ⟨length_rightFile, ?_⟩
  rw [aligned_iff_beginsLeft]
  intro begins
  have silent : sampleAt rightFile (44 + 2 * 0) = 0 := by
    rw [rightFile, sampleAt_wavHeader_append]
    exact int16_zero
  have loud : sampleAt rightFile (44 + 2 * 1) ≠ 0 := by
    have one : int16 1 1 ≠ 0 := by decide
    rw [rightFile, sampleAt_wavHeader_append]
    exact one
  have odd := begins 1 (by decide) (by rw [length_rightFile]; decide) loud fun k lt => ?_
  · exact absurd odd Nat.not_even_one
  · obtain rfl := Nat.lt_one_iff.mp lt
    exact silent

end SpectrogramServers.CloudServer.WavReading
