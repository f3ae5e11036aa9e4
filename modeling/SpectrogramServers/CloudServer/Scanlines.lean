import Mathlib.Data.List.Basic
import Mathlib.Data.Rat.Defs
import Mathlib.Data.Int.Notation

/-!
# From a wav file to scanlines

A capture thread reads `i.wav` twice through one `FILE`: first it looks for the first
non-zero sample behind the 44-byte header, then it reads one scanline after the other,
4096 samples at a time with an overlap of one half, until ten seconds have been read or
the file ends.

## The model

Positions are bytes.  `fread(fileBuffer, 2, 4096, myFile) == 4096` is `fread` returning
`some`: a read that is short ends either loop, and what it has stored is never looked at.
What becomes of the mixed-down samples of one scanline (the window, the transform and the
colours) is the parameter `colors`, so the loops can be studied without them.

`skipSilence` and `rowLoop` recurse on what is left of the file and of the ten seconds.
Both are the loops of the source with the variables they change as arguments.

## The search

The source tests the result of a chunk with `firstNonzeroSample != 0`, and the variable
starts at 44.  So the loop is left after the first chunk whatever it holds
(`firstNonzeroSample_eq`), and the start of the scanlines is never further than one chunk
behind the header.

How many scanlines there are is a formula in the length of the file (`length_rowLoop`); a
picture is complete with 431 of them (`length_scanlines_eq_iff`).
-/

namespace SpectrogramServers.CloudServer.Scanlines

universe u

def tenSecondsOfBytes : ℕ := 1764000

/-- Two bytes of a little-endian `int16_t`. -/
def int16 (low high : UInt8) : ℤ :=
  let bits : ℤ := low.toNat + 256 * high.toNat
  if bits < 32768 then bits else bits - 65536

/-- A buffer of `int16_t`; an odd byte at the end is not one. -/
def int16s : List UInt8 → List ℤ
  | low :: high :: bytes => int16 low high :: int16s bytes
  | _ => []

/-- `fread(fileBuffer, 2, 4096, myFile)` at a position, where it reads all 4096
samples. -/
def fread (file : List UInt8) (position : ℕ) : Option (List ℤ) :=
  if position + 8192 ≤ file.length then some (int16s ((file.drop position).take 8192))
  else none

theorem fread_eq_some {file : List UInt8} {position : ℕ} {fileBuffer : List ℤ}
    (h : fread file position = some fileBuffer) : position + 8192 ≤ file.length := by
  rw [fread, Option.ite_none_right_eq_some] at h
  exact h.1

theorem length_int16s (bytes : List UInt8) : (int16s bytes).length = bytes.length / 2 := by
  fun_induction int16s bytes with
  | case1 low high bytes ih =>
      rw [List.length_cons, ih, List.length_cons, List.length_cons]
      omega
  | case2 bytes short =>
      rcases bytes with _ | ⟨low, _ | ⟨high, bytes⟩⟩
      · rfl
      · simp
      · exact absurd rfl (short low high bytes)

theorem length_fread {file : List UInt8} {position : ℕ} {fileBuffer : List ℤ}
    (h : fread file position = some fileBuffer) : fileBuffer.length = 4096 := by
  have inside := fread_eq_some h
  rw [fread, if_pos inside] at h
  rw [← Option.some.inj h, length_int16s, List.length_take, List.length_drop]
  omega

/-- The search of one chunk for a non-zero sample: `firstNonzeroSample` moves to it, and
stays where it is in a silent chunk. -/
def searchChunk (fileBuffer : List ℤ) (firstNonzeroSample : ℕ) : ℕ :=
  match fileBuffer.findIdx? fun sample => sample ≠ 0 with
  | some j => firstNonzeroSample + j * 2
  | none => firstNonzeroSample

/-- The loop that skips leading silence. -/
def skipSilence (file : List UInt8) (position firstNonzeroSample : ℕ) : ℕ :=
  match h : fread file position with
  | none => firstNonzeroSample
  | some fileBuffer =>
      let found := searchChunk fileBuffer firstNonzeroSample
      if found ≠ 0 then found else skipSilence file (position + 8192) (found + 8192)
  termination_by file.length - position
  decreasing_by
    have inside := fread_eq_some h
    omega

/-- Where the scanlines start. -/
def firstNonzeroSample (file : List UInt8) : ℕ := skipSilence file 44 44

/-- The mean of the two channels, scaled to `[-1, 1]`. -/
def mono (left right : ℤ) : ℚ :=
  let mean : ℚ := (left + right) / 2
  if mean > 0 then mean / 32767 else mean / 32768

/-- The samples of a scanline, one for each pair of channels. -/
def monoBuffer : List ℤ → List ℚ
  | left :: right :: fileBuffer => mono left right :: monoBuffer fileBuffer
  | _ => []

section Rows

variable {σ : Type u} (colors : List ℚ → σ)

/-- The loop that writes the scanlines, with `position` the position of the
`FILE`; each round reads 8192 bytes and steps 4096 back. -/
def rowLoop (file : List UInt8) (position currentByte : ℕ) : List σ :=
  if currentByte < tenSecondsOfBytes then
    match fread file position with
    | none => []
    | some fileBuffer =>
        colors (monoBuffer fileBuffer) ::
          rowLoop file (position + 8192 - 4096) (currentByte + 4096)
  else []
  termination_by tenSecondsOfBytes - currentByte
  decreasing_by omega

/-- The scanlines a capture thread computes from a wav file. -/
def scanlines (file : List UInt8) : List σ := rowLoop colors file (firstNonzeroSample file) 0

/-- **How many scanlines there are**: as many as the ten seconds have steps of 4096 bytes,
or as many as the file has windows, whichever is less. -/
theorem length_rowLoop (file : List UInt8) (position currentByte : ℕ) :
    (rowLoop colors file position currentByte).length =
      min ((tenSecondsOfBytes - currentByte + 4095) / 4096)
        ((file.length - position - 4096) / 4096) := by
  fun_induction rowLoop colors file position currentByte with
  | case1 position currentByte inTime short =>
      have outside : file.length < position + 8192 := by
        by_contra inside
        rw [fread, if_pos (Nat.not_lt.mp inside)] at short
        cases short
      rw [List.length_nil]
      omega
  | case2 position currentByte inTime fileBuffer read ih =>
      have inside := fread_eq_some read
      rw [List.length_cons, ih]
      omega
  | case3 position currentByte late =>
      rw [List.length_nil]
      omega

/-- The scan stops in the first chunk: `firstNonzeroSample` is never zero there. -/
theorem firstNonzeroSample_eq (file : List UInt8) :
    firstNonzeroSample file =
      match fread file 44 with
      | none => 44
      | some fileBuffer => searchChunk fileBuffer 44 := by
  rw [firstNonzeroSample, skipSilence]
  split
  next short => rw [short]
  next fileBuffer read =>
      have positive : searchChunk fileBuffer 44 ≠ 0 := by
        rw [searchChunk]
        split <;> omega
      rw [read]
      exact if_pos positive

/-- The scan looks no further than the first chunk. -/
theorem firstNonzeroSample_le (file : List UInt8) : firstNonzeroSample file ≤ 8236 := by
  rw [firstNonzeroSample_eq]
  cases read : fread file 44 with
  | none => exact (by decide : 44 ≤ 8236)
  | some fileBuffer =>
      have length := length_fread read
      show searchChunk fileBuffer 44 ≤ 8236
      rw [searchChunk]
      cases found : fileBuffer.findIdx? fun sample => decide (sample ≠ 0) with
      | none => exact (by decide : 44 ≤ 8236)
      | some j =>
          have inside := (List.findIdx?_eq_some_iff_findIdx_eq.mp found).1
          show 44 + j * 2 ≤ 8236
          omega

/-- A picture has 431 scanlines exactly when there are ten seconds of samples
behind the start. -/
theorem length_scanlines_eq_iff (file : List UInt8) :
    (scanlines colors file).length = 431 ↔
      firstNonzeroSample file + 1769472 ≤ file.length := by
  rw [scanlines, length_rowLoop, tenSecondsOfBytes]
  omega

end Rows

end SpectrogramServers.CloudServer.Scanlines
