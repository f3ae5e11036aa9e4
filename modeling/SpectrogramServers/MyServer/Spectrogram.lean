import Mathlib.Algebra.Order.Floor.Ring
import SpectrogramServers.Lib.CArray

/-!
# `writeToBuffer`

The method of `IQWebSocketServer` that `main` calls with the samples of every block, and
that makes a line of the spectrogram of every 1024 of them.

## What a call does

It takes 1000 complex samples out of its argument, every fifth pair of doubles, and puts
them into `i_buffer` and `q_buffer` from cell `buffer_index` on.  When the first 2048
cells are filled it transforms them, publishes the levels of 1024 bins in
`magnitude_buffer`, copies what lies behind cell 2048 to the front and rewinds
`buffer_index` by 1024.

The copies are `memcpy` calls with a length of 1000, which is in bytes.  The model copies
whole doubles, `copiedCells` of them, and not as many as the code seems to want.

## What is a parameter

`double` is an ordered field with a floor, so the arithmetic is exact.  The library
functions `fftw_execute`, `std::abs` on complex numbers and `log10`, and the table
`hann2048`, are the fields of `Library`; what is proved for any library holds of the real
one.  Array accesses are checked: a call that goes out of bounds is `none`, so that
staying inside is something to prove (`SpectrogramIndex`).

The blocks that are transformed are kept as history.  They are what the windows of the
spectrogram are compared with.
-/

namespace SpectrogramServers.MyServer.Spectrogram

universe u

/-- What `writeToBuffer` uses from elsewhere. -/
structure Library (K : Type u) where
  hann2048 : CArray K 2048
  fftw_execute : CArray (K × K) 2048 → CArray (K × K) 2048
  abs : K × K → K
  log10 : K → K

/-- The fields of `IQWebSocketServer` that `writeToBuffer` works on.  `blocks` is
history: for every transform, the pairs of cells it was given before they were
multiplied by `hann2048`. -/
structure Buffers (K : Type u) where
  i_buffer : CArray K 3048
  q_buffer : CArray K 3048
  buffer_index : ℕ
  fft_in : CArray (K × K) 2048
  magnitude_buffer : CArray ℤ 2048
  blocks : List (CArray (K × K) 2048)

/-- The object as constructed: the arrays hold whatever they hold. -/
def start {K : Type u} (i_buffer q_buffer : CArray K 3048) (fft_in : CArray (K × K) 2048)
    (magnitude_buffer : CArray ℤ 2048) : Buffers K where
  i_buffer := i_buffer
  q_buffer := q_buffer
  buffer_index := 0
  fft_in := fft_in
  magnitude_buffer := magnitude_buffer
  blocks := []

/-- The result of an operation on `unsigned int`. -/
def unsignedInt (x : ℕ) : ℕ := x % 2 ^ 32

/-- The number of doubles that `1000` bytes are. -/
def copiedCells : ℕ := 1000 / 8

section

variable {K : Type u} [Field K] [LinearOrder K] [FloorRing K] {m : ℕ}

/-! ## The level of a bin -/

/-- `hann2048Sum`, which is 1023.5. -/
def hann2048Sum : K := ((2047 : ℕ) : K) / ((2 : ℕ) : K)

/-- C's `round`: halves go away from zero. -/
def round (x : K) : ℤ :=
  if 0 ≤ x then ⌊x + 1 / ((2 : ℕ) : K)⌋ else ⌈x - 1 / ((2 : ℕ) : K)⌉

/-- `local_buffer[i]` for the modulus of bin `i`; of a value that does not fit
into `uint8_t` the low eight bits are kept. -/
def level (log10 : K → K) (modulus : K) : ℤ :=
  let normalize := modulus / ((2048 : ℕ) : K) / hann2048Sum
  let normalize := if normalize ≤ 0 then ((2048 : ℕ) : K) / ((10000 : ℕ) : K) else normalize
  let dbFSMagnitude := ((20 : ℕ) : K) * log10 normalize
  let dbFSMagnitude := if 0 < dbFSMagnitude then 0 else dbFSMagnitude
  |round ((-((80 : ℕ) : K) - dbFSMagnitude) * ((255 : ℕ) : K) / -((80 : ℕ) : K))| % 256

/-! ## The call -/

/-- One iteration of the loop that takes the samples, on `i_buffer` and
`q_buffer`. -/
def takeSample (buffer : CArray K m) (buffer_index i : ℕ)
    (iq : CArray K 3048 × CArray K 3048) : Option (CArray K 3048 × CArray K 3048) :=
  (buffer.get? (2 * (i - buffer_index) * 5)).bind fun re =>
  (iq.1.set? i re).bind fun i_buffer =>
  (buffer.get? (2 * (i - buffer_index) * 5 + 1)).bind fun im =>
  (iq.2.set? i im).bind fun q_buffer =>
  some (i_buffer, q_buffer)

/-- The samples of the argument are appended. -/
def Buffers.append (s : Buffers K) (buffer : CArray K m) : Option (Buffers K) :=
  (forUp (takeSample buffer s.buffer_index) s.buffer_index 1000
    (s.i_buffer, s.q_buffer)).bind fun iq =>
  some { s with
    i_buffer := iq.1
    q_buffer := iq.2
    buffer_index := unsignedInt (s.buffer_index + 1000) }

/-- The first 2048 cells. -/
def Buffers.block (s : Buffers K) : CArray (K × K) 2048 := fun j =>
  (s.i_buffer (j.castLE (by decide)), s.q_buffer (j.castLE (by decide)))

/-- The loop that fills `fft_in`. -/
def Buffers.window (s : Buffers K) (hann2048 : CArray K 2048) :
    Option (CArray (K × K) 2048) :=
  forUp (fun i (fft_in : CArray (K × K) 2048) =>
    (s.i_buffer.get? i).bind fun re =>
    (hann2048.get? i).bind fun w =>
    (s.q_buffer.get? i).bind fun im =>
    fft_in.set? i (re * w, 1 * im * w)) 0 2048 s.fft_in

/-- The loop that fills `local_buffer`. -/
def levels (abs : K × K → K) (log10 : K → K) (fft_out : CArray (K × K) 2048) :
    Option (CArray ℤ 1024) :=
  forUp (fun i (local_buffer : CArray ℤ 1024) =>
    (fft_out.get? i).bind fun bin =>
    local_buffer.set? i (level log10 (abs bin))) 0 1024 fun _ => 0

/-- The transform and its publication. -/
def Buffers.transform (library : Library K) (s : Buffers K) : Option (Buffers K) :=
  (s.window library.hann2048).bind fun fft_in =>
  (levels library.abs library.log10 (library.fftw_execute fft_in)).bind fun local_buffer =>
  (s.magnitude_buffer.move? 0 local_buffer 0 1024).bind fun magnitude_buffer =>
  some { s with
    fft_in := fft_in
    magnitude_buffer := magnitude_buffer
    blocks := s.blocks ++ [s.block] }

/-- The two `memcpy` calls and the new index. -/
def Buffers.rewind (s : Buffers K) : Option (Buffers K) :=
  (s.i_buffer.move? 0 s.i_buffer 2048 copiedCells).bind fun i_buffer =>
  (s.q_buffer.move? 0 s.q_buffer 2048 copiedCells).bind fun q_buffer =>
  some { s with
    i_buffer := i_buffer
    q_buffer := q_buffer
    buffer_index := unsignedInt (s.buffer_index + 2 ^ 32 - 1024) }

/-- `writeToBuffer(buffer)`. -/
def Buffers.writeToBuffer (library : Library K) (s : Buffers K) (buffer : CArray K m) :
    Option (Buffers K) :=
  (s.append buffer).bind fun s =>
  if 2048 ≤ s.buffer_index then (s.transform library).bind Buffers.rewind else some s

/-- The first `n` calls, call `c` with the argument `calls c`. -/
def Buffers.writeAll (library : Library K) (s : Buffers K) (calls : ℕ → CArray K m) :
    ℕ → Option (Buffers K)
  | 0 => some s
  | n + 1 => (s.writeAll library calls n).bind fun s => s.writeToBuffer library (calls n)

end

end SpectrogramServers.MyServer.Spectrogram
