import Mathlib.Algebra.Order.Floor.Ring
import SpectrogramServers.MyServer.Tables

/-!
# The receiving loop of `main`

One pass of the loop takes `sampleCnt` complex samples from the radio, shifts
them in frequency with a table-driven oscillator, filters and decimates them,
demodulates the result, filters and decimates again, and gives 26 audio samples
to `writeSamples`.  What a pass knows of the passes before it is the end of
`bufferShifted`, which `memcpy` moves to the front, and `sineSignal`.

## What is exact here and is not in the program

`double` and `float` are an ordered field with a floor, so the arithmetic is
exact and conversions between the two change nothing.  Every array access is
checked against the size the array is declared with: a program that reads or
writes out of bounds is `none`.

For the oscillator this matters.  `shiftFactor` is exactly 50/441, so the phase
returns to 0 after 441 samples and no index into `sin1024` is ever above 1022.
In the program it is a `const float`, smaller by some 3.6e-9: after 441 samples
the phase is just below 1 instead of 0, the index is 1023, and `sin1024`, which
lacks a comma, has 1023 entries.  What is proved over this model, that the loop
stays inside the table among it, is about 50/441 and no promise about that read.

## What is left open

Three things come from outside and stay arbitrary: the samples and the count
that `receiveSamples` leaves, whether the clock is still within the first three
seconds, and the result of `writeSamples`.  `fast_atan2f` is a parameter.
`wrapped`, `unwrapped` and `difference` are cleared and never used, and are left
out.
-/

namespace SpectrogramServers.MyServer.Receiver

open Tables

universe u

/-! ## Sizes -/

def sampleCnt : ℕ := 10400
def filterLengthOne : ℕ := 33
def filterLengthTwo : ℕ := 33
def stageOneDecimation : ℕ := 40
def stageTwoDecimation : ℕ := 10
def afterFirstFilterCnt : ℕ := sampleCnt / stageOneDecimation
def downSampleCnt : ℕ := sampleCnt / stageOneDecimation / stageTwoDecimation

def bufferCount : ℕ :=
  sampleCnt * 2 + 2 * filterLengthOne + 2 * filterLengthTwo * stageOneDecimation

def bufferOffset : ℕ := 2 * filterLengthOne + 2 * filterLengthTwo * stageOneDecimation

def samplesFiltered : ℕ := afterFirstFilterCnt + filterLengthTwo + 1

/-- `MAX_PCM`. -/
def maxPCM : ℤ := 32767

/-- The branch of `#ifdef __APPLE__`. -/
inductive Platform where
  | portable
  | apple
  deriving DecidableEq, Repr

/-- The arrays a pass clears and fills.  `bufferFiltered` is what
`writeToBuffer` is given; no statement that is compiled fills it. -/
structure Block (K : Type u) where
  bufferFiltered : CArray K
    (sampleCnt * 2 + 2 * filterLengthTwo * stageOneDecimation + 2 * stageOneDecimation)
  decimatedFilter : CArray K (afterFirstFilterCnt * 2 + filterLengthTwo * 2 + 1 * 2)
  realDecimatedFilter : CArray K (afterFirstFilterCnt + filterLengthTwo + 1)
  imagDecimatedFilter : CArray K (afterFirstFilterCnt + filterLengthTwo + 1)
  demodded : CArray K (afterFirstFilterCnt + filterLengthTwo)
  convert_to_pcm : CArray K afterFirstFilterCnt
  downsampled_audio : CArray ℤ downSampleCnt

/-- What one pass meets outside: the samples that lie at `&buffer[bufferOffset]`
after `receiveSamples` and the count it returns, whether fewer than three seconds
have passed, and what `writeSamples` returns if it is called. -/
structure Round where
  samples : CArray (ℤ × ℤ) sampleCnt
  samplesRead : ℤ
  warmingUp : Bool
  written : ℤ

/-- The variables that live across passes.  `blocks` is history: for every pass
that was not broken off, the arrays it filled, `none` for a warm-up pass. -/
structure MainState (K : Type u) where
  buffer : CArray ℤ bufferCount
  bufferShifted : CArray K bufferCount
  sineSignal : K
  blocks : List (Option (Block K))

/-- The state before the loop: the two buffers hold whatever they hold. -/
def start {K : Type u} [Zero K] (buffer : CArray ℤ bufferCount)
    (bufferShifted : CArray K bufferCount) : MainState K where
  buffer := buffer
  bufferShifted := bufferShifted
  sineSignal := 0
  blocks := []

section

variable {K : Type u} [Field K] [LinearOrder K] [FloorRing K]

/-! ## The oscillator -/

/-- Conversion to an integer type: the fraction is cut off. -/
def truncate (x : K) : ℤ := if 0 ≤ x then ⌊x⌋ else ⌈x⌉

/-- The fraction `modf` returns. -/
def modf (x : K) : K := x - truncate x

/-- `frequencyShift / sample_rate`, without the rounding to `float`. -/
def shiftFactor : K := 2000000 / 17640000

/-- `a[i]` for an index of type `int`. -/
def index? {α : Type u} {n : ℕ} (a : CArray α n) (i : ℤ) : Option α :=
  if 0 ≤ i then a.get? i.toNat else none

/-- `inPhaseIndex` for the given `sineSignal`. -/
def inPhaseIndex (sineSignal : K) : ℤ :=
  if 1024 ≤ truncate (1024 * sineSignal) then 1023 else truncate (1024 * sineSignal)

/-- `quadratureIndex` for the given `sineSignal`. -/
def quadratureIndex (sineSignal : K) : ℤ :=
  if 1024 ≤ (truncate (1024 * sineSignal) + 256).tmod 1024 then 1023
  else (truncate (1024 * sineSignal) + 256).tmod 1024

/-- `((float) sample) / 128.0`. -/
def scaled (sample : ℤ) : K := sample / 128

/-- One iteration of the mixing loop, on `bufferShifted` and `sineSignal`. -/
def mixSample (buffer : CArray ℤ bufferCount) (i : ℕ) (s : CArray K bufferCount × K) :
    Option (CArray K bufferCount × K) :=
  let sineSignal := modf s.2
  (index? (sin1024 K) (inPhaseIndex sineSignal)).bind fun imagCosine =>
  (index? (sin1024 K) (quadratureIndex sineSignal)).bind fun realCosine =>
  (buffer.get? (bufferOffset + 2 * i)).bind fun re =>
  (buffer.get? (bufferOffset + 2 * i + 1)).bind fun im =>
  let bufferReal := scaled re
  let bufferImag := scaled im
  (s.1.set? (bufferOffset + 2 * i)
    (bufferReal * realCosine - bufferImag * imagCosine)).bind fun shifted =>
  (shifted.set? (bufferOffset + 2 * i + 1)
    (bufferReal * imagCosine + bufferImag * realCosine)).bind fun shifted =>
  some (shifted, sineSignal + shiftFactor)

/-- `receiveSamples(&buffer[bufferOffset], sampleCnt)`. -/
def receiveSamples (r : Round) (buffer : CArray ℤ bufferCount) :
    Option (CArray ℤ bufferCount) :=
  forUp (fun i buffer =>
    (r.samples.get? i).bind fun sample =>
    (buffer.set? (bufferOffset + 2 * i) sample.1).bind fun buffer =>
    buffer.set? (bufferOffset + 2 * i + 1) sample.2) 0 sampleCnt buffer

/-! ## The first filter -/

/-- `vDSP_dotprD(&a[i], strideA, &b[j], strideB, &sum, count)`: the strided dot
product. -/
def vDSP_dotprD {m n : ℕ} (a : CArray K m) (i strideA : ℕ) (b : CArray K n) (j strideB : ℕ)
    (count : ℕ) : Option K :=
  forUp (fun p sum =>
    (a.get? (i + p * strideA)).bind fun x =>
    (b.get? (j + p * strideB)).bind fun y =>
    some (sum + x * y)) 0 count 0

/-- `filter_coeff_one`. -/
def filter_coeff_one : CArray K filterLengthOne := normalized_fir1_32_02267573696 K

/-- `filter_coeff_two`. -/
def filter_coeff_two : CArray K filterLengthTwo := normalized_fir1_32_00170068027 K

/-- The loop over `p` that fills `realSum` and `imagSum`. -/
def filterSums (bufferShifted : CArray K bufferCount) (n : ℕ) : Option (K × K) :=
  forUp (fun p (sums : K × K) =>
    (bufferShifted.get? (n * stageOneDecimation * 2 + 2 * p)).bind fun re =>
    (bufferShifted.get? (n * stageOneDecimation * 2 + 1 + 2 * p)).bind fun im =>
    (filter_coeff_one.get? p).bind fun c =>
    some (sums.1 + re * c, sums.2 + im * c)) 0 filterLengthOne (0, 0)

/-- The loop over `n` without Accelerate. -/
def filterPortable (bufferShifted : CArray K bufferCount) (block : Block K) :
    Option (Block K) :=
  (forUp (fun n (decimatedFilter : CArray K _) =>
    (filterSums bufferShifted n).bind fun sums =>
    (decimatedFilter.set? (2 * n) sums.1).bind fun decimatedFilter =>
    decimatedFilter.set? (2 * n + 1) sums.2)
    0 (afterFirstFilterCnt + filterLengthTwo + 1) block.decimatedFilter).bind
      fun decimatedFilter => some { block with decimatedFilter := decimatedFilter }

/-- The loop over `n` with Accelerate. -/
def filterApple (bufferShifted : CArray K bufferCount) (block : Block K) :
    Option (Block K) :=
  forUp (fun n (block : Block K) =>
    (vDSP_dotprD bufferShifted (n * stageOneDecimation * 2) 2 filter_coeff_one 0 1
      filterLengthOne).bind fun re =>
    (block.realDecimatedFilter.set? n re).bind fun realDecimatedFilter =>
    (vDSP_dotprD bufferShifted (n * stageOneDecimation * 2 + 1) 2 filter_coeff_one 0 1
      filterLengthOne).bind fun im =>
    (block.imagDecimatedFilter.set? n im).bind fun imagDecimatedFilter =>
    some { block with
      realDecimatedFilter := realDecimatedFilter
      imagDecimatedFilter := imagDecimatedFilter })
    0 (afterFirstFilterCnt + filterLengthTwo + 1) block

/-! ## The demodulator -/

/-- The demodulating loop without Accelerate. -/
def demodulatePortable (fast_atan2f : K → K → K) (block : Block K) : Option (Block K) :=
  (forUp (fun i (demodded : CArray K _) =>
    (block.decimatedFilter.get? (2 * i)).bind fun undelayedReal =>
    (block.decimatedFilter.get? (2 * i + 1)).bind fun undelayedComplex =>
    (block.decimatedFilter.get? (2 * i + 2)).bind fun delayedReal =>
    (block.decimatedFilter.get? (2 * i + 3)).bind fun delayedComplex =>
    let productReal := undelayedReal * delayedReal - (-1 * undelayedComplex) * delayedComplex
    let productComplex := undelayedReal * delayedComplex + (-1 * undelayedComplex) * delayedReal
    demodded.set? i (fast_atan2f productComplex productReal))
    0 (samplesFiltered - 1) block.demodded).bind
      fun demodded => some { block with demodded := demodded }

/-- The demodulating loop with Accelerate. -/
def demodulateApple (fast_atan2f : K → K → K) (block : Block K) : Option (Block K) :=
  (forUp (fun i (demodded : CArray K _) =>
    (block.realDecimatedFilter.get? i).bind fun undelayedReal =>
    (block.imagDecimatedFilter.get? i).bind fun undelayedComplex =>
    (block.realDecimatedFilter.get? (i + 1)).bind fun delayedReal =>
    (block.imagDecimatedFilter.get? (i + 1)).bind fun delayedComplex =>
    let productReal := undelayedReal * delayedReal - (-undelayedComplex) * delayedComplex
    let productComplex := undelayedReal * delayedComplex + (-undelayedComplex) * delayedReal
    demodded.set? i (fast_atan2f productComplex productReal))
    0 (samplesFiltered - 1) block.demodded).bind
      fun demodded => some { block with demodded := demodded }

/-! ## The second filter and the quantiser -/

/-- The accumulating loop over `j` and `x` for one `i`. -/
def accumulatePcm (demodded : CArray K (afterFirstFilterCnt + filterLengthTwo)) (i : ℕ)
    (convert_to_pcm : CArray K afterFirstFilterCnt) : Option (CArray K afterFirstFilterCnt) :=
  forUp (fun x (convert_to_pcm : CArray K _) =>
    (convert_to_pcm.get? (i - filterLengthTwo)).bind fun sum =>
    (demodded.get? (i - filterLengthTwo + x)).bind fun sample =>
    (filter_coeff_two.get? x).bind fun c =>
    convert_to_pcm.set? (i - filterLengthTwo) (sum + sample * c))
    0 filterLengthTwo convert_to_pcm

/-- The body of the second filter for one `i`. -/
def filterPcm (platform : Platform)
    (demodded : CArray K (afterFirstFilterCnt + filterLengthTwo)) (i : ℕ)
    (convert_to_pcm : CArray K afterFirstFilterCnt) : Option (CArray K afterFirstFilterCnt) :=
  match platform with
  | .apple =>
      (vDSP_dotprD demodded (i - filterLengthTwo) 1 filter_coeff_two 0 1
        filterLengthTwo).bind fun sum => convert_to_pcm.set? (i - filterLengthTwo) sum
  | .portable => accumulatePcm demodded i convert_to_pcm

/-- The loop of the second filter. -/
def filterTwo (platform : Platform) (block : Block K) : Option (Block K) :=
  (forUp (filterPcm platform block.demodded) filterLengthTwo
    (samplesFiltered - 1 - filterLengthTwo) block.convert_to_pcm).bind
      fun convert_to_pcm => some { block with convert_to_pcm := convert_to_pcm }

/-- `(int16_t) x`: the fraction is cut off, and of an integer that does not fit
the low 16 bits are kept. -/
def toInt16 (x : K) : ℤ := (truncate x).bmod (2 ^ 16)

/-- What ends up in `downsampled_audio[i]`. -/
def quantise (x : K) : ℤ :=
  let audio := toInt16 (x * ((maxPCM / 2 : ℤ) : K))
  if maxPCM ≤ audio then maxPCM else audio

/-- The loop that fills `downsampled_audio`. -/
def downsample (block : Block K) : Option (Block K) :=
  (forUp (fun i (downsampled_audio : CArray ℤ _) =>
    (block.convert_to_pcm.get? (i * stageTwoDecimation)).bind fun x =>
    downsampled_audio.set? i (quantise x))
    0 (afterFirstFilterCnt / stageTwoDecimation) block.downsampled_audio).bind
      fun downsampled_audio => some { block with downsampled_audio := downsampled_audio }

/-! ## The loop -/

/-- The arrays after the `memset` calls. -/
def Block.cleared : Block K where
  bufferFiltered := fun _ => 0
  decimatedFilter := fun _ => 0
  realDecimatedFilter := fun _ => 0
  imagDecimatedFilter := fun _ => 0
  demodded := fun _ => 0
  convert_to_pcm := fun _ => 0
  downsampled_audio := fun _ => 0

/-- The first filter and the demodulator. -/
def demodulate (platform : Platform) (fast_atan2f : K → K → K)
    (bufferShifted : CArray K bufferCount) (block : Block K) : Option (Block K) :=
  match platform with
  | .portable => (filterPortable bufferShifted block).bind (demodulatePortable fast_atan2f)
  | .apple => (filterApple bufferShifted block).bind (demodulateApple fast_atan2f)

/-- The `try` block: from `bufferShifted` to the audio samples. -/
def processBlock (platform : Platform) (fast_atan2f : K → K → K)
    (bufferShifted : CArray K bufferCount) : Option (Block K) :=
  (demodulate platform fast_atan2f bufferShifted Block.cleared).bind fun block =>
  (filterTwo platform block).bind downsample

/-- The two `memcpy` calls: the last `bufferOffset` cells become the first. -/
def MainState.carry (s : MainState K) : Option (MainState K) :=
  (s.buffer.move? 0 s.buffer (sampleCnt * 2) bufferOffset).bind fun buffer =>
  (s.bufferShifted.move? 0 s.bufferShifted (sampleCnt * 2) bufferOffset).bind
    fun bufferShifted =>
  some { s with buffer := buffer, bufferShifted := bufferShifted }

/-- How a pass ends. -/
inductive Ending where
  | next
  | broken
  deriving DecidableEq, Repr

/-- One pass of the loop. -/
def MainState.pass (platform : Platform) (fast_atan2f : K → K → K) (s : MainState K)
    (r : Round) : Option (MainState K × Ending) :=
  (receiveSamples r s.buffer).bind fun buffer =>
  (forUp (mixSample buffer) 0 r.samplesRead.toNat (s.bufferShifted, s.sineSignal)).bind
    fun mixed =>
  let s := { s with buffer := buffer, bufferShifted := mixed.1, sineSignal := mixed.2 }
  -- "Unexpected sample read"
  if r.samplesRead ≠ sampleCnt then some (s, .broken)
  else if r.warmingUp then
    s.carry.bind fun s => some ({ s with blocks := s.blocks ++ [none] }, .next)
  else
    (processBlock platform fast_atan2f s.bufferShifted).bind fun block =>
    let s := { s with blocks := s.blocks ++ [some block] }
    -- `break` before the `memcpy` calls
    if r.written < 0 then some (s, .broken)
    else s.carry.bind fun s => some (s, .next)

/-- The loop, one `Round` for every time its condition holds. -/
def MainState.loop (platform : Platform) (fast_atan2f : K → K → K) :
    MainState K → List Round → Option (MainState K)
  | s, [] => some s
  | s, r :: rs =>
      (s.pass platform fast_atan2f r).bind fun (t, ending) =>
        match ending with
        | .next => MainState.loop platform fast_atan2f t rs
        | .broken => some t

end

end SpectrogramServers.MyServer.Receiver
