import SpectrogramServers.MyServer.AudioLoop
import SpectrogramServers.MyServer.ShortWrites

/-!
# The recording

`main` hands every block it has demodulated to a sink.  With `WAVWriter` as its sink it
leaves a wave file, and `readMono16_recording` says what a reader finds in it, in exact
arithmetic: the single-pass reference of the stream that was received, from the first
block behind the warm-up to the last that was read in full.

## What is put together

* `Receiver` and `ReceiverStream` say which samples the blocks of the loop are: the
  reference does not depend on how the stream is cut into blocks.
* `AudioLoop` has the loop with an arbitrary sink, and says which of its turns are heard.
* `WAVWriter` says what the file is after a sequence of calls, with the sizes patched by
  the destructor.

`wavSink` is the instance that joins the three.  What happens outside during a call is how
many items its `fwrite` can store, so a disk that runs full is a run of the model.

## When a recording ends

`writeSamples` never answers with a negative number, whatever its `fwrite` stores, so only
the clock and a short read end a recording (`play_wav`).  That the file holds all samples
needs two assumptions of `readMono16_recording`, one about the disk and one about the
format: every `fwrite` stores what it is given, and the recording fits the size fields.
-/

namespace SpectrogramServers.MyServer.Receiver

universe u

variable {K : Type u} [Field K] [LinearOrder K] [FloorRing K]

/-- `WAVWriter` as an `AudioSink`.  What happens outside during a call is how many
items its `fwrite` can store. -/
def wavSink : AudioSink WAVWriter ℕ where
  writeSamples samples stored w :=
    some ((w.writeSamples samples stored).1, (w.writeSamples samples stored).2.toInt)

/-- `sampleCnt/(sample_rate/44100)`. -/
def samplesPerPeriod : ℕ := sampleCnt / (17640000 / 44100)

/-- `std::make_unique<WAVWriter>("./radio.wav", 44100, sampleCnt/(sample_rate/44100))`. -/
def radioWav : WAVWriter := .construct 44100 (Int32.ofNat samplesPerPeriod)

/-- The call of `writeSamples` in a turn that is heard. -/
def airedCall (fast_atan2f : K → K → K) (x : ℕ → ℤ × ℤ) (heard : ℕ × Turn ℕ) : WAVWriter.Call :=
  ⟨referenceBlock fast_atan2f x heard.1, heard.2.outside⟩

/-- **A recording goes on** until a read is too short. -/
theorem play_wav (fast_atan2f : K → K → K) (x : ℕ → ℤ × ℤ) (b : ℕ) (turns : List (Turn ℕ))
    {w : WAVWriter} (period : 0 ≤ w.samples_per_period) :
    play fast_atan2f x wavSink b w turns =
      some (w.run ((aired b turns).map (airedCall fast_atan2f x))) := by
  induction turns generalizing b w with
  | nil => rfl
  | cons turn turns ih =>
      unfold play aired
      by_cases short : turn.samplesRead ≠ sampleCnt
      · rw [if_pos short, if_pos short]
        rfl
      · rw [if_neg short, if_neg short]
        cases turn.warmingUp with
        | true => exact ih (b + 1) period
        | false =>
            have answer : ¬ (w.writeSamples (referenceBlock fast_atan2f x b)
                turn.outside).2.toInt < 0 := by
              have nonneg := WAVWriter.writeSamples_nonneg period
                ⟨referenceBlock fast_atan2f x b, turn.outside⟩
              rwa [Int32.lt_iff_toInt_lt] at nonneg
            rw [if_neg Bool.false_ne_true, if_neg Bool.false_ne_true, wavSink, Option.bind_some]
            dsimp only
            rw [if_neg answer]
            exact ih (b + 1) (w := (w.writeSamples (referenceBlock fast_atan2f x b)
              turn.outside).1) period

/-- A period is a block. -/
theorem allGiven_airedCall (fast_atan2f : K → K → K) (x : ℕ → ℤ × ℤ) (heard : List (ℕ × Turn ℕ)) :
    (WAVWriter.allGiven (Int32.ofNat samplesPerPeriod)
      (heard.map (airedCall fast_atan2f x))).map Int16.toInt =
        heard.flatMap fun h => blockSamples fast_atan2f x h.1 := by
  rw [WAVWriter.allGiven, List.flatMap_map, List.map_flatMap]
  exact List.flatMap_congr fun h _ => map_toInt_referenceBlock fast_atan2f x h.1

/-- Every block that is heard adds `downSampleCnt` samples. -/
theorem length_airedSamples (fast_atan2f : K → K → K) (x : ℕ → ℤ × ℤ) (b : ℕ)
    (turns : List (Turn ℕ)) :
    (airedSamples fast_atan2f x b turns).length = (aired b turns).length * downSampleCnt :=
  length_flatMap_firsts _ _ _

/-- **What a reader finds** behind the calls of `writeSamples`, if every `fwrite` stores what
it is given and the recording fits the size fields. -/
theorem readMono16_run {fast_atan2f : K → K → K} {x : ℕ → ℤ × ℤ} {b : ℕ} {turns : List (Turn ℕ)}
    (stores : ∀ heard ∈ aired b turns, downSampleCnt ≤ heard.2.outside)
    (size : 36 + 2 * (airedSamples fast_atan2f x b turns).length < 2 ^ 32) :
    ∃ samples, readMono16 (radioWav.run
        ((aired b turns).map (airedCall fast_atan2f x))).destruct.bytes = some ⟨44100, samples⟩ ∧
      samples.map Int16.toInt = airedSamples fast_atan2f x b turns := by
  let calls := (aired b turns).map (airedCall fast_atan2f x)
  let samples := WAVWriter.allGiven (Int32.ofNat samplesPerPeriod) calls
  have given : samples.map Int16.toInt = airedSamples fast_atan2f x b turns :=
    allGiven_airedCall fast_atan2f x (aired b turns)
  refine ⟨samples, ?_, given⟩
  have all : WAVWriter.StoresAll (Int32.ofNat samplesPerPeriod) calls := by
    intro call mem
    obtain ⟨heard, inside, rfl⟩ := List.mem_map.mp mem
    exact stores heard inside
  have wrote : WAVWriter.Wrote radioWav (radioWav.run calls) samples :=
    (WAVWriter.wrote_construct 44100 (Int32.ofNat samplesPerPeriod)).run all
  have length : 36 + 2 * samples.length < 2 ^ 32 := by
    rw [← List.length_map Int16.toInt, given]
    exact size
  rw [wrote.counted.destruct, radioWav, WAVWriter.header_eq_encodeWave (by decide) _ length]
  exact readMono16_encodeWave (show 2 * Int32.toNatClampNeg 44100 < 2 ^ 32 by decide) length

section

variable [IsStrictOrderedRing K]

/-- The loop leaves the writer with the calls of the turns that are heard. -/
theorem loopInto_wav (platform : Platform) (fast_atan2f : K → K → K) (x : ℕ → ℤ × ℤ)
    (turns : List (Turn ℕ)) (feeds : Feeds x 0 turns) (warms : WarmsUp turns)
    (buffer : CArray ℤ bufferCount) (bufferShifted : CArray K bufferCount) :
    Succeeds ((start buffer bufferShifted).loopInto platform fast_atan2f wavSink radioWav turns)
      fun t => radioWav.run ((aired 0 turns).map (airedCall fast_atan2f x)) = t.2 := by
  have played := loopInto_eq_play platform fast_atan2f wavSink
    (carried_start x buffer bufferShifted) feeds (fun _ => warms) radioWav
  rw [play_wav fast_atan2f x 0 turns (by decide)] at played
  obtain ⟨t, loop, left⟩ := Option.map_eq_some_iff.mp played
  exact ⟨t, loop, left.symm⟩

/-- **The recording.**  A stream arrives in full blocks up to a read that is too short,
the first of them within the first three seconds, on either platform and whatever the
buffers held; every `fwrite` stores what it is given, and the recording fits the size
fields.  Then, in exact arithmetic, the file the writer leaves is read as one channel of
16 bits at 44100 samples a second, with the samples of the single-pass reference for the
blocks behind the first three seconds, in order. -/
theorem readMono16_recording (platform : Platform) (fast_atan2f : K → K → K) (x : ℕ → ℤ × ℤ)
    (turns : List (Turn ℕ)) (feeds : Feeds x 0 turns) (warms : WarmsUp turns)
    (stores : ∀ heard ∈ aired 0 turns, downSampleCnt ≤ heard.2.outside)
    (size : 36 + 2 * (airedSamples fast_atan2f x 0 turns).length < 2 ^ 32)
    (buffer : CArray ℤ bufferCount) (bufferShifted : CArray K bufferCount) :
    Succeeds ((start buffer bufferShifted).loopInto platform fast_atan2f wavSink radioWav turns)
      fun t => ∃ samples, readMono16 t.2.destruct.bytes = some ⟨44100, samples⟩ ∧
        samples.map Int16.toInt = airedSamples fast_atan2f x 0 turns := by
  refine (loopInto_wav platform fast_atan2f x turns feeds warms buffer bufferShifted).mono ?_
  rintro t left
  rw [← left]
  exact readMono16_run stores size

end

/-- Silence within the first three seconds or behind them. -/
def silentTurn (warmingUp : Bool) : Turn ℕ where
  samples := fun _ => (0, 0)
  samplesRead := sampleCnt
  warmingUp := warmingUp
  outside := downSampleCnt

/-- One block to warm up and two to hear, and then nothing more is read. -/
def silentTurns : List (Turn ℕ) :=
  [silentTurn true, silentTurn false, silentTurn false,
    { silentTurn false with samplesRead := 0 }]

/-- The stream of these turns is all zeros. -/
theorem feeds_silentTurns : Feeds (fun _ => (0, 0)) 0 silentTurns := by
  have holds : ∀ b warmingUp, (silentTurn warmingUp).samples.Holds sampleCnt
      (shift (sampleCnt * b) fun _ => (0, 0)) := fun _ _ _ hi => CArray.get?_of_lt _ hi
  exact Or.inr ⟨rfl, holds 0 true, Or.inr ⟨rfl, holds 1 false, Or.inr ⟨rfl, holds 2 false,
    Or.inl (by decide)⟩⟩⟩

theorem stores_silentTurns : ∀ heard ∈ aired 0 silentTurns, downSampleCnt ≤ heard.2.outside := by
  have heard : aired 0 silentTurns = [(1, silentTurn false), (2, silentTurn false)] := rfl
  rw [heard]
  rintro h (_ | ⟨_, (_ | ⟨_, ⟨⟩⟩)⟩)
  all_goals exact Nat.le_refl _

/-- Two blocks of silence are recorded, and read back. -/
theorem readMono16_recording_silence :
    Succeeds ((start (fun _ => 1) (fun _ => (1 : ℚ))).loopInto .portable (fun _ _ => 0) wavSink
        radioWav silentTurns) fun t =>
      ∃ samples, readMono16 t.2.destruct.bytes = some ⟨44100, samples⟩ ∧
        samples.map Int16.toInt =
          airedSamples (fun _ _ => (0 : ℚ)) (fun _ => (0, 0)) 0 silentTurns := by
  refine readMono16_recording .portable (fun _ _ => 0) (fun _ => (0, 0)) silentTurns
    feeds_silentTurns (by decide) stores_silentTurns ?_ (fun _ => 1) (fun _ => 1)
  rw [length_airedSamples]
  decide

end SpectrogramServers.MyServer.Receiver
