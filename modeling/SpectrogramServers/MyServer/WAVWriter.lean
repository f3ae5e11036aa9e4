import SpectrogramServers.Lib.ByteFile
import SpectrogramServers.Lib.Riff

/-!
# `WAVWriter`

`WAVWriter` lays out a wave header with 13 writes, appends the samples of every
period, and patches the two sizes when it is destroyed.  `readMono16_destruct`
says that a strict reader of wave files finds in what it leaves exactly the
recording that it was given.

### What is load-bearing

The two patches are at absolute offsets, 4 and 40.  That these are the places of
`wav_chunk_size` and `wav_subchunk_two_size`, and that what is behind byte 44
stays, is `patchSizes_bytes`; it needs the lengths of the fields before each size
and nothing about the samples.

The samples are counted in an `int`.  `Counted.count` follows its 32 bits, so it
says that the counter is right modulo `2 ^ 32`, and the sizes computed from it are
right as long as they fit a `uint32_t`.  From `2 ^ 30` samples on this rests on
signed arithmetic wrapping in two's complement; below, nothing overflows
(`Wrote.sizes_exact`).

A period is handed to `fwrite` as a `size_t`.  A negative period is an enormous
one, and no device stores it, so nothing has to be assumed of the period.
-/

namespace SpectrogramServers.MyServer

def wav_chunk_id : List UInt8 := [0x52, 0x49, 0x46, 0x46]
def wav_format : List UInt8 := [0x57, 0x41, 0x56, 0x45]
def wav_subchunk_one_id : List UInt8 := [0x66, 0x6d, 0x74, 0x20]
def wav_subchunk_two_id : List UInt8 := [0x64, 0x61, 0x74, 0x61]

/-- The members of the class. -/
structure WAVWriter where
  fp : ByteFile
  samples_per_period : Int32 := 200
  audio_sample_count : Int32 := 0
  wav_chunk_size : UInt32 := 0
  wav_subchunk_one_size : UInt32 := 16
  wav_audio_format : UInt16 := 1
  wav_num_channels : UInt16 := 1
  wav_sample_rate : UInt32 := 44100
  wav_byte_rate : UInt32 := wav_sample_rate * 2
  wav_block_align : UInt16 := 2
  wav_bits_per_sample : UInt16 := 16
  wav_subchunk_two_size : UInt32 := 0

/-- `fwrite(&x, 2, 1, myFile)`. -/
def fwrite16 (x : UInt16) (myFile : ByteFile) : ByteFile := myFile.write (bytesLE 2 x.toNat)

/-- `fwrite(&x, 4, 1, myFile)`. -/
def fwrite32 (x : UInt32) (myFile : ByteFile) : ByteFile := myFile.write (bytesLE 4 x.toNat)

/-- An `int` passed as the `size_t` that counts the items of an `fwrite`. -/
def size_t (x : Int32) : ℕ := x.toInt64.toUInt64.toNat

namespace WAVWriter

def initialize_wav_file (w : WAVWriter) (myFile : ByteFile) : ByteFile :=
  myFile.write wav_chunk_id
    |> fwrite32 w.wav_chunk_size
    |>.write wav_format
    |>.write wav_subchunk_one_id
    |> fwrite32 w.wav_subchunk_one_size
    |> fwrite16 w.wav_audio_format
    |> fwrite16 w.wav_num_channels
    |> fwrite32 w.wav_sample_rate
    |> fwrite32 w.wav_byte_rate
    |> fwrite16 w.wav_block_align
    |> fwrite16 w.wav_bits_per_sample
    |>.write wav_subchunk_two_id
    |> fwrite32 w.wav_subchunk_two_size

/-- The constructor; the file is always `./radio.wav`, whatever `file_name` says. -/
def construct (sample_rate samples_per_period : Int32) : WAVWriter :=
  let w : WAVWriter := { fp := .create }
  let w := { w with
    samples_per_period := samples_per_period
    wav_sample_rate := sample_rate.toUInt32
    wav_byte_rate := (sample_rate * 2).toUInt32 }
  { w with fp := w.initialize_wav_file w.fp }

/-- The samples that the pointer is taken to point at. -/
def given (samples_per_period : Int32) (samples : ℕ → Int16) : List Int16 :=
  (List.range (size_t samples_per_period)).map samples

/-- `writeSamples`, whose `fwrite` stores at most `stored` samples, and what it
returns. -/
def writeSamples (samples : ℕ → Int16) (stored : ℕ) (w : WAVWriter) : WAVWriter × Int32 :=
  let result := w.fp.fwrite ((given w.samples_per_period samples).map int16Bytes) stored
  ({ w with
      fp := result.1
      audio_sample_count := w.audio_sample_count + w.samples_per_period },
    Int32.ofNat result.2)

/-- The first half of the destructor: the sizes. -/
def setSizes (w : WAVWriter) : WAVWriter :=
  { w with
    wav_chunk_size := (36 + w.audio_sample_count * 2).toUInt32
    wav_subchunk_two_size := (w.audio_sample_count * 2).toUInt32 }

/-- The second half of the destructor: the sizes are patched into the header. -/
def patchSizes (w : WAVWriter) : ByteFile :=
  w.fp.fseek 4
    |> fwrite32 w.wav_chunk_size
    |>.fseek 40
    |> fwrite32 w.wav_subchunk_two_size

/-- The destructor, as the file it leaves. -/
def destruct (w : WAVWriter) : ByteFile := w.setSizes.patchSizes

/-! ## The header -/

/-- The fields that the 13 writes of `initialize_wav_file` write. -/
def headerFields (w : WAVWriter) : List (List UInt8) :=
  [wav_chunk_id, bytesLE 4 w.wav_chunk_size.toNat, wav_format, wav_subchunk_one_id,
    bytesLE 4 w.wav_subchunk_one_size.toNat, bytesLE 2 w.wav_audio_format.toNat,
    bytesLE 2 w.wav_num_channels.toNat, bytesLE 4 w.wav_sample_rate.toNat,
    bytesLE 4 w.wav_byte_rate.toNat, bytesLE 2 w.wav_block_align.toNat,
    bytesLE 2 w.wav_bits_per_sample.toNat, wav_subchunk_two_id,
    bytesLE 4 w.wav_subchunk_two_size.toNat]

/-- The header between its two sizes. -/
def middle (w : WAVWriter) : List UInt8 := (w.headerFields.drop 2).dropLast.flatten

def header (w : WAVWriter) : List UInt8 := w.headerFields.flatten

theorem header_eq (w : WAVWriter) : w.header = wav_chunk_id ++
    (bytesLE 4 w.wav_chunk_size.toNat ++
      (w.middle ++ bytesLE 4 w.wav_subchunk_two_size.toNat)) := by
  simp [header, middle, headerFields]

theorem length_middle (w : WAVWriter) : w.middle.length = 32 := rfl

/-- At the end of a file, the header is appended. -/
theorem initialize_wav_file_atEnd (w : WAVWriter) {myFile : ByteFile} (atEnd : myFile.AtEnd) :
    (w.initialize_wav_file myFile).bytes = myFile.bytes ++ w.header ∧
      (w.initialize_wav_file myFile).AtEnd :=
  ByteFile.writes_atEnd w.headerFields atEnd

/-- **The patches land on the two sizes**, and what is behind the header stays. -/
theorem patchSizes_bytes (w : WAVWriter) {old : WAVWriter} {data : List UInt8}
    (laid : w.fp.bytes = old.header ++ data) (same : old.middle = w.middle) :
    w.patchSizes.bytes = w.header ++ data := by
  have four : ∀ x : UInt32, (bytesLE 4 x.toNat).length = 4 := fun x => length_bytesLE 4 _
  -- bytes 4 to 7 are the first size
  have first : (fwrite32 w.wav_chunk_size (w.fp.fseek 4)).bytes =
      wav_chunk_id ++ (bytesLE 4 w.wav_chunk_size.toNat ++
        (w.middle ++ (bytesLE 4 old.wav_subchunk_two_size.toNat ++ data))) := by
    refine ByteFile.write_inside (bytesLE 4 old.wav_chunk_size.toNat) ?_ rfl ?_
    · show w.fp.bytes = _
      rw [laid, header_eq, same]
      simp only [List.append_assoc]
    · rw [four, four]
  -- bytes 40 to 43 are the second
  have second : w.patchSizes.bytes =
      (wav_chunk_id ++ (bytesLE 4 w.wav_chunk_size.toNat ++ w.middle)) ++
        (bytesLE 4 w.wav_subchunk_two_size.toNat ++ data) := by
    refine ByteFile.write_inside (bytesLE 4 old.wav_subchunk_two_size.toNat) ?_ ?_ ?_
    · show (fwrite32 w.wav_chunk_size (w.fp.fseek 4)).bytes = _
      rw [first]
      simp only [List.append_assoc]
    · show 40 = _
      rw [List.length_append, List.length_append, four, length_middle]
      rfl
    · rw [four, four]
  rw [second, header_eq]
  simp only [List.append_assoc]

/-! ## The calls -/

/-- The low 32 bits of a `size_t` are those of the `int` it came from. -/
theorem ofNat_size_t (x : Int32) : UInt32.ofNat (size_t x) = x.toUInt32 := by
  have extended : size_t x = (x.toBitVec.signExtend 64).toNat := rfl
  have low : (x.toBitVec.signExtend 64).setWidth 32 = x.toBitVec := by
    ext i hi
    simp [BitVec.getLsbD_signExtend, hi]
    omega
  rw [← UInt32.toNat_inj, UInt32.toNat_ofNat', extended, ← BitVec.toNat_setWidth, low]
  rfl

/-- A call of `writeSamples`: what it is given and what its `fwrite` can store. -/
structure Call where
  samples : ℕ → Int16
  stored : ℕ

/-- A run of calls. -/
def run (w : WAVWriter) (calls : List Call) : WAVWriter :=
  calls.foldl (fun w call => (w.writeSamples call.samples call.stored).1) w

/-- Every `fwrite` stores all that it is given. -/
def StoresAll (samples_per_period : Int32) (calls : List Call) : Prop :=
  ∀ call ∈ calls, size_t samples_per_period ≤ call.stored

instance (samples_per_period : Int32) (calls : List Call) :
    Decidable (StoresAll samples_per_period calls) :=
  inferInstanceAs (Decidable (∀ call ∈ calls, _))

/-- All samples that the calls are given, in order. -/
def allGiven (samples_per_period : Int32) (calls : List Call) : List Int16 :=
  calls.flatMap fun call => given samples_per_period call.samples

/-- The samples of a call that are stored. -/
def storedOf (samples_per_period : Int32) (call : Call) : List Int16 :=
  (given samples_per_period call.samples).take call.stored

/-- All samples that are stored, in order. -/
def allStored (samples_per_period : Int32) (calls : List Call) : List Int16 :=
  calls.flatMap (storedOf samples_per_period)

theorem length_given (samples_per_period : Int32) (samples : ℕ → Int16) :
    (given samples_per_period samples).length = size_t samples_per_period := by
  rw [given, List.length_map, List.length_range]

theorem allStored_of_storesAll {samples_per_period : Int32} {calls : List Call}
    (all : StoresAll samples_per_period calls) :
    allStored samples_per_period calls = allGiven samples_per_period calls := by
  refine List.flatMap_congr fun call mem => ?_
  exact List.take_of_length_le ((length_given _ _).le.trans (all call mem))

theorem length_allGiven (samples_per_period : Int32) (calls : List Call) :
    (allGiven samples_per_period calls).length = calls.length * size_t samples_per_period := by
  induction calls with
  | nil => rw [List.length_nil, Nat.zero_mul]; rfl
  | cons call calls ih =>
      rw [allGiven, List.flatMap_cons, List.length_append, length_given, List.length_cons,
        Nat.succ_mul, Nat.add_comm, ← ih]
      rfl

/-- Since `start` wrote its header, `xs` were stored, `n` samples were counted and
nothing else happened. -/
structure Counted (start w : WAVWriter) (xs : List Int16) (n : ℕ) : Prop where
  bytes : w.fp.bytes = start.header ++ xs.flatMap int16Bytes
  atEnd : w.fp.AtEnd
  count : w.audio_sample_count.toUInt32 = UInt32.ofNat n
  members : w = { start with fp := w.fp, audio_sample_count := w.audio_sample_count }

theorem counted_construct (sample_rate samples_per_period : Int32) :
    Counted (construct sample_rate samples_per_period)
      (construct sample_rate samples_per_period) [] 0 := by
  have fp : (construct sample_rate samples_per_period).fp =
      ByteFile.create.writes (construct sample_rate samples_per_period).headerFields := rfl
  obtain ⟨bytes, atEnd⟩ := ByteFile.writes_atEnd
    (construct sample_rate samples_per_period).headerFields ByteFile.create_atEnd
  refine ⟨?_, ?_, rfl, rfl⟩
  · rw [fp, bytes, List.flatMap_nil, List.append_nil]
    rfl
  · rw [fp]
    exact atEnd

/-- **A call appends what is stored, and counts what it is given.** -/
theorem Counted.writeSamples {start w : WAVWriter} {xs : List Int16} {n : ℕ}
    (h : Counted start w xs n) (call : Call) :
    Counted start (w.writeSamples call.samples call.stored).1
      (xs ++ storedOf start.samples_per_period call) (n + size_t start.samples_per_period) := by
  have period : w.samples_per_period = start.samples_per_period := by rw [h.members]
  have stores :
      (w.fp.fwrite ((given start.samples_per_period call.samples).map int16Bytes) call.stored).1 =
        w.fp.write ((storedOf start.samples_per_period call).flatMap int16Bytes) := by
    rw [ByteFile.fwrite, storedOf, ← List.map_take, List.flatMap_def]
  unfold WAVWriter.writeSamples
  dsimp only
  rw [period, stores]
  refine ⟨?_, h.atEnd.write _, ?_, ?_⟩
  · show (w.fp.write _).bytes = _
    rw [h.atEnd.bytes_write, h.bytes, List.flatMap_append, List.append_assoc]
  · show (w.audio_sample_count + start.samples_per_period).toUInt32 = _
    rw [Int32.toUInt32_add, h.count, ← ofNat_size_t, UInt32.ofNat_add]
  · rw [h.members]

theorem Counted.run {start w : WAVWriter} {xs : List Int16} {n : ℕ} (h : Counted start w xs n)
    (calls : List Call) :
    Counted start (w.run calls) (xs ++ allStored start.samples_per_period calls)
      (n + calls.length * size_t start.samples_per_period) := by
  induction calls generalizing w xs n with
  | nil =>
      rw [allStored, List.flatMap_nil, List.append_nil, List.length_nil, Nat.zero_mul]
      exact h
  | cons call calls ih =>
      have later := ih (h.writeSamples call)
      rw [List.append_assoc] at later
      rwa [List.length_cons, Nat.succ_mul, Nat.add_comm _ (size_t _), ← Nat.add_assoc]

/-- Since `start` wrote its header, `xs` were written and nothing else happened. -/
structure Wrote (start w : WAVWriter) (xs : List Int16) : Prop where
  bytes : w.fp.bytes = start.header ++ xs.flatMap int16Bytes
  atEnd : w.fp.AtEnd
  count : w.audio_sample_count.toUInt32 = UInt32.ofNat xs.length
  members : w = { start with fp := w.fp, audio_sample_count := w.audio_sample_count }

theorem Wrote.counted {start w : WAVWriter} {xs : List Int16} (h : Wrote start w xs) :
    Counted start w xs xs.length := ⟨h.bytes, h.atEnd, h.count, h.members⟩

theorem wrote_construct (sample_rate samples_per_period : Int32) :
    Wrote (construct sample_rate samples_per_period) (construct sample_rate samples_per_period)
      [] :=
  have counted := counted_construct sample_rate samples_per_period
  ⟨counted.bytes, counted.atEnd, counted.count, counted.members⟩

/-- **Calls that store everything append what they are given.** -/
theorem Wrote.run {start w : WAVWriter} {xs : List Int16} (h : Wrote start w xs)
    {calls : List Call} (all : StoresAll start.samples_per_period calls) :
    Wrote start (w.run calls) (xs ++ allGiven start.samples_per_period calls) := by
  have later := h.counted.run calls
  rw [allStored_of_storesAll all, ← length_allGiven, ← List.length_append] at later
  exact ⟨later.bytes, later.atEnd, later.count, later.members⟩

/-! ## The file that is left -/

/-- The header that announces `n` samples. -/
def announced (w : WAVWriter) (n : ℕ) : WAVWriter :=
  { w with
    wav_chunk_size := UInt32.ofNat (36 + 2 * n)
    wav_subchunk_two_size := UInt32.ofNat (2 * n) }

/-- **What the destructor leaves**: the header, with the sizes of what was counted, and
behind it what was stored. -/
theorem Counted.destruct {start w : WAVWriter} {xs : List Int16} {n : ℕ}
    (h : Counted start w xs n) :
    w.destruct.bytes = (start.announced n).header ++ xs.flatMap int16Bytes := by
  have twice : (w.audio_sample_count * 2).toUInt32 = UInt32.ofNat (2 * n) := by
    rw [Int32.toUInt32_mul, h.count, Nat.mul_comm, UInt32.ofNat_mul]
    rfl
  have chunk : (36 + w.audio_sample_count * 2).toUInt32 = UInt32.ofNat (36 + 2 * n) := by
    rw [Int32.toUInt32_add, twice, UInt32.ofNat_add]
    rfl
  have sizes : w.setSizes.header = (start.announced n).header := by
    rw [setSizes, announced, twice, chunk, h.members]
    rfl
  have same : start.middle = w.setSizes.middle := by
    rw [setSizes, h.members]
    rfl
  rw [WAVWriter.destruct, patchSizes_bytes w.setSizes h.bytes same, sizes]

/-- A sample rate as the header has it. -/
theorem rates_construct {sample_rate : Int32} (rate : 0 ≤ sample_rate)
    (samples_per_period : Int32) :
    (construct sample_rate samples_per_period).wav_sample_rate.toNat =
        sample_rate.toNatClampNeg ∧
      (construct sample_rate samples_per_period).wav_byte_rate.toNat =
        sample_rate.toNatClampNeg * 2 := by
  have value : sample_rate.toUInt32.toNat = sample_rate.toNatClampNeg :=
    Int32.toNat_toUInt32_of_le rate
  refine ⟨value, ?_⟩
  show (sample_rate * 2).toUInt32.toNat = _
  rw [Int32.toUInt32_mul, UInt32.toNat_mul, value]
  have small := sample_rate.toNatClampNeg_lt
  show sample_rate.toNatClampNeg * 2 % 2 ^ 32 = _
  omega

/-- **The file is the wave file of the recording.** -/
theorem header_eq_encodeWave {sample_rate : Int32} (rate : 0 ≤ sample_rate)
    (samples_per_period : Int32) {xs : List Int16} (size : 36 + 2 * xs.length < 2 ^ 32) :
    ((construct sample_rate samples_per_period).announced xs.length).header ++
        xs.flatMap int16Bytes =
      encodeWave (Mono16.wave ⟨sample_rate.toNatClampNeg, xs⟩) := by
  obtain ⟨sampleRate, byteRate⟩ := rates_construct rate samples_per_period
  have chunk : (UInt32.ofNat (36 + 2 * xs.length)).toNat = 36 + 2 * xs.length :=
    UInt32.toNat_ofNat_of_lt' size
  have small : 2 * xs.length < 2 ^ 32 := by omega
  have data : (UInt32.ofNat (2 * xs.length)).toNat = 2 * xs.length :=
    UInt32.toNat_ofNat_of_lt' small
  have fields : ((construct sample_rate samples_per_period).announced xs.length).headerFields =
      [riffID, bytesLE 4 (36 + 2 * xs.length), waveID, fmtID, bytesLE 4 16, bytesLE 2 1,
        bytesLE 2 1, bytesLE 4 sample_rate.toNatClampNeg,
        bytesLE 4 (sample_rate.toNatClampNeg * 2), bytesLE 2 2, bytesLE 2 16, dataID,
        bytesLE 4 (2 * xs.length)] := by
    simp only [headerFields, announced, chunk, data, sampleRate, byteRate]
    rfl
  rw [encodeWave_wave, header, fields]

/-- Below `2 ^ 30` samples no signed operation of the destructor overflows. -/
theorem Wrote.sizes_exact {start w : WAVWriter} {xs : List Int16} (h : Wrote start w xs)
    (size : 36 + 2 * xs.length < 2 ^ 31) :
    w.audio_sample_count.toInt = xs.length ∧
      (w.audio_sample_count * 2).toInt = 2 * xs.length ∧
      (36 + w.audio_sample_count * 2).toInt = 36 + 2 * xs.length := by
  have count : w.audio_sample_count = Int32.ofNat xs.length :=
    congrArg UInt32.toInt32 h.count
  have twice : w.audio_sample_count * 2 = Int32.ofNat (2 * xs.length) := by
    rw [count, Nat.mul_comm, Int32.ofNat_mul]
    rfl
  have chunk : 36 + w.audio_sample_count * 2 = Int32.ofNat (36 + 2 * xs.length) := by
    rw [twice, Int32.ofNat_add]
    rfl
  rw [chunk, twice, count, Int32.toInt_ofNat_of_lt (by omega), Int32.toInt_ofNat_of_lt (by omega),
    Int32.toInt_ofNat_of_lt size]
  push_cast
  exact ⟨rfl, rfl, rfl⟩

/-- **The file that is left is read back.**  Whatever the calls, a strict reader
finds one channel of 16 bits at the sample rate, with the samples that were given,
in order; the file is the header `initialize_wav_file` lays out for the patched
sizes with all bytes of the samples behind it. -/
theorem readMono16_destruct {sample_rate samples_per_period : Int32} {calls : List Call}
    (rate : 0 ≤ sample_rate) (all : StoresAll samples_per_period calls)
    (size : 36 + 2 * (allGiven samples_per_period calls).length < 2 ^ 32) :
    let start := construct sample_rate samples_per_period
    let samples := allGiven samples_per_period calls
    let file := (start.run calls).destruct.bytes
    readMono16 file = some ⟨sample_rate.toNatClampNeg, samples⟩ ∧
      file = ((start.announced samples.length).initialize_wav_file .create).bytes ++
        samples.flatMap int16Bytes := by
  intro start samples file
  have wrote : Wrote start (start.run calls) samples :=
    (wrote_construct sample_rate samples_per_period).run all
  have left : file = (start.announced samples.length).header ++ samples.flatMap int16Bytes :=
    wrote.counted.destruct
  obtain ⟨laid, -⟩ := initialize_wav_file_atEnd (start.announced samples.length)
    ByteFile.create_atEnd
  have byteRate := sample_rate.toNatClampNeg_lt
  refine ⟨?_, ?_⟩
  · rw [left, header_eq_encodeWave rate samples_per_period size]
    exact readMono16_encodeWave (by show 2 * sample_rate.toNatClampNeg < 2 ^ 32; omega) size
  · rw [left, laid]
    rfl

/-- Three samples in a period, twice. -/
theorem readMono16_destruct_twice :
    readMono16 (((construct 44100 3).run
      [⟨fun i => Int16.ofNat i, 3⟩, ⟨fun _ => -5, 3⟩]).destruct).bytes =
      some ⟨44100, [0, 1, 2, -5, -5, -5]⟩ :=
  (readMono16_destruct (by decide) (by decide) (by decide)).1

end WAVWriter

end SpectrogramServers.MyServer
