import SpectrogramServers.MyServer.WAVWriter

/-!
# `WAVWriter` on a full disk

`writeSamples` counts the samples it is given and returns the number that was stored,
which is never negative.  So when `fwrite` stores only a part, the header promises samples
that are not there, and `main`, which looks for a negative result, does not learn of it.

## What the account should be

`Accounts` says it of a sequence of calls and their stored counts, in terms of the file
that is left behind: the two size fields, read from the bytes of the header, are the
number of sample bytes that are in the file, and every call that stores fewer samples than
it is given returns a negative value.

## What it is

`Counted.destruct` of `WAVWriter` says what the header has: the sizes of what was counted,
modulo `2 ^ 32`.  Counted is one period a call, whatever was stored.  So the account is
right exactly if nothing was left out and the sizes fit into 32 bits (`accounts_iff`).

Both directions are about the whole sequence.  One call that stores too little is never
made up for, since every other call stores at most what is counted for it: the sum of what
is stored then stays below the sum that is counted.
-/

namespace SpectrogramServers.MyServer.WAVWriter

/-! ## The property and the condition -/

/-- `wav_chunk_size` as a reader finds it. -/
def chunkSize (file : List UInt8) : ℕ := natLE ((file.drop 4).take 4)

/-- `wav_subchunk_two_size` as a reader finds it. -/
def dataSize (file : List UInt8) : ℕ := natLE ((file.drop 40).take 4)

/-- The number of sample bytes that are stored. -/
def storedBytes (samples_per_period : Int32) (calls : List Call) : ℕ :=
  2 * (allStored samples_per_period calls).length

/-- The call stores fewer samples than it is given: the disk is full. -/
def Short (samples_per_period : Int32) (call : Call) : Prop :=
  (storedOf samples_per_period call).length < size_t samples_per_period

/-- What a user of the class may expect: the header counts what is stored, and every call
that stores too little says so. -/
structure Accounts (start : WAVWriter) (calls : List Call) : Prop where
  data : dataSize (start.run calls).destruct.bytes = storedBytes start.samples_per_period calls
  chunk : chunkSize (start.run calls).destruct.bytes =
    storedBytes start.samples_per_period calls + 36
  fails : ∀ (before : List Call) (call : Call) (after : List Call),
    calls = before ++ call :: after → Short start.samples_per_period call →
      ((start.run before).writeSamples call.samples call.stored).2 < 0

/-! ## What a reader finds in the header -/

theorem chunkSize_header (w : WAVWriter) (data : List UInt8) :
    chunkSize (w.header ++ data) = w.wav_chunk_size.toNat := by
  have four : (bytesLE 4 w.wav_chunk_size.toNat).length = 4 := length_bytesLE 4 _
  rw [chunkSize, header_eq, List.append_assoc, List.append_assoc,
    List.drop_left' (by rfl), List.take_left' four,
    natLE_bytesLE_of_lt w.wav_chunk_size.toNat_lt]

theorem dataSize_header (w : WAVWriter) (data : List UInt8) :
    dataSize (w.header ++ data) = w.wav_subchunk_two_size.toNat := by
  have four : ∀ x : UInt32, (bytesLE 4 x.toNat).length = 4 := fun x => length_bytesLE 4 _
  have before : (wav_chunk_id ++ (bytesLE 4 w.wav_chunk_size.toNat ++ w.middle)).length = 40 := by
    rw [List.length_append, List.length_append, four, length_middle]
    rfl
  have split : w.header ++ data =
      (wav_chunk_id ++ (bytesLE 4 w.wav_chunk_size.toNat ++ w.middle)) ++
        (bytesLE 4 w.wav_subchunk_two_size.toNat ++ data) := by
    rw [header_eq]
    simp only [List.append_assoc]
  rw [dataSize, split, List.drop_left' before, List.take_left' (four _),
    natLE_bytesLE_of_lt w.wav_subchunk_two_size.toNat_lt]

/-- **What the header promises**: twice the number of calls times the period. -/
theorem sizes_run (sample_rate samples_per_period : Int32) (calls : List Call) :
    let file := ((construct sample_rate samples_per_period).run calls).destruct.bytes
    dataSize file = 2 * (calls.length * size_t samples_per_period) % 2 ^ 32 ∧
      chunkSize file = (36 + 2 * (calls.length * size_t samples_per_period)) % 2 ^ 32 ∧
      file.length = 44 + storedBytes samples_per_period calls := by
  intro file
  have counted := (counted_construct sample_rate samples_per_period).run calls
  have left := counted.destruct
  rw [List.nil_append, Nat.zero_add] at left
  have bytes : file = _ := left
  refine ⟨?_, ?_, ?_⟩
  · rw [bytes, dataSize_header]
    exact UInt32.toNat_ofNat'
  · rw [bytes, chunkSize_header]
    exact UInt32.toNat_ofNat'
  · rw [bytes, List.length_append, length_flatMap_int16Bytes]
    rfl

/-! ## What a call returns -/

/-- What a call stores: a period, or as much as the disk takes. -/
theorem length_storedOf (samples_per_period : Int32) (call : Call) :
    (storedOf samples_per_period call).length = min call.stored (size_t samples_per_period) := by
  rw [storedOf, List.length_take, length_given]

theorem size_t_of_nonneg {x : Int32} (nonneg : 0 ≤ x) : size_t x = x.toNatClampNeg := by
  have wide : 0 ≤ x.toInt64 := by
    rw [Int64.le_iff_toInt_le, Int32.toInt_toInt64]
    exact Int32.le_iff_toInt_le.mp nonneg
  rw [size_t, Int64.toNat_toUInt64_of_le wide, Int32.toNatClampNeg_toInt64]

/-- **No call returns a negative value**, whatever its `fwrite` stores: the result is the
number of items that were stored. -/
theorem writeSamples_nonneg {w : WAVWriter} (period : 0 ≤ w.samples_per_period) (call : Call) :
    ¬ (w.writeSamples call.samples call.stored).2 < 0 := by
  have bound := w.samples_per_period.toNatClampNeg_lt
  have count : (w.writeSamples call.samples call.stored).2 =
      Int32.ofNat (storedOf w.samples_per_period call).length := by
    rw [writeSamples, ByteFile.fwrite, storedOf, ← List.map_take, List.length_map]
  rw [count, Int32.lt_iff_toInt_lt, Int32.toInt_ofNat_of_lt]
  · exact Int.not_lt.mpr (Int.natCast_nonneg _)
  · rw [length_storedOf, size_t_of_nonneg period]
    omega

/-- No call changes the period. -/
theorem run_samples_per_period (sample_rate samples_per_period : Int32) (calls : List Call) :
    ((construct sample_rate samples_per_period).run calls).samples_per_period =
      samples_per_period := by
  rw [((counted_construct sample_rate samples_per_period).run calls).members]
  rfl

/-! ## When the account is right -/

/-- **Short writes.**  The header has the number of sample bytes that are stored, and every
call that stores too few samples returns a negative value, exactly if every call stores all
its samples and the sizes fit into 32 bits. -/
theorem accounts_iff {sample_rate samples_per_period : Int32} (period : 0 ≤ samples_per_period)
    (calls : List Call) :
    Accounts (construct sample_rate samples_per_period) calls ↔
      StoresAll samples_per_period calls ∧
        36 + storedBytes samples_per_period calls < 2 ^ 32 := by
  obtain ⟨data, chunk, -⟩ := sizes_run sample_rate samples_per_period calls
  -- where everything is stored, what is counted is what is stored
  have stored : StoresAll samples_per_period calls →
      2 * (calls.length * size_t samples_per_period) = storedBytes samples_per_period calls := by
    intro all
    rw [storedBytes, allStored_of_storesAll all, length_allGiven]
  constructor
  · intro accounts
    have all : StoresAll samples_per_period calls := by
      intro call mem
      by_contra few
      obtain ⟨before, after, split⟩ := List.append_of_mem mem
      have short : Short samples_per_period call := by
        rw [Short, length_storedOf]
        omega
      refine writeSamples_nonneg ?_ call (accounts.fails before call after split short)
      rw [run_samples_per_period]
      exact period
    have size := accounts.chunk
    rw [chunk, stored all] at size
    change (36 + storedBytes samples_per_period calls) % 2 ^ 32 =
      storedBytes samples_per_period calls + 36 at size
    exact ⟨all, by omega⟩
  · rintro ⟨all, small⟩
    refine ⟨?_, ?_, ?_⟩
    · rw [data, stored all]
      exact Nat.mod_eq_of_lt (by omega)
    · rw [chunk, stored all, Nat.mod_eq_of_lt small]
      exact Nat.add_comm _ _
    · intro before call after split short
      have member : call ∈ calls := by
        rw [split]
        exact List.mem_append_right _ List.mem_cons_self
      have complete := all call member
      change (storedOf samples_per_period call).length < size_t samples_per_period at short
      rw [length_storedOf] at short
      omega

/-- Two periods of three samples, with room to spare. -/
theorem accounts_threeSamples :
    Accounts (construct 44100 3) [⟨fun _ => 0, 3⟩, ⟨fun _ => 7, 5⟩] :=
  (accounts_iff (by decide) _).mpr ⟨by decide, by decide⟩

/-- One of three samples is stored: the header promises 6 bytes where there are 2, and the
call returns 1. -/
theorem not_accounts_fullDisk :
    dataSize ((construct 44100 3).run [⟨fun _ => 0, 1⟩]).destruct.bytes = 6 ∧
      chunkSize ((construct 44100 3).run [⟨fun _ => 0, 1⟩]).destruct.bytes = 42 ∧
      storedBytes 3 [⟨fun _ => 0, 1⟩] = 2 ∧
      ((construct 44100 3).writeSamples (fun _ => 0) 1).2 = 1 ∧
      ¬ Accounts (construct 44100 3) [⟨fun _ => 0, 1⟩] := by
  have promised : dataSize ((construct 44100 3).run [⟨fun _ => 0, 1⟩]).destruct.bytes = 6 := by
    decide +kernel
  have stored : storedBytes 3 [⟨fun _ => 0, 1⟩] = 2 := by decide +kernel
  refine ⟨promised, by decide +kernel, stored, by decide +kernel, fun accounts => ?_⟩
  have data := accounts.data
  rw [promised] at data
  exact absurd (data.trans stored) (by decide)

end SpectrogramServers.MyServer.WAVWriter
