import SpectrogramServers.MyServer.HackRFFifo

/-!
# When `thread_buffer` is more than half full

`thread_buffer` has room for two transfers of 262144 bytes.  A callback that finds the
first half in use makes room before it appends: it shifts 262144 bytes to the front and
declares just these valid.  The purpose is a buffer that loses its oldest bytes and keeps
the rest.

## The two lengths

The shift starts `transfer.valid_length` bytes into the buffer, so it takes the cells from
there on; what has to be kept are the last 262144 valid bytes, which start at
`valid_length - 262144`.  For a transfer of `n` bytes the two match at one fill level,
`valid_length = 262144 + n`.  Elsewhere

* **below it** cells behind `valid_length` are moved into the valid range, so bytes become
  valid that never were, or that were taken out long ago;
* **above it** the shift stops short of the newest bytes, which are lost, while older ones
  are kept.

`KeepsNewest` compares the two ranges of cells, not the two lengths: the equivalence
`dropsOldest_iff` is then exact, also for a buffer whose contents happen to repeat.

## The capacity

Whether the bytes are the right ones or not, there are never more than 524288 of them.
This is proved for every call and every transfer that fits (`bounded_step`), since the
equivalence speaks about all reachable states; `HackRFCapacity` goes on from there.
-/

namespace SpectrogramServers.MyServer.HackRFStreamer

/-! ## The property and the condition -/

/-- Transfers have at most 262144 bytes. -/
def Fits : State → Event → Prop
  | _, .callback transfer => transfer.valid_length ≤ 262144
  | _, .call _ | _, .advance | _, .wake | _, .timeout => True

/-- The purpose of the overflow branch: what is valid after a callback is the newest part
of what was valid and of the transfer, with the whole transfer at its end, and every valid
byte was valid or transferred before. -/
structure DropsOldest (s : State) (transfer : HackrfTransfer) (t : State) : Prop where
  suffix : t.buffered <:+ s.buffered ++ transfer.bytes
  transferred : transfer.bytes <:+ t.buffered
  valid : ∀ byte ∈ t.buffered, byte ∈ s.buffered ∨ byte ∈ transfer.bytes

/-- The 262144 bytes behind the first `transfer.valid_length` cells, which the callback
keeps, are the last 262144 valid ones, which it should keep. -/
def KeepsNewest (s : State) (transfer : HackrfTransfer) : Prop :=
  s.thread_buffer.slice transfer.valid_length 262144 =
    s.thread_buffer.slice (s.valid_length - 262144) 262144

/-! ## What a callback leaves -/

/-- The callback of an overflow succeeds, and leaves what it has shifted to the front
followed by the transfer.  It does not look at `valid_length`. -/
theorem myCallback_overflow {s : State} {transfer : HackrfTransfer}
    (short : transfer.valid_length ≤ 262144) (full : 262144 ≤ s.valid_length) :
    Succeeds (myCallback s transfer) fun t =>
      t.valid_length = 262144 + transfer.valid_length ∧
      t.buffered = s.thread_buffer.slice transfer.valid_length 262144 ++ transfer.bytes ∧
      t.receiver = s.receiver ∧ t.undefinedBehaviour = s.undefinedBehaviour := by
  obtain ⟨shifted, moved, kept⟩ :=
    s.thread_buffer.succeeds_move? s.thread_buffer 0 transfer.valid_length 262144
      (by omega) (by omega)
  obtain ⟨thread_buffer, appended, cells⟩ :=
    shifted.succeeds_move? transfer.buffer 262144 0 transfer.valid_length (by omega) (by omega)
  have length : u32 ((262144 : ℕ) + transfer.valid_length : ℤ) =
      262144 + transfer.valid_length := by
    rw [← Int.natCast_add]
    exact u32_natCast (by omega)
  have run : myCallback s transfer = some { s with
      thread_buffer := thread_buffer, valid_length := 262144 + transfer.valid_length } := by
    simp only [myCallback, ge_iff_le, full, if_true, Option.bind_eq_bind, Option.bind_some,
      moved, appended, length]
  refine ⟨_, run, rfl, ?_, rfl, rfl⟩
  have shiftedSlice : thread_buffer.slice 0 262144 =
      s.thread_buffer.slice transfer.valid_length 262144 := by
    refine CArray.slice_congr fun k hk => ?_
    rw [cells, if_neg (by omega), kept, if_pos (by omega), Nat.zero_add, Nat.sub_zero]
  have appendedSlice : thread_buffer.slice (0 + 262144) transfer.valid_length =
      transfer.bytes := by
    refine CArray.slice_congr fun k hk => ?_
    have index : 0 + (0 + 262144 + k - 262144) = 0 + k := by omega
    rw [cells, if_pos (by omega), index]
  show thread_buffer.slice 0 (262144 + transfer.valid_length) = _
  rw [CArray.slice_append, shiftedSlice, appendedSlice]

/-- **An overflow drops the oldest bytes exactly if it keeps the newest.**  Both lists
have the same length behind the transfer, so a suffix of that length is the last 262144
bytes. -/
theorem dropsOldest_iff_keepsNewest {s t : State} {transfer : HackrfTransfer}
    (short : transfer.valid_length ≤ 262144) (full : 262144 ≤ s.valid_length)
    (bound : s.valid_length ≤ 524288)
    (buffered : t.buffered =
      s.thread_buffer.slice transfer.valid_length 262144 ++ transfer.bytes) :
    DropsOldest s transfer t ↔ KeepsNewest s transfer := by
  have newest : s.thread_buffer.slice (s.valid_length - 262144) 262144 <:+ s.buffered := by
    have split := s.thread_buffer.slice_append 0 (s.valid_length - 262144) 262144
    rw [Nat.sub_add_cancel full, Nat.zero_add] at split
    exact ⟨_, split.symm⟩
  constructor
  · intro drops
    have suffix := drops.suffix
    rw [buffered, List.suffix_append_self_iff] at suffix
    have lengths : (s.thread_buffer.slice transfer.valid_length 262144).length =
        (s.thread_buffer.slice (s.valid_length - 262144) 262144).length := by
      rw [CArray.length_slice _ (by omega), CArray.length_slice _ (by omega)]
    exact (List.suffix_of_suffix_length_le suffix newest lengths.le).eq_of_length lengths
  · intro keeps
    have suffix : t.buffered <:+ s.buffered ++ transfer.bytes := by
      rw [buffered, keeps, List.suffix_append_self_iff]
      exact newest
    refine ⟨suffix, ?_, fun byte mem => List.mem_append.mp (suffix.mem mem)⟩
    rw [buffered]
    exact List.suffix_append _ _

/-! ## The capacity -/

/-- A call reads no more than there is, whatever it asks for. -/
theorem read_length_le {s : State} (bound : s.valid_length ≤ 524288) (call : Call) :
    0 ≤ read_length s call ∧ read_length s call ≤ s.valid_length := by
  rw [read_length]
  generalize u32 (samplesLeft call) = left
  by_cases more : s.valid_length > left
  · rw [if_pos more, i32_natCast (by omega)]
    omega
  · rw [if_neg more, i32_natCast (by omega)]
    omega

/-- What is left is the difference of the two, which does not wrap. -/
theorem fill_valid_length {s t : State} {call : Call} (bound : s.valid_length ≤ 524288)
    (h : fill s call = some t) : (t.valid_length : ℤ) = s.valid_length - read_length s call := by
  obtain ⟨nonneg, le⟩ := read_length_le bound call
  rw [fill_eq] at h
  obtain ⟨buffer, -, h⟩ := Option.bind_eq_some_iff.mp h
  obtain ⟨thread_buffer, -, h⟩ := Option.bind_eq_some_iff.mp h
  obtain rfl := Option.some.inj h
  dsimp only
  unfold u32
  omega

/-- No step makes `valid_length` greater than the buffer, with an overflow or without. -/
theorem bounded_step {s t : State} {e : Event} (bound : s.valid_length ≤ 524288)
    (fits : Fits s e) (h : step s e = some t) : t.valid_length ≤ 524288 := by
  cases step_cases h with
  | called transfer =>
      by_cases room : s.valid_length < 262144
      · obtain ⟨t, run, length, -⟩ := myCallback_room fits room
        rw [run, Option.getD_some, length]
        change transfer.valid_length ≤ 262144 at fits
        omega
      · obtain ⟨t, run, length, -⟩ := myCallback_overflow fits (Nat.not_lt.mp room)
        rw [run, Option.getD_some, length]
        exact Nat.add_le_add_left fits 262144
  | filled call =>
      cases ran : fill s call with
      | none => exact bound
      | some t =>
          have rest := fill_valid_length bound ran
          have read := read_length_le bound call
          rw [Option.getD_some]
          omega
  | entered | wanting | finished | waited | woken | timedOut => exact bound

/-! ## Every reachable state -/

/-- **Overflow.**  In every state that is reached with transfers of at most 262144 bytes
and in which `buffer_mutex` is free, a callback that finds at least 262144 valid bytes
drops only oldest bytes exactly if it keeps the newest. -/
theorem dropsOldest_iff (thread_buffer : CArray UInt8 524288) (es : List Event) (s : State)
    (fits : hackRFStreamer.Along Fits (start thread_buffer) es)
    (run : hackRFStreamer.run (start thread_buffer) es = some s) (free : s.mutexFree = true)
    (full : 262144 ≤ s.valid_length) (transfer : HackrfTransfer)
    (short : transfer.valid_length ≤ 262144) :
    ∃ t, step s (.callback transfer) = some t ∧ t.undefinedBehaviour = s.undefinedBehaviour ∧
      t.valid_length = 262144 + transfer.valid_length ∧
      (DropsOldest s transfer t ↔ KeepsNewest s transfer) := by
  have bound : s.valid_length ≤ 524288 :=
    (hackRFStreamer.throughout_of_along (fun s : State => s.valid_length ≤ 524288)
      (fun _ _ _ bound fits h => bounded_step bound fits h) (Nat.zero_le _) fits).last _ run
  obtain ⟨t, ran, length, buffered, -, defined⟩ := myCallback_overflow short full
  refine ⟨t, ?_, defined, length, dropsOldest_iff_keepsNewest short full bound buffered⟩
  show (if s.mutexFree then some ((myCallback s transfer).getD s.fault) else none) = some t
  rw [if_pos free, ran, Option.getD_some]

/-- A transfer of `n` equal bytes. -/
def ones (n : ℕ) : HackrfTransfer := ⟨fun _ => 1, n⟩

theorem eq_one_of_mem_ones {n : ℕ} {byte : UInt8} (mem : byte ∈ (ones n).bytes) : byte = 1 := by
  obtain ⟨k, -, cell⟩ := CArray.mem_slice_iff.mp mem
  unfold CArray.get? at cell
  split at cell
  · exact (Option.some.inj cell).symm
  · cases cell

/-- A callback of that kind, with room for it. -/
theorem step_ones {s : State} {n : ℕ} (free : s.receiver = .idle) (short : n ≤ 262144)
    (room : s.valid_length < 262144) :
    ∃ t, step s (.callback (ones n)) = some t ∧ t.receiver = .idle ∧
      t.valid_length = s.valid_length + n ∧ t.buffered = s.buffered ++ (ones n).bytes ∧
      ∀ j, s.valid_length + n ≤ j → t.thread_buffer.get? j = s.thread_buffer.get? j := by
  have within : (ones n).valid_length ≤ 262144 := short
  obtain ⟨t, ran, length, cells, receiver, -⟩ := myCallback_room within room
  obtain ⟨t', ran', -, buffered, -⟩ := myCallback_spec within room
  obtain rfl : t = t' := Option.some.inj (ran.symm.trans ran')
  refine ⟨t, ?_, receiver.trans free, length, buffered, fun j hj => ?_⟩
  · show (if s.mutexFree then some ((myCallback s (ones n)).getD s.fault) else none) = some t
    rw [State.mutexFree, free, ran]
    rfl
  · rw [cells, if_neg]
    show ¬ (s.valid_length ≤ j ∧ j < s.valid_length + n)
    omega

/-- At the one fill level that fits the transfer. -/
theorem dropsOldest_iff_oneByte :
    ∃ s t, hackRFStreamer.run (start fun _ => 0)
        [.callback (ones 262143), .callback (ones 2)] = some s ∧
      s.valid_length = 262145 ∧ step s (.callback (ones 1)) = some t ∧
      DropsOldest s (ones 1) t := by
  obtain ⟨s, first, idle, length, -⟩ :=
    step_ones (s := start fun _ => 0) (n := 262143) rfl (by decide) (by decide)
  have length : s.valid_length = 262143 := length.trans (Nat.zero_add _)
  obtain ⟨t, second, idle', length', -⟩ := step_ones (s := s) (n := 2) idle (by decide) (by omega)
  have run : hackRFStreamer.run (start fun _ => 0)
      [.callback (ones 262143), .callback (ones 2)] = some t :=
    Option.bind_eq_some_iff.mpr ⟨s, first, Option.bind_eq_some_iff.mpr ⟨t, second, rfl⟩⟩
  have fits : hackRFStreamer.Along Fits (start fun _ => 0)
      [.callback (ones 262143), .callback (ones 2)] :=
    fun _ _ => ⟨(by decide : 262143 ≤ 262144), fun _ _ => ⟨(by decide : 2 ≤ 262144), trivial⟩⟩
  have free : t.mutexFree = true := by
    rw [State.mutexFree, idle']
  obtain ⟨u, third, -, -, drops⟩ := dropsOldest_iff (fun _ => 0) _ t fits run free (by omega)
    (ones 1) (by decide)
  refine ⟨t, u, run, by omega, third, drops.mpr ?_⟩
  have length'' : t.valid_length - 262144 = 1 := by omega
  rw [KeepsNewest, length'']
  rfl

/-- The shortest transfer finds the buffer exactly half full.  The byte behind the valid
ones, which no callback has written, becomes valid, and the oldest byte is dropped for it. -/
theorem not_dropsOldest_staleByte :
    ∃ s t, hackRFStreamer.run (start fun _ => 0) [.callback (ones 262144)] = some s ∧
      s.mutexFree = true ∧ s.valid_length = 262144 ∧
      step s (.callback (ones 1)) = some t ∧ ¬ DropsOldest s (ones 1) t := by
  obtain ⟨s, first, idle, length, buffered, behind⟩ :=
    step_ones (s := start fun _ => 0) (n := 262144) rfl (by decide) (by decide)
  have length : s.valid_length = 262144 := length.trans (Nat.zero_add _)
  have free : s.mutexFree = true := by
    rw [State.mutexFree, idle]
  have within : (ones 1).valid_length ≤ 262144 := by decide
  obtain ⟨t, ran, -, buffered', -⟩ := myCallback_overflow within length.ge
  refine ⟨s, t, Option.bind_eq_some_iff.mpr ⟨s, first, rfl⟩, free, length, ?_, fun drops => ?_⟩
  · show (if s.mutexFree then some ((myCallback s (ones 1)).getD s.fault) else none) = some t
    rw [if_pos free, ran, Option.getD_some]
  · have stale : (0 : UInt8) ∈ t.buffered := by
      rw [buffered']
      refine List.mem_append_left _ (CArray.mem_slice_iff.mpr ⟨262143, by decide, ?_⟩)
      have index : (ones 1).valid_length + 262143 = 262144 := rfl
      rw [index, behind 262144 (Nat.zero_add _).le]
      exact CArray.get?_of_lt _ (by omega)
    rcases drops.valid 0 stale with before | transferred
    · have nothing : State.buffered (start fun _ => 0) = [] := rfl
      rw [buffered, nothing, List.nil_append] at before
      exact absurd (eq_one_of_mem_ones before) (by decide)
    · exact absurd (eq_one_of_mem_ones transferred) (by decide)

end SpectrogramServers.MyServer.HackRFStreamer
