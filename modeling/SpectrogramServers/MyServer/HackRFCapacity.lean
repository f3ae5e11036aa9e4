import SpectrogramServers.MyServer.HackRFOverflow
import SpectrogramServers.MyServer.HackRFTimeout

/-!
# The capacity of `thread_buffer`

`HackRFFifo` assumed that callbacks find room, and `HackRFOverflow` showed what goes wrong
with the contents where they do not.  This module says what never goes wrong: with
overflows, timeouts and spurious wake-ups, and whatever the calls ask for, nothing is
accessed out of bounds and no unsigned difference wraps (`throughout_inBounds`).

## The array that is shared

`thread_buffer` has room for two transfers of 262144 bytes.  `myCallback` appends to no
more than half of it: where it finds more, it keeps half.  `receiveSamples` takes out no
more than is there, since it reads the smaller of the two lengths (`read_length_le`), so
`valid_length - read_length` is a true difference and the `memmove` that follows stays
inside.

## The array of the caller

It is safe for another reason.  A call writes only cells that `samplesFilled` counts
(`Call.Counted`), and `samplesFilled` is 0 or `2 * N` at every loop test
(`Receiver.Unfilled`, from `HackRFTimeout`): the only pass that copies starts at cell 0
and copies what was asked for.

The second of these is also why `2 * N - samplesFilled` does not wrap, although it is
computed with a `uint32_t`.  The calls are bounded by `0 ≤ 2 * N < 2 ^ 31`, which is where
`numberOfSamples*2` is defined in C++ at all.
-/

namespace SpectrogramServers.MyServer.HackRFStreamer

/-! ## The properties -/

/-- The call that is running. -/
def Receiver.running : Receiver → Option Call
  | .idle => none
  | .outer call | .inner call | .waiting call => some call

/-- What is safe in a state: `valid_length` is within `thread_buffer`, no access has been
outside an array of the streamer, and the running call has written no cell from `2 * N`
on. -/
structure InBounds (s : State) : Prop where
  valid_length : s.valid_length ≤ 2 * 262144
  defined : s.undefinedBehaviour = false
  buffer : ∀ call ∈ s.receiver.running, ∀ k, (call.buffer k).isSome = true →
    (k : ℤ) < 2 * call.numberOfSamples

/-- The step does not wrap an unsigned difference: neither what a call has still to read,
nor what is left when it has read.  Only the step that copies computes any. -/
def NoWrap (s : State) : Event → Prop
  | .advance => ∀ call, s.receiver = .inner call →
      ¬ s.valid_length < u32 (call.numberOfSamples * 2) →
      (call.samplesFilled : ℤ) ≤ 2 * call.numberOfSamples ∧
        samplesLeft call = 2 * call.numberOfSamples - call.samplesFilled ∧
        0 ≤ read_length s call ∧ read_length s call ≤ s.valid_length ∧
        ∀ t, fill s call = some t → (t.valid_length : ℤ) = s.valid_length - read_length s call
  | .callback _ | .call _ | .wake | .timeout => True

/-! ## The invariant -/

/-- A call has written only cells that it counts.  At the loop tests the count is exact,
so this bounds the cells of the caller's array from above. -/
def Call.Counted (call : Call) : Prop :=
  ∀ k, (call.buffer k).isSome = true → k < call.samplesFilled

/-- What holds between two steps: the invariant behind `InBounds`, with the count of the
cells in place of their bound. -/
structure Within (s : State) : Prop where
  valid_length : s.valid_length ≤ 524288
  defined : s.undefinedBehaviour = false
  unfilled : s.receiver.Unfilled
  counted : ∀ call ∈ s.receiver.running, call.Counted

theorem within_start (thread_buffer : CArray UInt8 524288) : Within (start thread_buffer) where
  valid_length := Nat.zero_le _
  defined := rfl
  unfilled := trivial
  counted := fun _ mem => by cases mem

/-- A call that counts nothing has written nothing. -/
theorem Call.Counted.empty {call : Call} (counted : call.Counted)
    (nothing : call.samplesFilled = 0) : call.Empty := by
  refine ⟨nothing, fun k => ?_⟩
  cases written : call.buffer k with
  | none => rfl
  | some sample =>
      have below := counted k (by rw [written]; rfl)
      omega

theorem Receiver.Unfilled.samplesFilled_le {receiver : Receiver} (h : receiver.Unfilled)
    {call : Call} (mem : call ∈ receiver.running) :
    (call.samplesFilled : ℤ) ≤ 2 * call.numberOfSamples := by
  cases receiver with
  | idle => cases mem
  | outer c =>
      obtain rfl := Option.some.inj mem
      obtain ⟨⟨nonneg, -⟩, filled⟩ := h
      omega
  | inner c | waiting c =>
      obtain rfl := Option.some.inj mem
      obtain ⟨⟨positive, -⟩, nothing⟩ := h
      omega

theorem Within.inBounds {s : State} (h : Within s) : InBounds s where
  valid_length := h.valid_length
  defined := h.defined
  buffer := fun call mem k written => by
    have below := h.counted call mem k written
    have most := h.unfilled.samplesFilled_le mem
    omega

/-! ## The step lemma -/

/-- A callback of a transfer that fits succeeds, with room or without. -/
theorem succeeds_myCallback {s : State} {transfer : HackrfTransfer}
    (short : transfer.valid_length ≤ 262144) :
    Succeeds (myCallback s transfer) fun t =>
      t.receiver = s.receiver ∧ t.undefinedBehaviour = s.undefinedBehaviour := by
  rcases lt_or_ge s.valid_length 262144 with room | full
  · exact (myCallback_room short room).mono fun _ h => h.2.2
  · exact (myCallback_overflow short full).mono fun _ h => h.2.2

/-- A call that has left the inner loop reads and writes inside the arrays: the bytes it
copies are valid ones, and the bytes it shifts lie behind them. -/
theorem Within.succeeds_fill {s : State} {call : Call} (h : Within s)
    (receiver : s.receiver = .inner call)
    (enough : ¬ s.valid_length < u32 (call.numberOfSamples * 2)) :
    Succeeds (fill s call) fun t => t.undefinedBehaviour = s.undefinedBehaviour ∧
      ∀ call' ∈ t.receiver.running, call'.Counted := by
  have unfilled := h.unfilled
  rw [receiver] at unfilled
  obtain ⟨⟨positive, small⟩, nothing⟩ := unfilled
  have double := u32_double positive.le small
  have counted := h.counted call (by rw [receiver]; rfl)
  refine (fill_spec positive (counted.empty nothing) (by omega) h.valid_length).mono ?_
  rintro t ⟨call', outer, -, full, -, defined, -⟩
  refine ⟨defined, fun running mem => ?_⟩
  rw [outer] at mem
  obtain rfl := Option.some.inj mem
  exact fun k written => (full.buffer k).mp written

/-- **The step lemma.**  Callbacks of transfers that fit and calls whose bound is an `int`
keep the invariant, in every interleaving; nothing is assumed about the fill level. -/
theorem within_step {s t : State} {e : Event} (h : Within s) (fits : Fits s e) (asks : Asks s e)
    (taken : step s e = some t) : Within t := by
  have valid_length := bounded_step h.valid_length fits taken
  have unfilled := unfilled_step h.unfilled asks taken
  suffices rest : t.undefinedBehaviour = false ∧ ∀ call ∈ t.receiver.running, call.Counted from
    ⟨valid_length, rest.1, unfilled, rest.2⟩
  have counted := h.counted
  cases step_cases taken with
  | called transfer =>
      obtain ⟨t, ran, receiver, defined⟩ := succeeds_myCallback (s := s) fits
      rw [ran, Option.getD_some, receiver, defined]
      exact ⟨h.defined, counted⟩
  | entered numberOfSamples =>
      refine ⟨h.defined, fun call mem k written => ?_⟩
      obtain rfl := Option.some.inj mem
      cases written
  | wanting call receiver | waited call receiver | woken call receiver =>
      rw [receiver] at counted
      exact ⟨h.defined, counted⟩
  | finished | timedOut => exact ⟨h.defined, fun _ mem => by cases mem⟩
  | filled call receiver enough =>
      obtain ⟨t, ran, defined, written⟩ := h.succeeds_fill receiver enough
      rw [ran, Option.getD_some, defined]
      exact ⟨h.defined, written⟩

theorem Within.noWrap {s : State} (h : Within s) (e : Event) : NoWrap s e := by
  cases e with
  | callback transfer | call numberOfSamples | wake | timeout => trivial
  | advance =>
      intro call receiver enough
      have unfilled := h.unfilled
      rw [receiver] at unfilled
      obtain ⟨⟨positive, small⟩, nothing⟩ := unfilled
      obtain ⟨nonneg, le⟩ := read_length_le h.valid_length call
      refine ⟨by omega, ?_, nonneg, le, fun t ran => fill_valid_length h.valid_length ran⟩
      unfold samplesLeft i32 u32
      omega

/-! ## Every run -/

/-- **Capacity.**  In every interleaving of callbacks with transfers of at most 262144
bytes and calls for `N` samples with `0 ≤ 2 * N < 2 ^ 31`, every state is in bounds and no
unsigned difference wraps. -/
theorem throughout_inBounds (thread_buffer : CArray UInt8 524288) (es : List Event)
    (fits : hackRFStreamer.Along Fits (start thread_buffer) es)
    (asks : hackRFStreamer.Along Asks (start thread_buffer) es) :
    hackRFStreamer.Throughout InBounds (start thread_buffer) es ∧
      hackRFStreamer.Along NoWrap (start thread_buffer) es := by
  have guard := hackRFStreamer.along_and.mpr ⟨fits, asks⟩
  have start := within_start thread_buffer
  constructor
  · have throughout := hackRFStreamer.throughout_of_along Within
      (fun s e t within meets taken => within_step within meets.1 meets.2 taken) start guard
    exact throughout.mono _ fun _ => Within.inBounds
  · refine hackRFStreamer.along_of_along Within ?_ start guard
    intro s e t within meets taken
    exact ⟨within_step within meets.1 meets.2 taken, within.noWrap e⟩

/-- An overflow while a call waits, which wakes up, reads, and is followed by one that
times out. -/
def overflowing : List Event :=
  [.callback (ones 262143), .call 200000, .advance, .advance, .callback (ones 262144),
    .callback (ones 262144), .wake, .advance, .advance, .call 100000, .advance, .advance,
    .timeout]

/-- It overflows twice, reads a block of what is left, and times out, all inside the
arrays. -/
theorem throughout_inBounds_overflowing :
    hackRFStreamer.Throughout InBounds (start fun _ => 0) overflowing ∧
      hackRFStreamer.Along NoWrap (start fun _ => 0) overflowing := by
  have fits : ∀ e ∈ overflowing, ∀ s, Fits s e := by
    simp [overflowing, Fits, ones]
  have asks : ∀ e ∈ overflowing, ∀ s, Asks s e := by
    simp [overflowing, Asks]
  exact throughout_inBounds _ _ (hackRFStreamer.along_of_mem fits _)
    (hackRFStreamer.along_of_mem asks _)

end SpectrogramServers.MyServer.HackRFStreamer
