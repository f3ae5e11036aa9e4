import Mathlib.Data.List.Basic
import SpectrogramServers.MyServer.HackRFStreamer

/-!
# `HackRFStreamer` is a lossless FIFO

`HackRFStreamer` modelled the two parties and their mutex.  This module says what the
buffer between them is for: as long as every callback finds less than half of
`thread_buffer` in use, the bytes that the radio delivers come out of `receiveSamples`
once each, in order and sign extended, whatever the interleaving and however the stream is
cut into transfers.

## The contents of the FIFO

Between two steps a delivered byte is in one of two places: in a cell
`thread_buffer[0..valid_length)`, or, copied, in the array of a call that has not returned
yet.  `State.contents` is the one list of both, the older part in front, and a step can do
three things with it: a callback appends, a return takes off the front, and everything
else leaves it alone although bytes may move from the one place to the other.  `Moves`
says so of a step, in the form the conservation law of `Lib.Machine` asks for, and
`moves_step` proves it, one lemma for each thing that can happen.

What carries the step lemma is that a call has either stored nothing or everything
(`Receiver.Ready`): the inner loop is left only with all `2 * N` bytes there, so the first
pass of the outer loop is the last one.

## A call goes on

Conservation alone is true of a `receiveSamples` that never copies and never returns.  So
`lossless_fifo` also says, of every state of the run, what becomes of a running call
(`Progress`): with the data there it returns `N` within two more loop tests, without it
the call is inside the wait, and a wait ends in another look at the data or in the return
of 0.
-/

namespace SpectrogramServers

namespace MyServer

/-! ## Conversions inside the range -/

/-- A number below `2 ^ 32` is its own conversion to `uint32_t`. -/
theorem u32_natCast {n : ℕ} (h : n < 4294967296) : u32 n = n := by
  unfold u32
  omega

/-- A number below `2 ^ 31` is its own conversion to `int`. -/
theorem i32_natCast {n : ℕ} (h : n < 2147483648) : i32 n = n := by
  unfold i32
  split <;> omega

namespace HackRFStreamer

/-! ## The FIFO seen from outside -/

/-- The bytes that are buffered, oldest first.  Cells from `valid_length` on hold what
earlier transfers left there and are not looked at. -/
def State.buffered (s : State) : List UInt8 := s.thread_buffer.slice 0 s.valid_length

/-- The samples a call has stored in the caller's array so far: the cells that
`samplesFilled` counts, in order. -/
def Call.stored (call : Call) : List ℤ :=
  (List.range call.samplesFilled).filterMap call.buffer

/-- The samples a running call has stored. -/
def Receiver.inFlight : Receiver → List ℤ
  | .idle => []
  | .outer call | .inner call | .waiting call => call.stored

/-- The contents of the FIFO: what a call has taken and not yet returned, and behind it
what is buffered.  This is the list that only grows at its end and shrinks at its front. -/
def State.contents (s : State) : List ℤ := s.receiver.inFlight ++ s.buffered.map char

/-- The samples a caller finds: `result` complex ones. -/
def Return.samples (r : Return) : List ℤ :=
  (List.range (2 * r.result).toNat).filterMap r.call.buffer

/-- The sign-extended bytes a step delivers. -/
def delivered (_ : State) : Event → List ℤ
  | .callback transfer => transfer.bytes.map char
  | .call _ | .advance | .wake | .timeout => []

/-- The samples a step returns to the caller. -/
def samplesReturned (s : State) (e : Event) : List ℤ :=
  ((returned s e).map Return.samples).getD []

/-- The step is a callback. -/
def Event.isCallback : Event → Bool
  | .callback _ => true
  | .call _ | .advance | .wake | .timeout => false

/-- Normal operation: transfers fit into half of the buffer, callbacks find the other half
free, and calls ask for a positive number of samples that fits into half of the buffer.
These are the assumptions under which `main` and the radio library use the class. -/
def Normal (s : State) : Event → Prop
  | .callback transfer => transfer.valid_length ≤ 262144 ∧ s.valid_length < 262144
  | .call numberOfSamples => 0 < numberOfSamples ∧ 2 * numberOfSamples ≤ 262144
  | .advance | .wake | .timeout => True

/-! ## What the two parties do -/

/-- A callback that finds room leaves its bytes in the cells from `valid_length` on, and
every other cell, the receiver and the record of undefined behaviour as they were. -/
theorem myCallback_room {s : State} {transfer : HackrfTransfer}
    (short : transfer.valid_length ≤ 262144) (room : s.valid_length < 262144) :
    Succeeds (myCallback s transfer) fun t =>
      t.valid_length = s.valid_length + transfer.valid_length ∧
      (∀ j, t.thread_buffer.get? j =
        if s.valid_length ≤ j ∧ j < s.valid_length + transfer.valid_length then
          transfer.buffer.get? (0 + (j - s.valid_length))
        else s.thread_buffer.get? j) ∧
      t.receiver = s.receiver ∧ t.undefinedBehaviour = s.undefinedBehaviour := by
  have noOverflow : ¬ s.valid_length ≥ 262144 := Nat.not_le.mpr room
  have length : u32 ((s.valid_length : ℤ) + transfer.valid_length) =
      s.valid_length + transfer.valid_length := by
    rw [← Int.natCast_add]
    exact u32_natCast (by omega)
  obtain ⟨thread_buffer, moved, cells⟩ :=
    s.thread_buffer.succeeds_move? transfer.buffer s.valid_length 0
      transfer.valid_length (by omega) (by omega)
  have run : myCallback s transfer = some { s with
      thread_buffer := thread_buffer
      valid_length := s.valid_length + transfer.valid_length } := by
    simp only [myCallback, noOverflow, if_false, Option.bind_eq_bind, Option.bind_some,
      moved, length]
  exact ⟨_, run, rfl, cells, rfl, rfl⟩

/-- A callback that finds room appends its bytes to those that are buffered, and changes
nothing else that the two parties share. -/
theorem myCallback_spec {s : State} {transfer : HackrfTransfer}
    (short : transfer.valid_length ≤ 262144) (room : s.valid_length < 262144) :
    Succeeds (myCallback s transfer) fun t =>
      t.valid_length = s.valid_length + transfer.valid_length ∧
      t.buffered = s.buffered ++ transfer.bytes ∧
      t.receiver = s.receiver ∧ t.undefinedBehaviour = s.undefinedBehaviour := by
  refine (myCallback_room short room).mono ?_
  rintro t ⟨length, cells, rest⟩
  refine ⟨length, ?_, rest⟩
  rw [State.buffered, length, CArray.slice_append]
  congr 1
  · refine CArray.slice_congr fun k hk => ?_
    rw [cells, if_neg (by omega)]
  · refine CArray.slice_congr fun k hk => ?_
    rw [cells, if_pos (by omega)]
    congr 1
    omega

/-- The cells a call finds in its array after the copying loop. -/
theorem copySamples_spec (thread_buffer : CArray UInt8 524288) {n : ℕ}
    (bound : 2 * n ≤ 524288) {buffer : ℕ → Option ℤ} (empty : ∀ k, buffer k = none) :
    Succeeds (forUp (copySample thread_buffer 0) 0 n buffer) fun filled =>
      ∀ k, filled k = if k < 2 * n then (thread_buffer.get? k).map char else none := by
  refine succeeds_forUp_zero
    (fun i (filled : ℕ → Option ℤ) => ∀ k, filled k =
      if k < 2 * i then (thread_buffer.get? k).map char else none) (by simpa using empty) ?_
  intro i filled hi cells
  obtain ⟨inPhase, hre, -⟩ := thread_buffer.succeeds_get? (i := 2 * i) (by omega)
  obtain ⟨quadrature, him, -⟩ := thread_buffer.succeeds_get? (i := 2 * i + 1) (by omega)
  refine succeeds_bind_of_eq hre (succeeds_bind_of_eq him (.pure fun k => ?_))
  rw [Nat.zero_add]
  by_cases second : k = 2 * i + 1
  · subst second
    rw [Function.update_self, if_pos (by omega), him, Option.map_some]
  · rw [Function.update_of_ne second]
    by_cases first : k = 2 * i
    · subst first
      rw [Function.update_self, if_pos (by omega), hre, Option.map_some]
    · rw [Function.update_of_ne first, cells k]
      by_cases before : k < 2 * i
      · rw [if_pos before, if_pos (by omega)]
      · rw [if_neg before, if_neg (by omega)]

/-- Reading back a caller's array that was filled from an array. -/
theorem filterMap_range_eq_slice {n : ℕ} (a : CArray UInt8 n) {buffer : ℕ → Option ℤ}
    (len : ℕ) (cells : ∀ k, k < len → buffer k = (a.get? k).map char) :
    (List.range len).filterMap buffer = (a.slice 0 len).map char := by
  induction len with
  | zero => rfl
  | succ len ih =>
      rw [List.range_succ, List.filterMap_append, ih fun k hk => cells k (by omega),
        CArray.slice_succ, List.map_append, Nat.zero_add]
      congr 1
      rw [List.filterMap_cons, cells len (Nat.lt_succ_self len)]
      cases a.get? len <;> rfl

/-- A call that has not stored anything. -/
structure Call.Empty (call : Call) : Prop where
  samplesFilled : call.samplesFilled = 0
  buffer : ∀ k, call.buffer k = none

/-- A call that has stored everything it was asked for, and nothing beyond. -/
structure Call.Full (call : Call) : Prop where
  samplesFilled : (call.samplesFilled : ℤ) = 2 * call.numberOfSamples
  buffer : ∀ k, (call.buffer k).isSome = true ↔ k < call.samplesFilled

/-- The call asks for something that fits into half of the buffer. -/
def Call.InRange (call : Call) : Prop :=
  0 < call.numberOfSamples ∧ 2 * call.numberOfSamples ≤ 262144

theorem Call.Empty.stored {call : Call} (h : call.Empty) : call.stored = [] := by
  rw [Call.stored, h.samplesFilled]
  rfl

/-- `samplesLeft` of the next pass of the outer loop. -/
def samplesLeft (call : Call) : ℤ := i32 (u32 (call.numberOfSamples * 2 - call.samplesFilled))

/-- `read_length` of the next pass of the outer loop. -/
def read_length (s : State) (call : Call) : ℤ :=
  i32 (if s.valid_length > u32 (samplesLeft call) then u32 (samplesLeft call)
    else s.valid_length)

theorem fill_eq (s : State) (call : Call) :
    fill s call =
      (forUp (copySample s.thread_buffer call.samplesFilled) 0
        ((read_length s call + 1) / 2).toNat call.buffer).bind fun buffer =>
      (s.thread_buffer.move? 0 s.thread_buffer (u32 (read_length s call))
        (u32 (s.valid_length - read_length s call))).bind fun thread_buffer =>
      some { s with
        thread_buffer := thread_buffer, valid_length := u32 (s.valid_length - read_length s call)
        receiver := .outer { call with
          samplesFilled := u32 (call.samplesFilled + read_length s call)
          buffer := buffer } } := rfl

/-- A call that has stored nothing reads all it was asked for, once that is there. -/
theorem read_length_eq {s : State} {call : Call} (nothing : call.samplesFilled = 0)
    (positive : 0 < call.numberOfSamples) (small : 2 * call.numberOfSamples < 2147483648)
    (enough : 2 * call.numberOfSamples ≤ s.valid_length) :
    read_length s call = 2 * call.numberOfSamples := by
  obtain ⟨n, hn⟩ : ∃ n : ℕ, call.numberOfSamples = n := ⟨call.numberOfSamples.toNat, by omega⟩
  rw [hn] at small enough ⊢
  have left : samplesLeft call = (2 * n : ℕ) := by
    have asked : call.numberOfSamples * 2 - call.samplesFilled = (2 * n : ℕ) := by
      rw [hn, nothing]
      omega
    rw [samplesLeft, asked, u32_natCast (by omega), i32_natCast (by omega)]
  -- of two numbers that are not in the order tested for, the first is the second
  have least : (if s.valid_length > 2 * n then ((2 * n : ℕ) : ℤ) else s.valid_length) =
      (2 * n : ℕ) := by
    split <;> omega
  rw [read_length, left, u32_natCast (by omega), least, i32_natCast (by omega)]
  exact Int.natCast_mul 2 n

/-- The body of the outer loop takes exactly what was asked for off the front of the
buffered bytes, and stores it: afterwards the call is full, and what it has stored
followed by what is still buffered is what was buffered before. -/
theorem fill_spec {s : State} {call : Call} (positive : 0 < call.numberOfSamples)
    (empty : call.Empty) (enough : 2 * call.numberOfSamples ≤ s.valid_length)
    (bound : s.valid_length ≤ 524288) :
    Succeeds (fill s call) fun t => ∃ call', t.receiver = .outer call' ∧
      call'.numberOfSamples = call.numberOfSamples ∧ call'.Full ∧
      t.valid_length ≤ 524288 ∧ t.undefinedBehaviour = s.undefinedBehaviour ∧
      ∃ taken, s.buffered = taken ++ t.buffered ∧ call'.stored = taken.map char ∧
        (taken.length : ℤ) = 2 * call.numberOfSamples := by
  -- nothing is stored yet, so all `2 * n` cells are asked for, and no conversion wraps
  have read := read_length_eq empty.samplesFilled positive (by omega) enough
  obtain ⟨n, hn⟩ : ∃ n : ℕ, call.numberOfSamples = n := ⟨call.numberOfSamples.toNat, by omega⟩
  rw [hn] at positive enough read
  have read : read_length s call = (2 * n : ℕ) := by omega
  have iterations : (((2 * n : ℕ) + 1 : ℤ) / 2).toNat = n := by omega
  have rest : u32 ((s.valid_length : ℤ) - (2 * n : ℕ)) = s.valid_length - 2 * n := by
    have cast : (s.valid_length : ℤ) - (2 * n : ℕ) = (s.valid_length - 2 * n : ℕ) := by omega
    rw [cast, u32_natCast (by omega)]
  have readIndex : u32 (2 * n : ℕ) = 2 * n := u32_natCast (by omega)
  have filled : u32 ((call.samplesFilled : ℤ) + (2 * n : ℕ)) = 2 * n := by
    rw [empty.samplesFilled, Int.natCast_zero, Int.zero_add, readIndex]
  obtain ⟨buffer, copied, cells⟩ :=
    copySamples_spec s.thread_buffer (n := n) (by omega) empty.buffer
  obtain ⟨thread_buffer, moved, shifted⟩ :=
    s.thread_buffer.succeeds_move? s.thread_buffer 0 (2 * n) (s.valid_length - 2 * n)
      (by omega) (by omega)
  have run : fill s call = some { s with
      thread_buffer := thread_buffer, valid_length := s.valid_length - 2 * n
      receiver := .outer { call with samplesFilled := 2 * n, buffer := buffer } } := by
    rw [fill_eq, read, iterations, rest, readIndex, filled, empty.samplesFilled, copied,
      Option.bind_some, moved, Option.bind_some]
  refine ⟨_, run, _, rfl, rfl, ⟨?_, ?_⟩, ?_, rfl, s.thread_buffer.slice 0 (2 * n), ?_, ?_, ?_⟩
  · change ((2 * n : ℕ) : ℤ) = 2 * call.numberOfSamples
    omega
  · intro k
    change (buffer k).isSome = true ↔ k < 2 * n
    rw [cells]
    by_cases stored : k < 2 * n
    · simp [stored, s.thread_buffer.get?_of_lt (by omega : k < 524288)]
    · simp [stored]
  · change s.valid_length - 2 * n ≤ 524288
    omega
  · have split : s.buffered = s.thread_buffer.slice 0 (2 * n) ++
        s.thread_buffer.slice (0 + 2 * n) (s.valid_length - 2 * n) := by
      rw [← CArray.slice_append, State.buffered, Nat.add_sub_cancel' (by omega)]
    -- `memmove` has brought the rest of the bytes to the front
    have shiftedSlice : thread_buffer.slice 0 (s.valid_length - 2 * n) =
        s.thread_buffer.slice (0 + 2 * n) (s.valid_length - 2 * n) := by
      refine CArray.slice_congr fun k hk => ?_
      rw [shifted, if_pos (by omega), Nat.sub_zero, Nat.zero_add, Nat.zero_add]
    rw [split, ← shiftedSlice]
    rfl
  · refine filterMap_range_eq_slice s.thread_buffer (2 * n) fun k hk => ?_
    exact (cells k).trans (if_pos hk)
  · rw [CArray.length_slice _ (by omega), hn]
    omega

/-! ## The step lemma -/

/-- What is known about a call at each of its loop tests: nothing is stored before the
inner loop has been left, and everything after that.  The inner loop is left only when all
that was asked for is there, so there is no state in between. -/
def Receiver.Ready : Receiver → Prop
  | .idle => True
  | .outer call => call.InRange ∧ (call.Empty ∨ call.Full)
  | .inner call | .waiting call => call.InRange ∧ call.Empty

/-- The step invariant of normal operation: no access has left an array, `valid_length` is
within `thread_buffer`, and the running call is as it should be at its loop test. -/
structure Ready (s : State) : Prop where
  defined : s.undefinedBehaviour = false
  bound : s.valid_length ≤ 524288
  receiver : s.receiver.Ready

theorem ready_start (thread_buffer : CArray UInt8 524288) : Ready (start thread_buffer) where
  defined := rfl
  bound := Nat.zero_le _
  receiver := trivial

/-- A step that ends a call returns `N` with the `2 * N` cells stored, or 0
with none, and removes nothing; a step inside a call removes bytes from the
front of the buffer and appends them, in order, to what the call has stored. -/
def CallCorrect (s : State) (e : Event) : Prop :=
  ∀ t, step s e = some t →
    (∀ r, returned s e = some r → t.buffered = s.buffered ∧
      ((r.result = r.call.numberOfSamples ∧ r.call.Full) ∨
        (r.result = 0 ∧ r.call.Empty))) ∧
    (returned s e = none → e.isCallback = false →
      ∃ taken, s.buffered = taken ++ t.buffered ∧
        t.receiver.inFlight = s.receiver.inFlight ++ taken.map char)

/-- A full call returns the number of samples it was asked for, and the caller
finds exactly what the call has stored. -/
theorem Call.Full.return_eq {call : Call} (inRange : call.InRange) (full : call.Full) :
    i32 (call.samplesFilled / 2 : ℕ) = call.numberOfSamples ∧
      (Return.mk call (i32 (call.samplesFilled / 2 : ℕ))).samples = call.stored := by
  obtain ⟨positive, half⟩ := inRange
  have filled := full.samplesFilled
  have result : i32 (call.samplesFilled / 2 : ℕ) = call.numberOfSamples := by
    rw [i32_natCast (by omega)]
    omega
  refine ⟨result, ?_⟩
  have cells : (2 * call.numberOfSamples).toNat = call.samplesFilled := by omega
  rw [Return.samples, result, cells, Call.stored]

/-- The value of the loop bound `numberOfSamples*2` as an unsigned number. -/
theorem Call.InRange.bound_eq {call : Call} (inRange : call.InRange) :
    (u32 (call.numberOfSamples * 2) : ℤ) = 2 * call.numberOfSamples := by
  obtain ⟨positive, half⟩ := inRange
  unfold u32
  omega

/-- What a step of normal operation does, in one statement: it keeps `Ready`, and what was
in the FIFO followed by what is delivered is what is returned followed by what is in it
then. The last two fields say how the two places of a byte change. -/
structure Moves (s : State) (e : Event) (t : State) : Prop where
  ready : Ready t
  contents : s.contents ++ delivered s e = samplesReturned s e ++ t.contents
  ends : ∀ r, returned s e = some r → t.buffered = s.buffered ∧
    ((r.result = r.call.numberOfSamples ∧ r.call.Full) ∨ (r.result = 0 ∧ r.call.Empty))
  takes : returned s e = none → e.isCallback = false →
    ∃ taken, s.buffered = taken ++ t.buffered ∧
      t.receiver.inFlight = s.receiver.inFlight ++ taken.map char

/-- A step that only moves the call on, with nothing stored or removed. -/
theorem Moves.of_receiver {s : State} {e : Event} {receiver : Receiver} (hs : Ready s)
    (ready : receiver.Ready) (inFlight : receiver.inFlight = s.receiver.inFlight)
    (nothing : delivered s e = []) (running : returned s e = none) :
    Moves s e { s with receiver := receiver } where
  ready := ⟨hs.defined, hs.bound, ready⟩
  contents := by
    rw [nothing, List.append_nil, samplesReturned, running]
    simp [State.contents, State.buffered, inFlight]
  ends r h := by
    rw [running] at h
    cases h
  takes _ _ := ⟨[], rfl, by simp [inFlight]⟩

/-- A step that ends a call. -/
theorem Moves.of_return {s : State} {e : Event} {r : Return} (hs : Ready s)
    (ends : returned s e = some r) (samples : r.samples = s.receiver.inFlight)
    (correct : (r.result = r.call.numberOfSamples ∧ r.call.Full) ∨
      (r.result = 0 ∧ r.call.Empty))
    (nothing : delivered s e = []) : Moves s e { s with receiver := .idle } where
  ready := ⟨hs.defined, hs.bound, trivial⟩
  contents := by
    rw [nothing, List.append_nil, samplesReturned, ends]
    simp [State.contents, State.buffered, Receiver.inFlight, samples]
  ends r' h := by
    obtain rfl : r = r' := Option.some.inj (ends.symm.trans h)
    exact ⟨rfl, correct⟩
  takes h := by
    rw [ends] at h
    cases h

/-- A callback appends to what is buffered, behind what a waiting call has taken, which is
nothing. -/
theorem moves_callback {s : State} (hs : Ready s) {transfer : HackrfTransfer}
    (normal : Normal s (.callback transfer)) :
    Moves s (.callback transfer) ((myCallback s transfer).getD s.fault) := by
  obtain ⟨short, room⟩ := normal
  obtain ⟨t, run, length, buffered, receiver, defined⟩ := myCallback_spec short room
  rw [run, Option.getD_some]
  refine ⟨⟨defined.trans hs.defined, by omega, receiver ▸ hs.receiver⟩, ?_, ?_, ?_⟩
  · simp [State.contents, receiver, buffered, delivered, samplesReturned, returned]
  · intro r h
    cases h
  · intro _ callback
    cases callback

/-- The outer loop goes on: something is missing, so nothing is stored. -/
theorem moves_wanting {s : State} (hs : Ready s) {call : Call}
    (receiver : s.receiver = .outer call)
    (more : call.samplesFilled < u32 (call.numberOfSamples * 2)) :
    Moves s .advance { s with receiver := .inner call } := by
  have ready := hs.receiver
  rw [receiver] at ready
  obtain ⟨inRange, stored⟩ := ready
  have bound_eq := inRange.bound_eq
  have empty : call.Empty := stored.resolve_right fun full => by
    have filled := full.samplesFilled
    omega
  exact .of_receiver hs ⟨inRange, empty⟩ (by rw [receiver]; rfl) rfl
    (by simp [returned, receiver, more])

/-- The outer loop ends: everything is stored. -/
theorem moves_finished {s : State} (hs : Ready s) {call : Call}
    (receiver : s.receiver = .outer call)
    (done : ¬ call.samplesFilled < u32 (call.numberOfSamples * 2)) :
    Moves s .advance { s with receiver := .idle } := by
  have ready := hs.receiver
  rw [receiver] at ready
  obtain ⟨inRange, stored⟩ := ready
  have bound_eq := inRange.bound_eq
  obtain ⟨positive, half⟩ := inRange
  have full : call.Full := stored.resolve_left fun empty => by
    have nothing := empty.samplesFilled
    omega
  obtain ⟨result, samples⟩ := full.return_eq ⟨positive, half⟩
  have ends : returned s .advance =
      some { call := call, result := i32 (call.samplesFilled / 2 : ℕ) } := by
    simp only [returned, receiver, if_neg done]
  refine .of_return hs ends (by rw [receiver]; exact samples) (.inl ?_) rfl
  dsimp only
  exact ⟨result, full⟩

/-- The copy takes the oldest bytes. -/
theorem moves_filled {s : State} (hs : Ready s) {call : Call}
    (receiver : s.receiver = .inner call)
    (enough : ¬ s.valid_length < u32 (call.numberOfSamples * 2)) :
    Moves s .advance ((fill s call).getD s.fault) := by
  have ready := hs.receiver
  rw [receiver] at ready
  obtain ⟨inRange, empty⟩ := ready
  have bound_eq := inRange.bound_eq
  obtain ⟨u, run, call', receiver', same, full, bound, defined, taken, split, stored, -⟩ :=
    fill_spec inRange.1 empty (by omega) hs.bound
  rw [run, Option.getD_some]
  have inFlight : s.receiver.inFlight = [] := by
    rw [receiver]
    exact empty.stored
  have inFlight' : u.receiver.inFlight = taken.map char := by
    rw [receiver']
    exact stored
  have ready' : u.receiver.Ready := by
    rw [receiver']
    exact ⟨by rwa [Call.InRange, same], .inr full⟩
  refine ⟨⟨defined.trans hs.defined, bound, ready'⟩, ?_, ?_, ?_⟩
  · rw [State.contents, State.contents, inFlight, inFlight', split]
    simp [delivered, samplesReturned, returned, receiver]
  · intro r ends
    simp [returned, receiver] at ends
  · intro _ _
    exact ⟨taken, split, by rw [inFlight, inFlight', List.nil_append]⟩

/-- A wait that times out ends the call with nothing stored. -/
theorem moves_timedOut {s : State} (hs : Ready s) {call : Call}
    (receiver : s.receiver = .waiting call) :
    Moves s .timeout { s with receiver := .idle } := by
  have ready := hs.receiver
  rw [receiver] at ready
  obtain ⟨inRange, empty⟩ := ready
  have zero : i32 call.samplesFilled = 0 := by
    rw [empty.samplesFilled, i32_natCast (by omega)]
    rfl
  have ends : returned s .timeout = some { call := call, result := i32 call.samplesFilled } := by
    simp only [returned, receiver]
  have samples : (Return.mk call (i32 call.samplesFilled)).samples = s.receiver.inFlight := by
    rw [receiver, Return.samples, zero]
    exact empty.stored.symm
  refine .of_return hs ends samples (.inr ?_) rfl
  dsimp only
  exact ⟨zero, empty⟩

/-- **The step lemma.**  Every step of normal operation keeps `Ready` and moves
samples through the FIFO in order. -/
theorem moves_step {s t : State} {e : Event} (hs : Ready s) (normal : Normal s e)
    (h : step s e = some t) : Moves s e t := by
  have ready := hs.receiver
  cases step_cases h with
  | called transfer => exact moves_callback hs normal
  | entered numberOfSamples receiver =>
      have empty : Call.Empty
          { numberOfSamples := numberOfSamples, samplesFilled := 0
            buffer := fun _ => none } := ⟨rfl, fun _ => rfl⟩
      exact .of_receiver hs ⟨normal, .inl empty⟩ (by rw [receiver]; rfl) rfl rfl
  | wanting call receiver more => exact moves_wanting hs receiver more
  | finished call receiver done => exact moves_finished hs receiver done
  | waited call receiver =>
      rw [receiver] at ready
      exact .of_receiver hs ready (by rw [receiver]; rfl) rfl (by simp [returned, receiver])
  | filled call receiver enough => exact moves_filled hs receiver enough
  | woken call receiver =>
      rw [receiver] at ready
      exact .of_receiver hs ready (by rw [receiver]; rfl) rfl rfl
  | timedOut call receiver => exact moves_timedOut hs receiver

/-! ## Every call goes on -/

/-- `P` holds now or after one of the next `k` steps of the running call, with nothing
else in between.  Nothing else can be: outside the wait the call holds the mutex, so no
callback is enabled there. -/
def Comes (P : State → Prop) : ℕ → State → Prop
  | 0, s => P s
  | k + 1, s => P s ∨ ∃ t, step s .advance = some t ∧ Comes P k t

/-- The next step of the running call is its return, with `result`. -/
def Returns (result : ℤ) (s : State) : Prop :=
  ∃ t r, step s .advance = some t ∧ returned s .advance = some r ∧ r.result = result

/-- What becomes of the running call, at each place where it can stand.  At a loop test it
goes on by itself, to its return or into the wait; from the wait it is released by `wake`
or `timeout`, and the wait ends in the loop test or in the return of 0. -/
structure Progress (s : State) (call : Call) : Prop where
  /-- With the data there, `N` is returned within two more loop tests. -/
  returns : s.receiver = .outer call ∨ s.receiver = .inner call →
    call.Full ∨ 2 * call.numberOfSamples ≤ s.valid_length →
    Comes (Returns call.numberOfSamples) 2 s
  /-- Without it, the call waits. -/
  waits : s.receiver = .outer call ∨ s.receiver = .inner call → ¬ call.Full →
    s.valid_length < 2 * call.numberOfSamples →
    Comes (fun t => t.receiver = .waiting call ∧ t.valid_length = s.valid_length) 2 s
  /-- A wait that is woken up looks at the data again. -/
  wakes : s.receiver = .waiting call → step s .wake = some { s with receiver := .inner call }
  /-- A wait that times out ends the call with 0. -/
  timesOut : s.receiver = .waiting call →
    ∃ t r, step s .timeout = some t ∧ returned s .timeout = some r ∧ r.result = 0

theorem Comes.now {P : State → Prop} {s : State} (h : P s) : ∀ k, Comes P k s
  | 0 => h
  | _ + 1 => .inl h

theorem Comes.next {P : State → Prop} {s t : State} {k : ℕ}
    (hstep : step s .advance = some t) (h : Comes P k t) : Comes P (k + 1) s :=
  .inr ⟨t, hstep, h⟩

/-- The outer loop ends with everything stored. -/
theorem returns_of_full {s : State} {call : Call} (receiver : s.receiver = .outer call)
    (inRange : call.InRange) (full : call.Full) : Returns call.numberOfSamples s := by
  have bound_eq := inRange.bound_eq
  have filled := full.samplesFilled
  have done : ¬ call.samplesFilled < u32 (call.numberOfSamples * 2) := by omega
  have finished : step s .advance = some { s with receiver := .idle } := by
    simp only [step, advance, receiver, if_neg done]
  have ends : returned s .advance =
      some { call := call, result := i32 (call.samplesFilled / 2 : ℕ) } := by
    simp only [returned, receiver, if_neg done]
  refine ⟨_, _, finished, ends, ?_⟩
  dsimp only
  exact (full.return_eq inRange).1

/-- The inner loop ends with the data there, and one pass of the outer loop stores it. -/
theorem comes_of_inner {s : State} {call : Call} (hs : Ready s)
    (receiver : s.receiver = .inner call) (enough : 2 * call.numberOfSamples ≤ s.valid_length)
    (k : ℕ) : Comes (Returns call.numberOfSamples) (k + 1) s := by
  have ready := hs.receiver
  rw [receiver] at ready
  obtain ⟨inRange, empty⟩ := ready
  have bound_eq := inRange.bound_eq
  have leaves : ¬ s.valid_length < u32 (call.numberOfSamples * 2) := by omega
  obtain ⟨t, run, call', receiver', same, full, -⟩ := fill_spec inRange.1 empty enough hs.bound
  have hstep : step s .advance = some ((fill s call).getD s.fault) := by
    simp only [step, advance, receiver, if_neg leaves]
  rw [run, Option.getD_some] at hstep
  refine .next hstep (.now ?_ k)
  rw [← same]
  exact returns_of_full receiver' (by rwa [Call.InRange, same]) full

theorem Call.Empty.not_full {call : Call} (empty : call.Empty) (inRange : call.InRange) :
    ¬ call.Full := by
  intro full
  have nothing := empty.samplesFilled
  have filled := full.samplesFilled
  have positive := inRange.1
  omega

/-- The outer loop goes on to the inner one. -/
theorem step_wanting {s : State} {call : Call} (receiver : s.receiver = .outer call)
    (inRange : call.InRange) (empty : call.Empty) :
    step s .advance = some { s with receiver := .inner call } := by
  obtain ⟨positive, half⟩ := inRange
  have nothing := empty.samplesFilled
  have bound_eq := Call.InRange.bound_eq ⟨positive, half⟩
  have more : call.samplesFilled < u32 (call.numberOfSamples * 2) := by omega
  simp only [step, advance, receiver, if_pos more]

/-- The inner loop waits for the data. -/
theorem step_waited {s : State} {call : Call} (receiver : s.receiver = .inner call)
    (inRange : call.InRange) (short : s.valid_length < 2 * call.numberOfSamples) :
    step s .advance = some { s with receiver := .waiting call } := by
  have bound_eq := inRange.bound_eq
  have waits : s.valid_length < u32 (call.numberOfSamples * 2) := by omega
  simp only [step, advance, receiver, if_pos waits]

/-- **No call is stuck**, in no state of normal operation: wherever a call stands, one of
its steps is enabled, and with the data there at most two loop tests are between it and
the return of `N`. -/
theorem Ready.progress {s : State} (hs : Ready s) (call : Call) : Progress s call := by
  have ready := hs.receiver
  refine ⟨?_, ?_, fun receiver => ?_, fun receiver => ?_⟩
  · rintro (receiver | receiver) there
    · rw [receiver] at ready
      obtain ⟨inRange, stored⟩ := ready
      rcases stored with empty | full
      · have wanting := step_wanting receiver inRange empty
        have ready' : Ready { s with receiver := .inner call } :=
          ⟨hs.defined, hs.bound, inRange, empty⟩
        have enough := there.resolve_left (empty.not_full inRange)
        exact .next wanting (comes_of_inner ready' rfl enough 0)
      · exact .now (returns_of_full receiver inRange full) 2
    · rw [receiver] at ready
      exact comes_of_inner hs receiver (there.resolve_left (ready.2.not_full ready.1)) 1
  · rintro (receiver | receiver) notFull short
    · rw [receiver] at ready
      obtain ⟨inRange, stored⟩ := ready
      have empty := stored.resolve_right notFull
      have waited : step { s with receiver := .inner call } .advance =
          some { s with receiver := .waiting call } := step_waited rfl inRange short
      exact .next (step_wanting receiver inRange empty) (.next waited (.now ⟨rfl, rfl⟩ 0))
    · rw [receiver] at ready
      exact .next (step_waited receiver ready.1 short) (.now ⟨rfl, rfl⟩ 1)
  · simp only [step, receiver]
  · rw [receiver] at ready
    refine ⟨{ s with receiver := .idle }, { call := call, result := i32 call.samplesFilled },
      ?_, ?_, ?_⟩
    · simp only [step, receiver]
    · simp only [returned, receiver]
    · dsimp only
      rw [ready.2.samplesFilled, i32_natCast (by omega)]
      rfl

/-! ## Runs -/

/-- **The stream equation**, on every run of normal operation. -/
theorem delivered_eq_of_run {thread_buffer : CArray UInt8 524288} {es : List Event} {t : State}
    (normal : hackRFStreamer.Along Normal (start thread_buffer) es)
    (run : hackRFStreamer.run (start thread_buffer) es = some t) :
    hackRFStreamer.collect delivered (start thread_buffer) es =
      hackRFStreamer.collect samplesReturned (start thread_buffer) es ++ t.contents := by
  have law := hackRFStreamer.conservation Ready
    (fun s e t hs hn h => ⟨(moves_step hs hn h).ready, (moves_step hs hn h).contents⟩)
    (ready_start thread_buffer) normal run
  simpa [State.contents, State.buffered, start, Receiver.inFlight] using law

/-- **Lossless FIFO.**  On every run of normal operation:

* no access leaves an array;
* the sign-extended delivered stream is the samples returned so far, then what a
  running call has stored, then what is buffered, which is just the buffered bytes
  whenever the mutex is free;
* what a call returns is `N`, with the next `2 * N` bytes removed and stored in
  order, or 0 with none removed (`CallCorrect`);
* and in every state a running call goes on (`Progress`): with the data there it
  returns `N` within two more loop tests, without it it waits, and a wait ends in
  another look at the data or, when it times out, in the return of 0;
* two runs to which the same stream was delivered, in whatever pieces, and that
  returned equally many samples, returned the same samples and hold the same
  contents.

Without the fourth part the third would be true of a call that copies nothing and
never returns. -/
theorem lossless_fifo (thread_buffer : CArray UInt8 524288) (es : List Event) (t : State)
    (normal : hackRFStreamer.Along Normal (start thread_buffer) es)
    (run : hackRFStreamer.run (start thread_buffer) es = some t) :
    t.undefinedBehaviour = false ∧
    hackRFStreamer.collect delivered (start thread_buffer) es =
      hackRFStreamer.collect samplesReturned (start thread_buffer) es ++ t.contents ∧
    (t.mutexFree = true → t.contents = t.buffered.map char) ∧
    hackRFStreamer.Along CallCorrect (start thread_buffer) es ∧
    hackRFStreamer.Throughout (fun s => ∀ call, Progress s call) (start thread_buffer) es ∧
    ∀ (thread_buffer' : CArray UInt8 524288) (es' : List Event) (t' : State),
      hackRFStreamer.Along Normal (start thread_buffer') es' →
      hackRFStreamer.run (start thread_buffer') es' = some t' →
      hackRFStreamer.collect delivered (start thread_buffer') es' =
        hackRFStreamer.collect delivered (start thread_buffer) es →
      (hackRFStreamer.collect samplesReturned (start thread_buffer') es').length =
        (hackRFStreamer.collect samplesReturned (start thread_buffer) es).length →
      hackRFStreamer.collect samplesReturned (start thread_buffer') es' =
          hackRFStreamer.collect samplesReturned (start thread_buffer) es ∧
        t'.contents = t.contents := by
  have throughout : hackRFStreamer.Throughout Ready (start thread_buffer) es :=
    hackRFStreamer.throughout_of_along Ready
      (fun s e t hs hn h => (moves_step hs hn h).ready) (ready_start thread_buffer) normal
  have ready : Ready t := throughout.last _ run
  refine ⟨ready.defined, delivered_eq_of_run normal run, fun free => ?_, ?_,
    throughout.mono _ fun s hs call => hs.progress call, ?_⟩
  · have receiver := ready.receiver
    rw [State.contents]
    cases running : t.receiver with
    | idle => rfl
    | waiting call =>
        rw [running] at receiver
        simp [Receiver.inFlight, receiver.2.stored]
    | outer call | inner call => simp [State.mutexFree, running] at free
  · exact hackRFStreamer.along_of_along Ready
      (fun s e t hs hn h => ⟨(moves_step hs hn h).ready, fun t' ht' =>
        ⟨(moves_step hs hn ht').ends, (moves_step hs hn ht').takes⟩⟩)
      (ready_start thread_buffer) normal
  · intro thread_buffer' es' t' normal' run' same lengths
    rw [delivered_eq_of_run normal run, delivered_eq_of_run normal' run'] at same
    exact List.append_inj same lengths

instance (s : State) (e : Event) : Decidable (Normal s e) :=
  match e with
  | .callback _ | .call _ => inferInstanceAs (Decidable (_ ∧ _))
  | .advance | .wake | .timeout => isTrue trivial

/-- A transfer of the first cells of a list. -/
def transferOf (bytes : List UInt8) : HackrfTransfer where
  buffer := fun i => bytes.getD i 0
  valid_length := bytes.length

/-- A call for two samples that finds three bytes, waits, is woken up in vain once and
then again after a second callback has delivered the fourth byte and one more. -/
def twoSamples : List Event :=
  [.callback (transferOf [1, 2, 255]), .call 2, .advance, .advance, .wake, .advance,
    .callback (transferOf [128, 7]), .wake, .advance, .advance]

/-- The call returns the first four bytes, sign extended, and the fifth stays in the FIFO. -/
theorem lossless_fifo_twoSamples :
    ∃ t, hackRFStreamer.run (start fun _ => 0) twoSamples = some t ∧
      hackRFStreamer.collect samplesReturned (start fun _ => 0) twoSamples =
        [1, 2, -1, -128] ∧
      [1, 2, -1, -128, 7] = [1, 2, -1, -128] ++ t.contents := by
  have run : (hackRFStreamer.run (start fun _ => 0) twoSamples).isSome = true := by
    decide +kernel
  obtain ⟨t, run⟩ := Option.isSome_iff_exists.mp run
  have fifo := lossless_fifo (fun _ => 0) twoSamples t (by decide +kernel) run
  have samples : hackRFStreamer.collect samplesReturned (start fun _ => 0) twoSamples =
      [1, 2, -1, -128] := by
    decide +kernel
  have stream : hackRFStreamer.collect delivered (start fun _ => 0) twoSamples =
      [1, 2, -1, -128, 7] := by
    decide +kernel
  refine ⟨t, run, samples, ?_⟩
  rw [← stream, ← samples]
  exact fifo.2.1

end HackRFStreamer

end MyServer

end SpectrogramServers
