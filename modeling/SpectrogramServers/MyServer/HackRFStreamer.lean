import Mathlib.Data.Int.Notation
import SpectrogramServers.Lib.CArray
import SpectrogramServers.Lib.Machine

/-!
# The sample buffer of `HackRFStreamer`

The radio delivers blocks of bytes in `myCallback`, on a thread of its own, and
`main` takes blocks of complex samples with `receiveSamples`.  The two share
`thread_buffer` and `valid_length` under `buffer_mutex`; `receiveSamples` gives
the mutex up only inside `buffer_cv.wait_for`.

`hackRFStreamer` is the labelled machine of the two parties.  A callback is one
step, since it holds the mutex from its first to its last access.  A call of
`receiveSamples` moves from test to test of its two nested loops (`outer`,
`inner`), and a callback may run whenever it is not inside the mutex, that is
while no call is running or the call is `waiting`.  A wait may wake up at any
time, notified or not, or time out.

`unsigned int` and `uint32_t` are natural numbers below `2 ^ 32` (`u32`), `int`
is an integer brought into its range by `i32`, and the comparisons between the
two are made as C++ makes them, after conversion to unsigned.
-/

namespace SpectrogramServers

namespace MyServer

/-- Conversion to `uint32_t`. -/
def u32 (z : ℤ) : ℕ := (z % 4294967296).toNat

/-- Conversion to `int`. -/
def i32 (z : ℤ) : ℤ := if z % 4294967296 < 2147483648 then z % 4294967296
  else z % 4294967296 - 4294967296

/-- `(char) b` where `char` is signed, widened to `int16_t`. -/
def char (b : UInt8) : ℤ := if b.toNat < 128 then b.toNat else b.toNat - 256

/-- The fields of `hackrf_transfer` that `myCallback` reads. -/
structure HackrfTransfer where
  buffer : CArray UInt8 262144
  valid_length : ℕ

/-- The bytes of a transfer. -/
def HackrfTransfer.bytes (transfer : HackrfTransfer) : List UInt8 :=
  transfer.buffer.slice 0 transfer.valid_length

namespace HackRFStreamer

/-- The parameters and local variables of a `receiveSamples` call.  `buffer`
holds the cells of the caller's array that have been written. -/
structure Call where
  numberOfSamples : ℤ
  samplesFilled : ℕ
  buffer : ℕ → Option ℤ

/-- Where `receiveSamples` stands. -/
inductive Receiver where
  /-- No call is running. -/
  | idle
  /-- At the test `samplesFilled < (numberOfSamples*2)`. -/
  | outer (call : Call)
  /-- At the test `valid_length < (numberOfSamples*2)`. -/
  | inner (call : Call)
  /-- Inside `buffer_cv.wait_for`, the mutex released. -/
  | waiting (call : Call)

/-- The shared fields, and the state of the receiving thread.
`undefinedBehaviour` records an access outside an array. -/
structure State where
  thread_buffer : CArray UInt8 524288
  valid_length : ℕ
  receiver : Receiver
  undefinedBehaviour : Bool

inductive Event where
  /-- The library calls `myCallback`. -/
  | callback (transfer : HackrfTransfer)
  /-- `main` calls `receiveSamples`. -/
  | call (numberOfSamples : ℤ)
  /-- `receiveSamples` runs on to its next loop test, holding the mutex. -/
  | advance
  /-- `wait_for` returns `no_timeout`, notified or not. -/
  | wake
  /-- `wait_for` returns `timeout`. -/
  | timeout

/-- `buffer_mutex` is free. -/
def State.mutexFree (s : State) : Bool :=
  match s.receiver with
  | .idle | .waiting _ => true
  | .outer _ | .inner _ => false

/-- The outcome of an access outside an array. -/
def State.fault (s : State) : State := { s with undefinedBehaviour := true }

/-- `myCallback`, from taking to releasing the mutex. -/
def myCallback (s : State) (transfer : HackrfTransfer) : Option State := do
  let (thread_buffer, valid_length) ←
    if s.valid_length ≥ 262144 then do
      let thread_buffer ←
        s.thread_buffer.move? 0 s.thread_buffer transfer.valid_length 262144
      some (thread_buffer, 262144)
    else some (s.thread_buffer, s.valid_length)
  let thread_buffer ←
    thread_buffer.move? valid_length transfer.buffer 0 transfer.valid_length
  some { s with
    thread_buffer := thread_buffer
    valid_length := u32 (valid_length + transfer.valid_length) }

/-- The body of the loop that copies bytes into the caller's array. -/
def copySample (thread_buffer : CArray UInt8 524288) (samplesFilled k : ℕ)
    (buffer : ℕ → Option ℤ) : Option (ℕ → Option ℤ) :=
  (thread_buffer.get? (2 * k)).bind fun inPhase =>
    (thread_buffer.get? (2 * k + 1)).bind fun quadrature =>
      some (Function.update
        (Function.update buffer (samplesFilled + 2 * k) (some (char inPhase)))
        (samplesFilled + 2 * k + 1) (some (char quadrature)))

/-- The body of the outer loop after the inner loop: copy what is there, up to
what is missing, and shift the rest to the front. -/
def fill (s : State) (call : Call) : Option State := do
  let samplesLeft := i32 (u32 (call.numberOfSamples * 2 - call.samplesFilled))
  let read_length := i32 (if s.valid_length > u32 samplesLeft then u32 samplesLeft
    else s.valid_length)
  -- `i` and `j` advance by two, so the body runs ⌈read_length / 2⌉ times
  let buffer ← forUp (copySample s.thread_buffer call.samplesFilled) 0
    ((read_length + 1) / 2).toNat call.buffer
  let valid_length := u32 (s.valid_length - read_length)
  let thread_buffer ←
    s.thread_buffer.move? 0 s.thread_buffer (u32 read_length) valid_length
  some { s with
    thread_buffer := thread_buffer, valid_length := valid_length
    receiver := .outer { call with
      samplesFilled := u32 (call.samplesFilled + read_length), buffer := buffer } }

/-- `receiveSamples` from one loop test to the next. -/
def advance (s : State) : Option State :=
  match s.receiver with
  | .outer call =>
      if call.samplesFilled < u32 (call.numberOfSamples * 2) then
        some { s with receiver := .inner call }
      else some { s with receiver := .idle }
  | .inner call =>
      if s.valid_length < u32 (call.numberOfSamples * 2) then
        some { s with receiver := .waiting call }
      else some ((fill s call).getD s.fault)
  | .idle | .waiting _ => none

/-- One step of the two parties; `none` where it is not enabled. -/
def step (s : State) : Event → Option State
  | .callback transfer =>
      if s.mutexFree then some ((myCallback s transfer).getD s.fault) else none
  | .call numberOfSamples =>
      match s.receiver with
      | .idle => some { s with
          receiver := .outer
            { numberOfSamples := numberOfSamples, samplesFilled := 0
              buffer := fun _ => none } }
      | .outer _ | .inner _ | .waiting _ => none
  | .advance => advance s
  | .wake =>
      match s.receiver with
      | .waiting call => some { s with receiver := .inner call }
      | .idle | .outer _ | .inner _ => none
  | .timeout =>
      match s.receiver with
      | .waiting _ => some { s with receiver := .idle }
      | .idle | .outer _ | .inner _ => none

/-- What a call returns, with the call as it ended. -/
structure Return where
  call : Call
  result : ℤ

/-- The value returned by the step, if it ends a call. -/
def returned (s : State) : Event → Option Return
  | .advance =>
      match s.receiver with
      | .outer call =>
          if call.samplesFilled < u32 (call.numberOfSamples * 2) then none
          else some { call := call, result := i32 (call.samplesFilled / 2 : ℕ) }
      | .idle | .inner _ | .waiting _ => none
  | .timeout =>
      match s.receiver with
      | .waiting call => some { call := call, result := i32 call.samplesFilled }
      | .idle | .outer _ | .inner _ => none
  | .callback _ | .call _ | .wake => none

/-- Before the first callback: `valid_length` is 0 and `thread_buffer` holds
anything. -/
def start (thread_buffer : CArray UInt8 524288) : State :=
  { thread_buffer := thread_buffer, valid_length := 0, receiver := .idle
    undefinedBehaviour := false }

/-! ## What a step can do -/

inductive StepOutcome (s : State) : Event → State → Prop
  | called (transfer : HackrfTransfer) (free : s.mutexFree = true) :
      StepOutcome s (.callback transfer) ((myCallback s transfer).getD s.fault)
  | entered (numberOfSamples : ℤ) (receiver : s.receiver = .idle) :
      StepOutcome s (.call numberOfSamples)
        { s with
          receiver := .outer
            { numberOfSamples := numberOfSamples, samplesFilled := 0
              buffer := fun _ => none } }
  | wanting (call : Call) (receiver : s.receiver = .outer call)
      (more : call.samplesFilled < u32 (call.numberOfSamples * 2)) :
      StepOutcome s .advance { s with receiver := .inner call }
  | finished (call : Call) (receiver : s.receiver = .outer call)
      (done : ¬ call.samplesFilled < u32 (call.numberOfSamples * 2)) :
      StepOutcome s .advance { s with receiver := .idle }
  | waited (call : Call) (receiver : s.receiver = .inner call)
      (short : s.valid_length < u32 (call.numberOfSamples * 2)) :
      StepOutcome s .advance { s with receiver := .waiting call }
  | filled (call : Call) (receiver : s.receiver = .inner call)
      (enough : ¬ s.valid_length < u32 (call.numberOfSamples * 2)) :
      StepOutcome s .advance ((fill s call).getD s.fault)
  | woken (call : Call) (receiver : s.receiver = .waiting call) :
      StepOutcome s .wake { s with receiver := .inner call }
  | timedOut (call : Call) (receiver : s.receiver = .waiting call) :
      StepOutcome s .timeout { s with receiver := .idle }

theorem advance_cases {s t : State} (h : advance s = some t) : StepOutcome s .advance t := by
  unfold advance at h
  cases receiver : s.receiver with
  | idle | waiting call =>
      rw [receiver] at h
      cases h
  | outer call =>
      rw [receiver] at h
      dsimp only at h
      by_cases more : call.samplesFilled < u32 (call.numberOfSamples * 2)
      · rw [if_pos more] at h
        obtain rfl := Option.some.inj h
        exact .wanting call receiver more
      · rw [if_neg more] at h
        obtain rfl := Option.some.inj h
        exact .finished call receiver more
  | inner call =>
      rw [receiver] at h
      dsimp only at h
      by_cases short : s.valid_length < u32 (call.numberOfSamples * 2)
      · rw [if_pos short] at h
        obtain rfl := Option.some.inj h
        exact .waited call receiver short
      · rw [if_neg short] at h
        obtain rfl := Option.some.inj h
        exact .filled call receiver short

/-- **Inversion of a step.** -/
theorem step_cases {s t : State} {e : Event} (h : step s e = some t) : StepOutcome s e t := by
  cases e with
  | callback transfer =>
      obtain ⟨free, rfl⟩ := guarded_eq_some h
      exact .called transfer free
  | advance => exact advance_cases h
  | call numberOfSamples =>
      unfold step at h
      cases receiver : s.receiver with
      | outer call | inner call | waiting call =>
          rw [receiver] at h
          cases h
      | idle =>
          rw [receiver] at h
          obtain rfl := Option.some.inj h
          exact .entered numberOfSamples receiver
  | wake | timeout =>
      unfold step at h
      cases receiver : s.receiver with
      | idle | outer call | inner call =>
          rw [receiver] at h
          cases h
      | waiting call =>
          rw [receiver] at h
          obtain rfl := Option.some.inj h
          first
            | exact .woken call receiver
            | exact .timedOut call receiver

end HackRFStreamer

/-- The radio library and the thread that calls `receiveSamples`. -/
def hackRFStreamer : Machine HackRFStreamer.State HackRFStreamer.Event where
  init s := ∃ thread_buffer, s = HackRFStreamer.start thread_buffer
  step := HackRFStreamer.step

end MyServer

end SpectrogramServers
