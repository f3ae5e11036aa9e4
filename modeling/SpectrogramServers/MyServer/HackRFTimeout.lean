import SpectrogramServers.MyServer.HackRFFifo

/-!
# When `receiveSamples` gives up

A call that times out returns at once, without another look at `valid_length`.
But a wait that has timed out takes the mutex back before it returns, and a
callback may have brought what was missing in the meantime.

## Where the data can come too late

The inner loop tests `valid_length` and waits, and while it waits the mutex is free.
What can happen from that test to the return of the wait is therefore a list of
callbacks and nothing else (`waiting_since`), and they decide everything.

* **If the wait is woken**, the loop tests again and misses nothing.
* **If it times out**, the call returns 0.  This is right as long as those callbacks
  leave fewer than `2 * N` bytes, and wrong as soon as they complete the data
  (`NoLateData`).

All other returns are right by themselves.  In every state of a call nothing has been
stored yet or everything has (`Receiver.Unfilled`), so a call that does not time out
ends with the number it was asked for.  Together they give the exact condition,
`givesUpRightly_iff`.
-/

namespace SpectrogramServers.MyServer.HackRFStreamer

/-! ## The property and the condition -/

/-- A call asks for a number of samples whose double is an `int`. -/
def Asks (_ : State) : Event → Prop
  | .call numberOfSamples => 0 ≤ numberOfSamples ∧ 2 * numberOfSamples < 2147483648
  | .callback _ | .advance | .wake | .timeout => True

/-- A step that ends a call with another number than `N` finds fewer than `2 * N` bytes. -/
def GivesUpRightly (s : State) (e : Event) : Prop :=
  ∀ r ∈ returned s e, r.result ≠ r.call.numberOfSamples →
    (s.valid_length : ℤ) < 2 * r.call.numberOfSamples

/-- The test of the inner loop. -/
def Receiver.short (valid_length : ℕ) : Receiver → Bool
  | .waiting call => valid_length < u32 (call.numberOfSamples * 2)
  | .idle | .outer _ | .inner _ => true

/-- The callbacks of the transfers, one after the other. -/
def State.callbacks (s : State) (transfers : List HackrfTransfer) : State :=
  transfers.foldl (fun s transfer => (myCallback s transfer).getD s.fault) s

/-- No data comes too late: whenever the test of the inner loop makes a call wait and the
wait times out, the callbacks that ran in between leave fewer than `2 * N` bytes. -/
def NoLateData (thread_buffer : CArray UInt8 524288) (es : List Event) : Prop :=
  ∀ before transfers after s call,
    es = before ++ .advance :: transfers.map .callback ++ .timeout :: after →
    hackRFStreamer.run (start thread_buffer) (before ++ [.advance]) = some s →
    s.receiver = .waiting call →
    ((s.callbacks transfers).valid_length : ℤ) < 2 * call.numberOfSamples

/-- A wait that times out finds what the inner loop found: too little. -/
def StillShort (s : State) : Event → Prop
  | .timeout => s.receiver.short s.valid_length = true
  | .callback _ | .call _ | .advance | .wake => True

instance (s : State) (e : Event) : Decidable (Asks s e) :=
  match e with
  | .call _ => inferInstanceAs (Decidable (_ ∧ _))
  | .callback _ | .advance | .wake | .timeout => isTrue trivial

instance (s : State) (e : Event) : Decidable (GivesUpRightly s e) :=
  inferInstanceAs (Decidable (∀ r ∈ returned s e, _))

/-! ## Calls that have stored nothing or everything -/

/-- What is known about a call at each of its loop tests. -/
def Receiver.Unfilled : Receiver → Prop
  | .idle => True
  | .outer call => (0 ≤ call.numberOfSamples ∧ 2 * call.numberOfSamples < 2147483648) ∧
      (call.samplesFilled = 0 ∨ (call.samplesFilled : ℤ) = 2 * call.numberOfSamples)
  | .inner call | .waiting call =>
      (0 < call.numberOfSamples ∧ 2 * call.numberOfSamples < 2147483648) ∧ call.samplesFilled = 0

theorem u32_double {numberOfSamples : ℤ} (nonneg : 0 ≤ numberOfSamples)
    (small : 2 * numberOfSamples < 2147483648) :
    (u32 (numberOfSamples * 2) : ℤ) = 2 * numberOfSamples := by
  unfold u32
  omega

/-- When enough is buffered, one pass of the outer loop stores everything. -/
theorem fill_samplesFilled {s t : State} {call : Call} (nothing : call.samplesFilled = 0)
    (positive : 0 < call.numberOfSamples) (small : 2 * call.numberOfSamples < 2147483648)
    (enough : ¬ s.valid_length < u32 (call.numberOfSamples * 2)) (h : fill s call = some t) :
    ∃ call', t.receiver = .outer call' ∧ call'.numberOfSamples = call.numberOfSamples ∧
      (call'.samplesFilled : ℤ) = 2 * call.numberOfSamples := by
  have double := u32_double positive.le small
  have read := read_length_eq (s := s) nothing positive small (by omega)
  have filled : u32 (call.samplesFilled + 2 * call.numberOfSamples) =
      (2 * call.numberOfSamples).toNat := by
    unfold u32
    omega
  rw [fill_eq, read, filled] at h
  obtain ⟨buffer, -, h⟩ := Option.bind_eq_some_iff.mp h
  obtain ⟨thread_buffer, -, h⟩ := Option.bind_eq_some_iff.mp h
  obtain rfl := Option.some.inj h
  exact ⟨_, rfl, rfl, Int.toNat_of_nonneg (by omega)⟩

theorem myCallback_receiver {s t : State} {transfer : HackrfTransfer}
    (h : myCallback s transfer = some t) : t.receiver = s.receiver := by
  unfold myCallback at h
  simp only [Option.bind_eq_bind, Option.bind_some] at h
  split at h
  · obtain ⟨shifted, -, h⟩ := Option.bind_eq_some_iff.mp h
    obtain ⟨thread_buffer, -, h⟩ := Option.bind_eq_some_iff.mp h
    rw [← Option.some.inj h]
  · obtain ⟨thread_buffer, -, h⟩ := Option.bind_eq_some_iff.mp h
    rw [← Option.some.inj h]

/-- **The step lemma.** -/
theorem unfilled_step {s t : State} {e : Event} (h : s.receiver.Unfilled) (asks : Asks s e)
    (taken : step s e = some t) : t.receiver.Unfilled := by
  cases step_cases taken with
  | called transfer =>
      cases ran : myCallback s transfer with
      | none => exact h
      | some t =>
          rw [Option.getD_some, myCallback_receiver ran]
          exact h
  | entered numberOfSamples => exact ⟨asks, Or.inl rfl⟩
  | wanting call receiver more =>
      rw [receiver] at h
      obtain ⟨⟨nonneg, small⟩, filled⟩ := h
      have double := u32_double nonneg small
      -- something is missing, so it is everything
      exact ⟨⟨by omega, small⟩, by omega⟩
  | waited call receiver =>
      rw [receiver] at h
      exact h
  | filled call receiver enough =>
      cases ran : fill s call with
      | none => exact h
      | some t =>
          rw [receiver] at h
          obtain ⟨⟨positive, small⟩, nothing⟩ := h
          obtain ⟨call', outer, same, filled⟩ :=
            fill_samplesFilled nothing positive small enough ran
          rw [Option.getD_some, outer]
          exact ⟨⟨by omega, by omega⟩, Or.inr (by omega)⟩
  | woken call receiver =>
      rw [receiver] at h
      exact h
  | finished | timedOut => trivial

/-! ## How a call ends -/

/-- A call that leaves the outer loop returns what it was asked for. -/
theorem result_of_outer {call : Call} (h : (Receiver.outer call).Unfilled)
    (done : ¬ call.samplesFilled < u32 (call.numberOfSamples * 2)) :
    i32 (call.samplesFilled / 2 : ℕ) = call.numberOfSamples := by
  obtain ⟨⟨nonneg, small⟩, filled⟩ := h
  have double := u32_double nonneg small
  rw [i32_natCast (by omega)]
  omega

/-- **The end of a call**: it gives up rightly unless a wait times out on enough data. -/
theorem givesUpRightly_step_iff {s : State} (h : s.receiver.Unfilled) (e : Event) :
    GivesUpRightly s e ↔ StillShort s e := by
  cases e with
  | callback transfer | call numberOfSamples | wake =>
      exact iff_of_true (fun _ mem => by cases mem) trivial
  | advance =>
      refine iff_of_true (fun r ends other => ?_) trivial
      cases receiver : s.receiver with
      | idle | inner call | waiting call => simp [returned, receiver] at ends
      | outer call =>
          simp only [returned, receiver, Option.mem_def] at ends
          split at ends
          · cases ends
          · next done =>
              obtain rfl := Option.some.inj ends
              rw [receiver] at h
              dsimp only at other
              exact absurd (result_of_outer h done) other
  | timeout =>
      rw [StillShort]
      cases receiver : s.receiver with
      | idle | outer call | inner call =>
          refine iff_of_true (fun r ends => ?_) rfl
          simp [returned, receiver] at ends
      | waiting call =>
          rw [receiver] at h
          obtain ⟨⟨positive, small⟩, nothing⟩ := h
          have double := u32_double positive.le small
          have zero : i32 call.samplesFilled = 0 := by
            rw [nothing]
            rfl
          have ends : returned s .timeout = some ⟨call, i32 call.samplesFilled⟩ := by
            simp only [returned, receiver]
          rw [GivesUpRightly, ends, Receiver.short, decide_eq_true_eq]
          constructor
          · intro rightly
            have few := rightly _ rfl (by dsimp only; omega)
            dsimp only at few
            omega
          · rintro short r mem -
            obtain rfl := Option.some.inj mem
            dsimp only
            omega

/-! ## Since the last test -/

theorem fill_receiver {s t : State} {call : Call} (h : fill s call = some t) :
    ∃ call', t.receiver = .outer call' := by
  rw [fill_eq] at h
  obtain ⟨buffer, -, h⟩ := Option.bind_eq_some_iff.mp h
  obtain ⟨thread_buffer, -, h⟩ := Option.bind_eq_some_iff.mp h
  obtain rfl := Option.some.inj h
  exact ⟨_, rfl⟩

theorem called_receiver (s : State) (transfer : HackrfTransfer) :
    ((myCallback s transfer).getD s.fault).receiver = s.receiver := by
  cases ran : myCallback s transfer with
  | none => rfl
  | some t => exact myCallback_receiver ran

theorem callbacks_receiver (s : State) (transfers : List HackrfTransfer) :
    (s.callbacks transfers).receiver = s.receiver := by
  induction transfers generalizing s with
  | nil => rfl
  | cons transfer transfers ih => exact (ih _).trans (called_receiver s transfer)

/-- While a call waits, callbacks run freely. -/
theorem run_callbacks {s : State} {call : Call} (waiting : s.receiver = .waiting call)
    (transfers : List HackrfTransfer) :
    hackRFStreamer.run s (transfers.map .callback) = some (s.callbacks transfers) := by
  induction transfers generalizing s with
  | nil => rfl
  | cons transfer transfers ih =>
      have free : s.mutexFree = true := by rw [State.mutexFree, waiting]
      have taken : hackRFStreamer.step s (.callback transfer) =
          some ((myCallback s transfer).getD s.fault) := if_pos free
      rw [List.map_cons, Machine.run_cons, taken, Option.bind_some]
      exact ih ((called_receiver s transfer).trans waiting)

/-- **What has happened since the test that made a call wait**: callbacks. -/
theorem waiting_since {thread_buffer : CArray UInt8 524288} {es : List Event} {t : State}
    {call : Call} (run : hackRFStreamer.run (start thread_buffer) es = some t)
    (waiting : t.receiver = .waiting call) :
    ∃ before transfers s, es = before ++ .advance :: transfers.map .callback ∧
      hackRFStreamer.run (start thread_buffer) (before ++ [.advance]) = some s ∧
      s.receiver = .waiting call ∧ t = s.callbacks transfers := by
  induction es using List.reverseRecOn generalizing t with
  | nil =>
      obtain rfl := Option.some.inj run
      cases waiting
  | append_singleton es e ih =>
      obtain ⟨u, earlier, rest⟩ := Option.bind_eq_some_iff.mp
        ((hackRFStreamer.run_append _ _ _).symm.trans run)
      obtain ⟨t', taken, same⟩ := Option.bind_eq_some_iff.mp rest
      obtain rfl := Option.some.inj same
      cases step_cases taken with
      | called transfer =>
          obtain ⟨before, transfers, s, rfl, test, waits, rfl⟩ :=
            ih earlier ((called_receiver u transfer).symm.trans waiting)
          refine ⟨before, transfers ++ [transfer], s, ?_, test, waits, ?_⟩
          · rw [List.map_append, List.append_assoc]
            rfl
          · show _ = List.foldl _ s (transfers ++ [transfer])
            rw [List.foldl_concat]
            rfl
      | waited call' receiver short => exact ⟨es, [], _, rfl, run, waiting, rfl⟩
      | filled call' receiver enough =>
          cases ran : fill u call' with
          | none =>
              rw [ran] at waiting
              exact absurd (receiver.symm.trans waiting) nofun
          | some v =>
              obtain ⟨call'', outer⟩ := fill_receiver ran
              rw [ran] at waiting
              exact absurd (outer.symm.trans waiting) nofun
      | entered _ _ | wanting _ _ _ | finished _ _ _ | woken _ _ | timedOut _ _ => cases waiting

/-- What the test of the inner loop compares with whenever a call waits. -/
theorem u32_double_of_waiting {thread_buffer : CArray UInt8 524288} {before after : List Event}
    {t : State} {call : Call}
    (asks : hackRFStreamer.Along Asks (start thread_buffer) (before ++ after))
    (run : hackRFStreamer.run (start thread_buffer) before = some t)
    (waiting : t.receiver = .waiting call) :
    (u32 (call.numberOfSamples * 2) : ℤ) = 2 * call.numberOfSamples := by
  have throughout := hackRFStreamer.throughout_of_along (fun s => s.receiver.Unfilled)
    (fun _ _ _ h asks taken => unfilled_step h asks taken)
    (show (start thread_buffer).receiver.Unfilled from trivial)
    (hackRFStreamer.along_append.mp asks).1
  have unfilled : t.receiver.Unfilled := throughout.last _ run
  rw [waiting] at unfilled
  exact u32_double unfilled.1.1.le unfilled.1.2

/-- Every wait that times out finds too little exactly if no data comes too late. -/
theorem stillShort_iff_noLateData (thread_buffer : CArray UInt8 524288) (es : List Event)
    (asks : hackRFStreamer.Along Asks (start thread_buffer) es) :
    hackRFStreamer.Along StillShort (start thread_buffer) es ↔ NoLateData thread_buffer es := by
  rw [hackRFStreamer.along_iff_of_split]
  constructor
  · rintro short before transfers after s call rfl test waits
    have waits' := (callbacks_receiver s transfers).trans waits
    have run : hackRFStreamer.run (start thread_buffer)
        (before ++ .advance :: transfers.map .callback) = some (s.callbacks transfers) := by
      rw [List.append_cons, Machine.run_append, test]
      exact run_callbacks waits transfers
    have taken : hackRFStreamer.step (s.callbacks transfers) .timeout =
        some { s.callbacks transfers with receiver := .idle } := by
      dsimp only [hackRFStreamer, step]
      rw [waits']
    have found := short _ _ after _ _ rfl run taken
    rw [StillShort, waits', Receiver.short, decide_eq_true_eq] at found
    have double := u32_double_of_waiting asks run waits'
    omega
  · rintro noLateData before e after t u rfl run taken
    cases step_cases taken with
    | timedOut call receiver =>
        obtain ⟨earlier, transfers, s, rfl, test, waits, rfl⟩ := waiting_since run receiver
        have found := noLateData earlier transfers after s call rfl test waits
        have double := u32_double_of_waiting asks run receiver
        rw [StillShort, receiver, Receiver.short, decide_eq_true_eq]
        omega
    | called _ _ | entered _ _ | wanting _ _ _ | finished _ _ _ | waited _ _ _ | filled _ _ _
    | woken _ _ => trivial

/-! ## Every run -/

/-- **Giving up.**  In every interleaving every call that returns another number than the
`N` it was asked for does so with fewer than `2 * N` bytes buffered, exactly if no data comes
too late: no callbacks complete the data between the test that made a call wait and the
return of a wait that has timed out. -/
theorem givesUpRightly_iff (thread_buffer : CArray UInt8 524288) (es : List Event)
    (asks : hackRFStreamer.Along Asks (start thread_buffer) es) :
    hackRFStreamer.Along GivesUpRightly (start thread_buffer) es ↔
      NoLateData thread_buffer es := by
  rw [← stillShort_iff_noLateData thread_buffer es asks]
  exact hackRFStreamer.along_congr_of_along (fun s => s.receiver.Unfilled)
    (fun _ _ _ h asks taken => unfilled_step h asks taken)
    (fun _ e _ h _ _ => givesUpRightly_step_iff h e) trivial asks

/-- A call for one sample that waits in vain. -/
def inVain : List Event :=
  [.call 1, .advance, .advance, .callback (transferOf [7]), .wake, .advance, .timeout]

/-- It gives up rightly, and no data comes too late. -/
theorem givesUpRightly_iff_inVain : NoLateData (fun _ => 0) inVain := by
  have asks : hackRFStreamer.Along Asks (start fun _ => 0) inVain := by decide +kernel
  have rightly : hackRFStreamer.Along GivesUpRightly (start fun _ => 0) inVain := by
    decide +kernel
  exact (givesUpRightly_iff _ inVain asks).mp rightly

/-- A call for one sample, with the callback that brings its two bytes between the expiry of
the wait and its return. -/
def lateCallback : List Event :=
  [.call 1, .advance, .advance, .callback (transferOf [7, 8]), .timeout]

/-- The call returns 0 with both bytes buffered. -/
theorem not_givesUpRightly_lateCallback :
    hackRFStreamer.Along Asks (start fun _ => 0) lateCallback ∧
      (hackRFStreamer.run (start fun _ => 0) lateCallback).isSome = true ∧
      ¬ hackRFStreamer.Along GivesUpRightly (start fun _ => 0) lateCallback :=
  ⟨by decide +kernel, by decide +kernel, by decide +kernel⟩

end SpectrogramServers.MyServer.HackRFStreamer
