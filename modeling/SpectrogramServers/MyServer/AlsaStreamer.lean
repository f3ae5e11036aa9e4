import Mathlib.Data.Int.Notation
import SpectrogramServers.Lib.Lists
import SpectrogramServers.Lib.Machine

/-!
# `AlsaStreamer::writeSamples`

`writeSamples` hands a period of samples to a device that may take any part of it, and
goes on with the rest until nothing is left.  An error of the device goes to
`xrun_recovery`, which asks the device to recover from an under-run or a suspend, in a
loop of its own, and says whether to go on.

## A call against its device

Whatever the device is asked (`snd_pcm_writei`, `snd_pcm_prepare` or `snd_pcm_resume`),
its response is an `int`.  So a call is a labelled machine whose labels are integers, and
a run is a sequence of responses.  The device does not take more than it is offered; a
response that says it did is not enabled.  Any other sequence is, and a call may be given
responses for ever.

The place of a call says what it waits for: the next write, or an answer inside
`xrun_recovery`, with what was asked (`Asking`).  `snd_pcm_resume` is asked again as long
as the device says `-EAGAIN`, and `snd_pcm_prepare` when it cannot resume.

## Exactly once

`accepted` and `recoveries` are history: the samples the device has taken, and every
return of `xrun_recovery`.  What keeps the samples in order is `Delivered`: the pointer,
the counter and the history change together, on one of four branches, and on the others
not at all.  So a sample is neither left out nor given twice, whatever goes wrong in
between, and `delivered_of_returned` reads the result of the call off it.
-/

namespace SpectrogramServers.MyServer.AlsaStreamer

universe u

variable {α : Type u}

/-! ## The model -/

def EAGAIN : ℤ := 11
def EPIPE : ℤ := 32
def ESTRPIPE : ℤ := 86
def alsa_channels : ℕ := 1

/-- What `xrun_recovery` asks the device for. -/
inductive Asking where
  /-- `snd_pcm_prepare`. -/
  | prepare
  /-- `snd_pcm_resume`. -/
  | resume
  deriving DecidableEq, Repr

/-- The end of `xrun_recovery`: its local `err` and the value it returns. -/
structure Return where
  err : ℤ
  result : ℤ
  deriving DecidableEq, Repr

/-- How `xrun_recovery` goes on. -/
inductive Recovery where
  | asks (asking : Asking)
  | done (ended : Return)
  deriving DecidableEq, Repr

/-- `xrun_recovery(handle, err)`, up to its first call of the device. -/
def xrun_recovery (err : ℤ) : Recovery :=
  if err = -EPIPE then .asks .prepare
  else if err = -ESTRPIPE then .asks .resume
  else .done ⟨err, err⟩

/-- `xrun_recovery` from one call of the device to the next.  That
`snd_pcm_prepare` failed is printed. -/
def Asking.answer : Asking → ℤ → Recovery
  | .prepare, err => .done ⟨err, 0⟩
  | .resume, err =>
      if err = -EAGAIN then .asks .resume
      else if err < 0 then .asks .prepare
      else .done ⟨err, 0⟩

/-- Where `writeSamples` stands. -/
inductive Place where
  /-- Before `snd_pcm_writei`. -/
  | writing
  /-- Inside `xrun_recovery`. -/
  | recovering (asking : Asking)
  /-- It has returned `err`. -/
  | returned
  deriving DecidableEq, Repr

/-- The variables of a call.  `position` is how far `samples` has been moved. -/
structure Call (α : Type u) where
  position : ℕ
  cptr : ℤ
  err : ℤ
  place : Place
  accepted : List α
  recoveries : List Return

/-- The test `cptr > 0`. -/
def Call.loop (c : Call α) : Call α :=
  { c with place := if 0 < c.cptr then .writing else .returned }

/-- The beginning of a call. -/
def start (samples_per_period : ℤ) : Call α :=
  Call.loop
    { position := 0, cptr := samples_per_period, err := 0, place := .writing
      accepted := [], recoveries := [] }

/-- `writeSamples` with `xrun_recovery` at the given place. -/
def Call.recover (c : Call α) : Recovery → Call α
  | .asks asking => { c with place := .recovering asking }
  | .done ended =>
      let c := { c with recoveries := c.recoveries ++ [ended] }
      if ended.result < 0 then { c with place := .returned } else c.loop

/-- The samples at the pointer. -/
def chunk (samples : ℕ → α) (position frames : ℕ) : List α :=
  firsts (fun k => samples (position + k)) (frames * alsa_channels)

/-- The body of the loop, from the response to `snd_pcm_writei` on. -/
def Call.written (samples : ℕ → α) (c : Call α) (err : ℤ) : Call α :=
  let c := { c with err := err }
  if err = -EAGAIN then c.loop
  else if err < 0 then c.recover (xrun_recovery err)
  else
    Call.loop { c with
      position := c.position + err.toNat * alsa_channels
      cptr := c.cptr - err
      accepted := c.accepted ++ chunk samples c.position err.toNat }

/-- What a call does with the next response of the device. -/
def step (samples : ℕ → α) (c : Call α) (response : ℤ) : Option (Call α) :=
  match c.place with
  | .writing => if response ≤ c.cptr then some (c.written samples response) else none
  | .recovering asking => some (c.recover (asking.answer response))
  | .returned => none

end AlsaStreamer

/-- The calls of `writeSamples` on an array. -/
def alsaStreamer {α : Type*} (samples : ℕ → α) : Machine (AlsaStreamer.Call α) ℤ where
  init c := ∃ samples_per_period, c = AlsaStreamer.start samples_per_period
  step := AlsaStreamer.step samples

namespace AlsaStreamer

universe u

variable {α : Type u} {samples : ℕ → α}

/-! ## What a response does -/

/-- **The steps of a call**: the device takes some samples, or nothing moves. -/
theorem step_cases {c d : Call α} {response : ℤ} (h : step samples c response = some d) :
    (c.place = .writing ∧ 0 ≤ response ∧ response ≤ c.cptr ∧ d = Call.loop { c with
      err := response
      position := c.position + response.toNat * alsa_channels
      cptr := c.cptr - response
      accepted := c.accepted ++ chunk samples c.position response.toNat }) ∨
    (c.place = .writing ∧ response = -EAGAIN ∧ d = Call.loop { c with err := response }) ∨
    (c.place = .writing ∧ response < 0 ∧ response ≠ -EAGAIN ∧
      d = Call.recover { c with err := response } (xrun_recovery response)) ∨
    ∃ asking, c.place = .recovering asking ∧ d = c.recover (asking.answer response) := by
  unfold step at h
  cases place : c.place with
  | returned =>
      rw [place] at h
      cases h
  | recovering asking =>
      rw [place] at h
      exact Or.inr (Or.inr (Or.inr ⟨asking, rfl, (Option.some.inj h).symm⟩))
  | writing =>
      rw [place] at h
      obtain ⟨offered, rfl⟩ := guarded_eq_some h
      unfold Call.written
      dsimp only
      by_cases again : response = -EAGAIN
      · rw [if_pos again]
        exact Or.inr (Or.inl ⟨rfl, again, rfl⟩)
      · rw [if_neg again]
        by_cases failed : response < 0
        · rw [if_pos failed]
          exact Or.inr (Or.inr (Or.inl ⟨rfl, failed, again, rfl⟩))
        · rw [if_neg failed]
          exact Or.inl ⟨rfl, Int.not_lt.mp failed, offered, rfl⟩

/-! ## What has been delivered -/

/-- **The invariant of a call.**  What the device has taken is what the pointer
has passed, and the counter is what is left.  A call that has not returned has
something left; one that has returned has nothing left or returns an error. -/
structure Delivered (samples : ℕ → α) (samples_per_period : ℤ) (c : Call α) : Prop where
  accepted : c.accepted = firsts samples c.position
  left : c.position + c.cptr.toNat = samples_per_period.toNat
  running : c.place ≠ .returned → 0 < c.cptr
  returned : c.place = .returned → (c.cptr ≤ 0 ∧ 0 ≤ c.err) ∨ (0 < c.cptr ∧ c.err < 0)
  failed : ∀ asking, c.place = .recovering asking → c.err < 0

/-- A call that waits for a response has something left. -/
theorem Delivered.more {samples_per_period : ℤ} {c : Call α}
    (h : Delivered samples samples_per_period c) {place : Place} (stands : c.place = place)
    (waits : place ≠ .returned) : 0 < c.cptr := by
  apply h.running
  rw [stands]
  exact waits

/-- The loop test, where no error is pending or something is left. -/
theorem Delivered.loop {samples_per_period : ℤ} {c : Call α}
    (accepted : c.accepted = firsts samples c.position)
    (left : c.position + c.cptr.toNat = samples_per_period.toNat)
    (ends : 0 < c.cptr ∨ 0 ≤ c.err) : Delivered samples samples_per_period c.loop := by
  refine ⟨accepted, left, ?_, ?_, ?_⟩
  · intro place
    by_contra nothing
    exact place (if_neg nothing)
  · intro place
    by_cases more : 0 < c.cptr
    · cases (if_pos more).symm.trans place
    · exact Or.inl ⟨Int.not_lt.mp more, ends.resolve_left more⟩
  · intro asking place
    change (if 0 < c.cptr then Place.writing else .returned) = .recovering asking at place
    split at place
    all_goals cases place

/-- A recovery, where the call failed to write and something is left. -/
theorem Delivered.recover {samples_per_period : ℤ} {c : Call α}
    (accepted : c.accepted = firsts samples c.position)
    (left : c.position + c.cptr.toNat = samples_per_period.toNat) (more : 0 < c.cptr)
    (failed : c.err < 0) (recovery : Recovery) :
    Delivered samples samples_per_period (c.recover recovery) := by
  cases recovery with
  | asks asking =>
      refine ⟨accepted, left, fun _ => more, ?_, fun _ _ => failed⟩
      intro place
      cases place
  | done ended =>
      unfold Call.recover
      dsimp only
      split
      · refine ⟨accepted, left, fun running => absurd rfl running,
          fun _ => Or.inr ⟨more, failed⟩, ?_⟩
        intro asking place
        cases place
      · exact .loop accepted left (Or.inl more)

theorem delivered_start (samples_per_period : ℤ) :
    Delivered samples samples_per_period (start samples_per_period) :=
  .loop rfl (Nat.zero_add _) (Or.inr (Int.le_refl 0))

/-- **The step lemma.** -/
theorem Delivered.step {samples_per_period : ℤ} {c d : Call α} {response : ℤ}
    (h : Delivered samples samples_per_period c)
    (taken : AlsaStreamer.step samples c response = some d) :
    Delivered samples samples_per_period d := by
  obtain ⟨place, count, offered, rfl⟩ | ⟨place, -, rfl⟩ | ⟨place, failed, -, rfl⟩ |
    ⟨asking, place, rfl⟩ := step_cases taken
  · have left := h.left
    have more := h.more place Place.noConfusion
    refine .loop ?_ ?_ (Or.inr count)
    · show c.accepted ++ chunk samples c.position response.toNat = firsts samples _
      rw [h.accepted, firsts_add]
      rfl
    · show c.position + response.toNat * alsa_channels + (c.cptr - response).toNat = _
      rw [alsa_channels]
      omega
  · exact .loop h.accepted h.left (Or.inl (h.more place Place.noConfusion))
  · refine .recover ?_ ?_ ?_ failed _
    · exact h.accepted
    · exact h.left
    · exact h.more place Place.noConfusion
  · exact .recover h.accepted h.left (h.more place Place.noConfusion) (h.failed asking place) _

/-- **The run lemma.** -/
theorem Delivered.run {samples_per_period : ℤ} {c d : Call α} {responses : List ℤ}
    (h : Delivered samples samples_per_period c)
    (run : (alsaStreamer samples).run c responses = some d) :
    Delivered samples samples_per_period d :=
  (alsaStreamer samples).inv_of_run (Delivered samples samples_per_period)
    (fun _ _ _ h taken => h.step taken) h run

/-- **Exactly once.**  For every period and every sequence of responses on which the call
returns, the device has taken a first part of the period, in order; all of it if the result
is not negative, and not all of it if the result is negative. -/
theorem delivered_of_returned (samples : ℕ → α) (samples_per_period : ℤ) (responses : List ℤ)
    (c : Call α)
    (run : (alsaStreamer samples).run (start samples_per_period) responses = some c)
    (returned : c.place = .returned) :
    c.accepted <+: firsts samples samples_per_period.toNat ∧
      (0 ≤ c.err → c.accepted = firsts samples samples_per_period.toNat) ∧
      (c.err < 0 → c.accepted.length < samples_per_period.toNat) := by
  have delivered := (delivered_start samples_per_period).run run
  have left := delivered.left
  have ends := delivered.returned returned
  rw [delivered.accepted]
  refine ⟨firsts_isPrefix_of_le samples (by omega), fun success => ?_, fun failure => ?_⟩
  · congr 1
    omega
  · rw [length_firsts]
    omega

/-- Five samples in three pieces, with an interruption, an under-run and a suspend. -/
theorem delivered_of_returned_threePieces :
    ∃ c, (alsaStreamer fun k => k).run (start 5) [-11, 2, -32, -5, 1, -86, -11, -19, 0, 2] =
        some c ∧ c.place = .returned ∧ c.err = 2 ∧ c.accepted = [0, 1, 2, 3, 4] := by
  refine ⟨_, rfl, rfl, rfl, ?_⟩
  exact (delivered_of_returned (fun k => k) 5 [-11, 2, -32, -5, 1, -86, -11, -19, 0, 2] _ rfl
    rfl).2.1 (by decide)

end SpectrogramServers.MyServer.AlsaStreamer
