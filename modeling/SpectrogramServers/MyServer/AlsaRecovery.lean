import SpectrogramServers.MyServer.AlsaStreamer

/-!
# `writeSamples` on a broken device

`AlsaStreamer` has a call of `writeSamples` as a run against a device that answers what it
likes. Here the device breaks while a call is running: from some response on, everything
it answers is an error.  A call should then return a negative value, and soon.

## What happens

`xrun_recovery` returns 0 for every under-run and every suspend, also where the device
could not be prepared again, so `writeSamples` goes on and meets the same error again.  On
a device that answers `-EPIPE` for ever this never ends (`not_reportsBreak_underrun`).

What ends a call on a broken device is an error of another kind, met while writing
(`returnsError_iff`).  And since every recovery that fails is reported as a success
(`honest_iff`), the call returns its error with no false report exactly if the first error
after the break is of that kind and no `snd_pcm_prepare` has failed before
(`reportsBreak_iff`).

## Finite and infinite

What the device answers before the break is a list, what it answers afterwards a sequence
without an end, since the property is about a call that may not return.  `firsts` joins
the two: a call returns if it does so after some number of the responses.  `-EAGAIN` is no
error here; the loop of the source tries again, and a device that answers nothing else is
not broken but slow.
-/

namespace SpectrogramServers.MyServer.AlsaStreamer

universe u

variable {α : Type u} {samples : ℕ → α}

/-! ## The property and the condition -/

/-- An error other than `-EAGAIN`. -/
def Broken (response : ℤ) : Prop := response < 0 ∧ response ≠ -EAGAIN

/-- No recovery that failed has been reported as a success. -/
def Call.Honest (c : Call α) : Prop :=
  ∀ ended ∈ c.recoveries, ended.err < 0 → ended.result < 0

/-- The call returns a negative value after finitely many of the responses. -/
def ReturnsError (samples : ℕ → α) (c : Call α) (after : ℕ → ℤ) : Prop :=
  ∃ n d, (alsaStreamer samples).run c (firsts after n) = some d ∧ d.place = .returned ∧ d.err < 0

/-- After any number of the responses the reports are honest. -/
def StaysHonest (samples : ℕ → α) (c : Call α) (after : ℕ → ℤ) : Prop :=
  ∀ n d, (alsaStreamer samples).run c (firsts after n) = some d → d.Honest

/-- The device can be prepared where the call asks for it. -/
def Prepares (c : Call α) (response : ℤ) : Prop :=
  c.place = .recovering .prepare → 0 ≤ response

/-- The error is neither an under-run nor a suspend. -/
def Fatal (err : ℤ) : Prop := err ≠ -EPIPE ∧ err ≠ -ESTRPIPE

instance (response : ℤ) : Decidable (Broken response) := inferInstanceAs (Decidable (_ ∧ _))

instance (c : Call α) (response : ℤ) : Decidable (Prepares c response) :=
  inferInstanceAs (Decidable (_ → _))

instance (err : ℤ) : Decidable (Fatal err) := inferInstanceAs (Decidable (_ ∧ _))

/-! ## Honest reports -/

theorem honest_add_iff {c : Call α} (honest : c.Honest) (ended : Return) :
    (∀ r ∈ c.recoveries ++ [ended], r.err < 0 → r.result < 0) ↔
      (ended.err < 0 → ended.result < 0) := by
  constructor
  · intro all
    exact all ended (List.mem_append_right _ (List.mem_singleton_self ended))
  · intro last r mem
    rcases List.mem_append.mp mem with before | new
    · exact honest r before
    · rw [List.mem_singleton.mp new]
      exact last

theorem recoveries_recover_done (c : Call α) (ended : Return) :
    (c.recover (.done ended)).recoveries = c.recoveries ++ [ended] := by
  unfold Call.recover
  dsimp only
  split
  all_goals rfl

theorem honest_recover_xrun {c : Call α} (honest : c.Honest) (err : ℤ) :
    (c.recover (xrun_recovery err)).Honest := by
  unfold xrun_recovery
  split_ifs
  · exact honest
  · exact honest
  · rw [Call.Honest, recoveries_recover_done, honest_add_iff honest]
    exact id

/-- A recovery is honest unless `snd_pcm_prepare` fails. -/
theorem honest_recover_answer_iff {c : Call α} (honest : c.Honest) (asking : Asking)
    (response : ℤ) :
    (c.recover (asking.answer response)).Honest ↔ (asking = .prepare → 0 ≤ response) := by
  cases asking with
  | prepare =>
      rw [Asking.answer, Call.Honest, recoveries_recover_done, honest_add_iff honest]
      simp
  | resume =>
      refine iff_of_true ?_ Asking.noConfusion
      unfold Asking.answer
      dsimp only
      split_ifs with again failed
      · exact honest
      · exact honest
      · rw [Call.Honest, recoveries_recover_done, honest_add_iff honest]
        exact fun negative => absurd negative failed

/-- One response keeps the reports honest exactly if it is no failure of
`snd_pcm_prepare`. -/
theorem honest_step_iff {c d : Call α} {response : ℤ} (honest : c.Honest)
    (taken : step samples c response = some d) : d.Honest ↔ Prepares c response := by
  obtain ⟨place, -, -, rfl⟩ | ⟨place, -, rfl⟩ | ⟨place, -, -, rfl⟩ | ⟨asking, place, rfl⟩ :=
    step_cases taken
  · refine iff_of_true honest fun prepare => ?_
    cases place.symm.trans prepare
  · refine iff_of_true honest fun prepare => ?_
    cases place.symm.trans prepare
  · have kept : Call.Honest { c with err := response } := honest
    refine iff_of_true (honest_recover_xrun kept response) fun prepare => ?_
    cases place.symm.trans prepare
  · rw [honest_recover_answer_iff honest, Prepares, place]
    simp

/-- What has been reported stays reported. -/
theorem honest_of_step {c d : Call α} {response : ℤ}
    (taken : step samples c response = some d) (honest : d.Honest) : c.Honest := by
  have kept : ∀ (c : Call α) (recovery : Recovery), (c.recover recovery).Honest → c.Honest := by
    intro c recovery later
    cases recovery with
    | asks asking => exact later
    | done ended =>
        rw [Call.Honest, recoveries_recover_done] at later
        exact fun r mem => later r (List.mem_append_left _ mem)
  obtain ⟨-, -, -, rfl⟩ | ⟨-, -, rfl⟩ | ⟨-, -, -, rfl⟩ | ⟨asking, -, rfl⟩ := step_cases taken
  · exact honest
  · exact honest
  · exact kept { c with err := response } _ honest
  · exact kept c _ honest

/-- **A run is honest exactly if every `snd_pcm_prepare` in it succeeds.** -/
theorem honest_iff {c d : Call α} {responses : List ℤ}
    (run : (alsaStreamer samples).run c responses = some d) :
    d.Honest ↔ c.Honest ∧ (alsaStreamer samples).Along Prepares c responses := by
  induction responses generalizing c with
  | nil =>
      obtain rfl := Option.some.inj run
      exact ⟨fun honest => ⟨honest, trivial⟩, fun h => h.1⟩
  | cons response responses ih =>
      obtain ⟨e, taken, rest⟩ := Option.bind_eq_some_iff.mp run
      rw [ih rest, Machine.along_cons_of_step _ taken]
      constructor
      · rintro ⟨honest, later⟩
        have before := honest_of_step taken honest
        exact ⟨before, (honest_step_iff before taken).mp honest, later⟩
      · rintro ⟨before, prepares, later⟩
        exact ⟨(honest_step_iff before taken).mpr prepares, later⟩

/-! ## A broken device -/

/-- The first response of a sequence, and the others. -/
theorem run_firsts_succ (c : Call α) (after : ℕ → ℤ) (n : ℕ) :
    (alsaStreamer samples).run c (firsts after (n + 1)) =
      (step samples c (after 0)).bind fun d =>
        (alsaStreamer samples).run d (firsts (fun k => after (k + 1)) n) := by
  rw [firsts_succ, Machine.run_cons]
  rfl

/-- A broken device while the call is about to write. -/
theorem step_writing (samples : ℕ → α) {c : Call α} {response : ℤ} (place : c.place = .writing)
    (more : 0 < c.cptr) (broken : Broken response) :
    step samples c response =
      some (Call.recover { c with err := response } (xrun_recovery response)) := by
  obtain ⟨negative, notAgain⟩ := broken
  rw [step, place]
  dsimp only
  rw [if_pos (by omega), Call.written]
  dsimp only
  rw [if_neg notAgain, if_pos negative, place]

/-- Inside `xrun_recovery` a response goes to whatever it has asked for. -/
theorem step_recovering (samples : ℕ → α) {c : Call α} {asking : Asking}
    (place : c.place = .recovering asking) (response : ℤ) :
    step samples c response = some (c.recover (asking.answer response)) := by
  rw [step, place]

/-- An error that cannot be recovered from ends the call. -/
theorem step_fatal (samples : ℕ → α) {c : Call α} {response : ℤ} (place : c.place = .writing)
    (more : 0 < c.cptr) (broken : Broken response) (fatal : Fatal response) :
    ∃ d, step samples c response = some d ∧ d.place = .returned ∧ d.err = response ∧
      d.recoveries = c.recoveries ++ [⟨response, response⟩] := by
  rw [step_writing samples place more broken, xrun_recovery, if_neg fatal.1, if_neg fatal.2,
    Call.recover]
  dsimp only
  rw [if_pos broken.1]
  exact ⟨_, rfl, rfl, rfl, rfl⟩

/-- An under-run and a suspend are never given up at once. -/
theorem xrun_recovery_asks {err : ℤ} (notFatal : ¬ Fatal err) :
    ∃ asking, xrun_recovery err = .asks asking := by
  by_cases underrun : err = -EPIPE
  · exact ⟨.prepare, if_pos underrun⟩
  · by_cases suspended : err = -ESTRPIPE
    · refine ⟨.resume, ?_⟩
      rw [xrun_recovery, if_neg underrun, if_pos suspended]
    · exact absurd ⟨underrun, suspended⟩ notFatal

/-- On a broken device a call returns from a fatal error only. -/
theorem fatal_of_step {c d : Call α} {response : ℤ} (more : 0 < c.cptr)
    (broken : Broken response) (taken : step samples c response = some d)
    (returned : d.place = .returned) : c.place = .writing ∧ Fatal response := by
  obtain ⟨negative, notAgain⟩ := broken
  obtain ⟨-, count, -, -⟩ | ⟨-, again, -⟩ | ⟨place, -, -, rfl⟩ | ⟨asking, -, rfl⟩ :=
    step_cases taken
  · exact absurd negative (Int.not_lt.mpr count)
  · exact absurd again notAgain
  · refine ⟨place, ?_⟩
    by_contra notFatal
    obtain ⟨asking, asks⟩ := xrun_recovery_asks notFatal
    rw [asks] at returned
    cases returned
  · have running : (Call.loop c).place = .writing := if_pos more
    cases asking with
    | prepare => cases running.symm.trans returned
    | resume =>
        rw [Asking.answer, if_neg notAgain, if_pos negative] at returned
        cases returned

/-- **What ends a call on a broken device**: an error while writing that is neither an
under-run nor a suspend. -/
theorem returnsError_iff {samples_per_period : ℤ} {c : Call α}
    (delivered : Delivered samples samples_per_period c) (running : c.place ≠ .returned)
    {after : ℕ → ℤ} (broken : ∀ n, Broken (after n)) :
    ReturnsError samples c after ↔
      ∃ n d, (alsaStreamer samples).run c (firsts after n) = some d ∧ d.place = .writing ∧
        Fatal (after n) := by
  constructor
  · rintro ⟨n, d, run, returned, -⟩
    induction n generalizing c after with
    | zero =>
        obtain rfl := Option.some.inj run
        exact absurd returned running
    | succ n ih =>
        rw [run_firsts_succ] at run
        obtain ⟨e, taken, rest⟩ := Option.bind_eq_some_iff.mp run
        by_cases ended : e.place = .returned
        · obtain ⟨place, fatal⟩ :=
            fatal_of_step (delivered.running running) (broken 0) taken ended
          exact ⟨0, c, rfl, place, fatal⟩
        · obtain ⟨m, f, later, place, fatal⟩ :=
            ih (delivered.step taken) ended (fun k => broken (k + 1)) rest
          refine ⟨m + 1, f, ?_, place, fatal⟩
          rw [run_firsts_succ, taken]
          exact later
  · rintro ⟨n, d, run, place, fatal⟩
    have more := (delivered.run run).more place Place.noConfusion
    obtain ⟨e, taken, returned, err, -⟩ := step_fatal samples place more (broken n) fatal
    refine ⟨n + 1, e, ?_, returned, err ▸ (broken n).1⟩
    rw [firsts_add, Machine.run_append, run]
    show (step samples d (after n)).bind some = _
    rw [taken]
    rfl

/-! ## When the break is reported -/

/-- A recovery on a broken device is reported as a success. -/
theorem not_staysHonest_of_recovering {c : Call α} {asking : Asking}
    (place : c.place = .recovering asking) {after : ℕ → ℤ} (broken : ∀ n, Broken (after n)) :
    ¬ StaysHonest samples c after := by
  intro stays
  have honest : c.Honest := stays 0 c rfl
  -- the first response answers what is asked, the second `snd_pcm_prepare` at the latest
  cases asking with
  | prepare =>
      have taken := step_recovering samples place (after 0)
      have reported := stays 1 _ (by rw [run_firsts_succ, taken]; rfl)
      rw [honest_recover_answer_iff honest] at reported
      exact absurd (reported rfl) (Int.not_le.mpr (broken 0).1)
  | resume =>
      have taken := step_recovering samples place (after 0)
      rw [Asking.answer, if_neg (broken 0).2, if_pos (broken 0).1] at taken
      have again := step_recovering samples (c := c.recover (.asks .prepare)) rfl (after 1)
      have reported := stays 2 _ (by
        rw [run_firsts_succ, taken, Option.bind_some, run_firsts_succ, again]
        rfl)
      rw [honest_recover_answer_iff (c := c.recover (.asks .prepare)) honest] at reported
      exact absurd (reported rfl) (Int.not_le.mpr (broken 1).1)

/-- A sequence of responses that stays honest does so from its second response on. -/
theorem StaysHonest.tail {c d : Call α} {after : ℕ → ℤ} (h : StaysHonest samples c after)
    (taken : step samples c (after 0) = some d) :
    StaysHonest samples d fun k => after (k + 1) := by
  intro n e run
  refine h (n + 1) e ?_
  rw [run_firsts_succ, taken]
  exact run

/-- **Termination on a broken device.**  Where the device breaks while a call is running,
the call returns a negative value after finitely many steps, with no failed recovery
reported as a success, exactly if every `snd_pcm_prepare` before the break succeeded, the
call was not inside `xrun_recovery`, and the first error it meets is neither an under-run
nor a suspend. -/
theorem reportsBreak_iff (samples : ℕ → α) (samples_per_period : ℤ) (before : List ℤ)
    (c : Call α) (run : (alsaStreamer samples).run (start samples_per_period) before = some c)
    (running : c.place ≠ .returned) (after : ℕ → ℤ) (broken : ∀ n, Broken (after n)) :
    (ReturnsError samples c after ∧ StaysHonest samples c after) ↔
      (alsaStreamer samples).Along Prepares (start samples_per_period) before ∧
        c.place = .writing ∧ Fatal (after 0) := by
  have delivered := (delivered_start samples_per_period).run run
  have nothing : (start samples_per_period : Call α).Honest := fun _ mem => by cases mem
  have history := honest_iff run
  constructor
  · rintro ⟨-, stays⟩
    obtain ⟨-, along⟩ := history.mp (stays 0 c rfl)
    cases place : c.place with
    | returned => exact absurd place running
    | recovering asking => exact absurd stays (not_staysHonest_of_recovering place broken)
    | writing =>
        refine ⟨along, rfl, ?_⟩
        by_contra notFatal
        obtain ⟨asking, asks⟩ := xrun_recovery_asks notFatal
        have taken := step_writing samples place (delivered.running running) (broken 0)
        rw [asks] at taken
        exact not_staysHonest_of_recovering rfl (fun k => broken (k + 1)) (stays.tail taken)
  · rintro ⟨along, place, fatal⟩
    have honest : c.Honest := history.mpr ⟨nothing, along⟩
    refine ⟨(returnsError_iff delivered running broken).mpr ⟨0, c, rfl, place, fatal⟩, ?_⟩
    obtain ⟨e, taken, returned, -, recoveries⟩ :=
      step_fatal samples place (delivered.running running) (broken 0) fatal
    intro n d later
    match n with
    | 0 =>
        obtain rfl := Option.some.inj later
        exact honest
    | 1 =>
        rw [run_firsts_succ, taken] at later
        obtain rfl := Option.some.inj later
        rw [Call.Honest, recoveries, honest_add_iff honest]
        exact id
    | n + 2 =>
        -- a call that has returned takes no response
        rw [run_firsts_succ, taken, Option.bind_some, run_firsts_succ, step, returned] at later
        cases later

/-- A device that is unplugged after two samples. -/
theorem reportsBreak_unplugged :
    ∃ c, (alsaStreamer fun k => k).run (start 5) [2] = some c ∧
      ReturnsError (fun k => k) c fun _ => -19 := by
  refine ⟨_, rfl, ?_⟩
  exact ((reportsBreak_iff (fun k => k) 5 [2] _ rfl Place.noConfusion (fun _ => -19)
    (fun _ => (by decide : Broken (-19)))).mpr ⟨by decide, rfl, by decide⟩).1

/-! ## The loop that never ends -/

/-- The call is at work on an under-run. -/
structure Spinning (c : Call α) : Prop where
  more : 0 < c.cptr
  place : c.place = .writing ∨ c.place = .recovering .prepare

theorem Spinning.step (samples : ℕ → α) {c : Call α} (h : Spinning c) :
    ∃ d, AlsaStreamer.step samples c (-EPIPE) = some d ∧ Spinning d := by
  rcases h.place with place | place
  · exact ⟨_, step_writing samples place h.more (by decide), h.more, Or.inr rfl⟩
  · exact ⟨_, step_recovering samples place _, h.more, Or.inl (if_pos h.more)⟩

theorem Spinning.run (samples : ℕ → α) {c : Call α} (h : Spinning c) (n : ℕ) :
    ∃ d, (alsaStreamer samples).run c (firsts (fun _ => -EPIPE) n) = some d ∧ Spinning d := by
  induction n generalizing c with
  | zero => exact ⟨c, rfl, h⟩
  | succ n ih =>
      obtain ⟨d, taken, spins⟩ := h.step samples
      obtain ⟨e, later, spins'⟩ := ih spins
      refine ⟨e, ?_, spins'⟩
      rw [run_firsts_succ, taken]
      exact later

/-- A device that answers everything with `-EPIPE` keeps the call for ever, and the failed
recovery of its second response is reported as a success. -/
theorem not_reportsBreak_underrun :
    (∀ n : ℕ, Broken ((fun _ : ℕ => -EPIPE) n)) ∧
      (∀ n, ∃ d, (alsaStreamer fun k => k).run (start 1) (firsts (fun _ => -EPIPE) n) = some d ∧
        d.place ≠ .returned) ∧
      ¬ ReturnsError (fun k => k) (start 1) (fun _ => -EPIPE) ∧
      ¬ StaysHonest (fun k => k) (start 1) (fun _ => -EPIPE) := by
  have spinning : Spinning (start 1 : Call ℕ) := ⟨by decide, Or.inl rfl⟩
  have forever : ∀ n, ∃ d, (alsaStreamer fun k => k).run (start 1)
      (firsts (fun _ => -EPIPE) n) = some d ∧ d.place ≠ .returned := by
    intro n
    obtain ⟨d, run, spins⟩ := spinning.run (fun k => k) n
    refine ⟨d, run, fun returned => ?_⟩
    rcases spins.place with place | place
    all_goals cases place.symm.trans returned
  have broken : Broken (-EPIPE) := by decide
  refine ⟨fun _ => broken, forever, ?_, ?_⟩
  · rintro ⟨n, d, run, returned, -⟩
    obtain ⟨e, run', running⟩ := forever n
    obtain rfl := Option.some.inj (run.symm.trans run')
    exact running returned
  · intro stays
    have reported := stays 2 _ rfl
    exact absurd (reported ⟨-EPIPE, 0⟩ (by decide) (by decide)) (by decide)

end SpectrogramServers.MyServer.AlsaStreamer
