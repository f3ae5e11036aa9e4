import SpectrogramServers.CloudServer.Freshness

/-!
# Cycles that fail

A cycle of a capture thread can fail in more than half a dozen places, and is meant to
leave nothing behind: the next announcement of the thread comes from the next cycle, and
until then `sample_json` and `i.jpg` are those of the last one.  The code tests for each
failure and goes on with `continue`.

## Two failures leave something behind

* A `fork` that fails ends the thread, where every other failure goes on.  Nine threads
  are left, and one of the ten images is never renewed.
* `jpegtran` has rewritten `i.jpg` by the time that it or `rm` is found to have failed.
  The picture that pages have been told of is then another one than the one they find.

`Recovers` says of a cycle that it is neither, and `survived_iff_recovers` that the failed
cycles of a run leave no trace exactly as long as every cycle recovers.  What the failing
`jpegtran` has written may happen to be what was there before; then there is no trace, and
the condition says so.

## Ten threads

The threads share `sample_json` and nothing else, and a cycle touches it in one critical
section at its end; so a cycle of one thread counts as one step of the server, and a run
is the cycles in the order in which they end.  The equivalence is that of one cycle,
carried along the run.
-/

namespace SpectrogramServers.CloudServer.FailedCycles

open Capture Scanlines

universe u

variable {σ : Type u} (tools : Tools σ)

/-- The ten capture threads and the `sample_json` they share. -/
structure State (σ : Type u) where
  sample_json : Json
  threads : Fin 10 → Capture.State σ

/-- Thread `i` at the beginning of a cycle. -/
def State.thread (s : State σ) (i : Fin 10) : Capture.State σ :=
  { s.threads i with sample_json := s.sample_json }

/-- A cycle of one thread, from what the others have left in `sample_json`. -/
def step (s : State σ) (e : Fin 10 × Outcomes σ) : Option (State σ) :=
  (Capture.step tools e.1 (s.thread e.1) e.2).map fun thread =>
    { sample_json := thread.sample_json
      threads := Function.update s.threads e.1 thread }

/-- The capture threads of `cloudServer`. -/
def captureThreads : Machine (State σ) (Fin 10 × Outcomes σ) where
  init s := ∀ i, (capture tools i).init (s.thread i)
  step := step tools

/-! ## The property and the condition -/

/-- The cycle has left no trace in what its thread shows to others, and the thread goes
on. -/
structure NoTrace (s t : Capture.State σ) : Prop where
  sample_json : t.sample_json = s.sample_json
  jpg : t.files.jpg.map Stored.contents = s.files.jpg.map Stored.contents
  openStreams : t.openStreams = s.openStreams
  running : t.running = true

/-- A cycle that does not end in an announcement leaves no trace, and its thread goes on
with the next one. -/
def Survived (s : State σ) (e : Fin 10 × Outcomes σ) : Prop :=
  ∀ t, step tools s e = some t →
    (t.thread e.1).announcements = (s.thread e.1).announcements →
      NoTrace (s.thread e.1) (t.thread e.1)

/-- What `jpegtran` writes to `i.jpg`, if anything. -/
def rewritten (i : Fin 10) (s : Capture.State σ) (o : Outcomes σ) (wav : List UInt8) :
    Option (Jpeg σ) :=
  if o.jpegtran = .success then
    (s.copied tools i o wav).files.jpgOld.map fun old => old.contents.flip
  else o.jpg

/-- `fork` succeeds; and a `jpegtran` that is followed by a failure, its own or that of
`rm`, has written nothing new. -/
def Recovers (i : Fin 10) (s : Capture.State σ) (o : Outcomes σ) : Prop :=
  o.forked = true ∧ ∀ wav, Renders tools s o wav → o.cp ≠ .failed → ¬ Converts o →
    ∀ contents, rewritten tools i s o wav.contents = some contents →
      s.files.jpg.map Stored.contents = some contents

/-- The cycle meets `Recovers`, in the state that its thread begins it in. -/
def Recovering (s : State σ) (e : Fin 10 × Outcomes σ) : Prop :=
  Recovers tools e.1 (s.thread e.1) e.2

/-! ## One cycle -/

section Cycle

variable (i : Fin 10) (s : Capture.State σ) (o : Outcomes σ) (wav : List UInt8)

/-- The contents of a file after a program has run. -/
theorem output_contents {β : Type u} (cycle : ℕ) (status : SystemStatus)
    (result written : Option β) (old : Option (Stored β)) :
    (output cycle status result written old).map Stored.contents =
      (if status = .success then result else written).or (old.map Stored.contents) := by
  unfold output
  cases if status = .success then result else written with
  | none => rfl
  | some contents => rfl

theorem flipped_jpg_contents :
    (s.flipped tools i o wav).files.jpg.map Stored.contents =
      (rewritten tools i s o wav).or (s.files.jpg.map Stored.contents) := by
  rw [flipped_jpg, output_contents]
  rfl

end Cycle

theorem or_eq_right_iff {α : Type u} {a b : Option α} :
    a.or b = b ↔ ∀ x, a = some x → b = some x := by
  cases a with
  | none => simp
  | some y => simp [eq_comm]

section Recovery

variable {i : Fin 10} {s : Capture.State σ} {o : Outcomes σ}

/-- A cycle that does not start `jpegtran` has only `fork` to fear. -/
theorem recovers_of_not_renders (forked : o.forked = true)
    (stopped : ∀ wav, ¬ Renders tools s o wav) : Recovers tools i s o :=
  ⟨forked, fun wav renders => absurd renders (stopped wav)⟩

theorem recovers_iff_of_renders {wav : Stored (List UInt8)} (renders : Renders tools s o wav)
    (cp : o.cp ≠ .failed) (fails : ¬ Converts o) :
    Recovers tools i s o ↔
      (rewritten tools i s o wav.contents).or (s.files.jpg.map Stored.contents) =
        s.files.jpg.map Stored.contents := by
  rw [or_eq_right_iff]
  constructor
  · intro recovers
    exact recovers.2 wav renders cp fails
  · intro same
    refine ⟨renders.recorded.1, fun wav' renders' _ _ => ?_⟩
    obtain rfl : wav = wav' := Option.some.inj (renders.decoded.symm.trans renders'.decoded)
    exact same

/-- A cycle that goes on and has touched nothing but `i.jpg`. -/
theorem noTrace_iff_jpg {t : Capture.State σ} (n : ℕ)
    (announcements : t.announcements = s.announcements)
    (sample_json : t.sample_json = s.sample_json) (openStreams : t.openStreams = s.openStreams)
    (running : t.running = true) :
    (t.announcements = s.announcements → NoTrace s { t with cycle := n }) ↔
      t.files.jpg.map Stored.contents = s.files.jpg.map Stored.contents := by
  constructor
  · intro survived
    exact (survived announcements).jpg
  · intro jpg _
    exact ⟨sample_json, jpg, openStreams, running⟩

/-- **A cycle without an announcement leaves no trace exactly if it recovers.** -/
theorem noTrace_iff_recovers (running : s.running = true) (n : ℕ) :
    ((s.body tools i o).announcements = s.announcements →
        NoTrace s { s.body tools i o with cycle := n }) ↔ Recovers tools i s o := by
  have outcome := body_outcome tools i s o
  generalize s.body tools i o = t at outcome ⊢
  cases outcome with
  | unforked forked =>
      constructor
      · intro survived
        cases (survived rfl).running
      · rintro ⟨forked', -⟩
        rw [forked] at forked'
        cases forked'
  | unwaited forked curl =>
      refine iff_of_true (fun _ => ⟨rfl, rfl, rfl, running⟩)
        (recovers_of_not_renders tools forked fun wav renders => ?_)
      obtain ⟨status, waited, -⟩ := renders.recorded.2
      rw [curl] at waited
      cases waited
  | badCurl forked status curl bad =>
      refine iff_of_true (fun _ => ⟨rfl, rfl, rfl, running⟩)
        (recovers_of_not_renders tools forked fun wav renders => ?_)
      obtain ⟨other, waited, good⟩ := renders.recorded.2
      rw [curl, Option.some_inj] at waited
      rw [← waited, bad] at good
      cases good
  | noWav recorded wav =>
      refine iff_of_true (fun _ => ⟨rfl, rfl, rfl, running⟩)
        (recovers_of_not_renders tools recorded.1 fun wav' renders => ?_)
      have found := renders.decoded
      rw [wav] at found
      cases found
  | short recorded wav decoded short =>
      refine iff_of_true (fun _ => ⟨rfl, rfl, ?_, running⟩)
        (recovers_of_not_renders tools recorded.1 fun wav' renders => ?_)
      · rw [render_eq]
        rfl
      · obtain rfl : wav = wav' := Option.some.inj (decoded.symm.trans renders.decoded)
        exact short renders.long
  | cpFailed wav renders cp =>
      rw [copied_eq]
      exact iff_of_true (fun _ => ⟨rfl, rfl, rfl, running⟩)
        ⟨renders.recorded.1, fun _ _ other => absurd cp other⟩
  | jpegtranFailed wav renders cp jpegtran =>
      rw [recovers_iff_of_renders tools renders cp fun converts => converts.2.1 jpegtran,
        ← flipped_jpg_contents]
      have jpg : ((s.copied tools i o wav.contents).jpegtran o).files.jpg =
          (s.flipped tools i o wav.contents).files.jpg := by
        rw [State.flipped, rm_eq]
      rw [← jpg, copied_eq]
      exact noTrace_iff_jpg n rfl rfl rfl running
  | rmFailed wav renders cp jpegtran rm =>
      rw [recovers_iff_of_renders tools renders cp fun converts => converts.2.2 rm,
        ← flipped_jpg_contents]
      exact noTrace_iff_jpg n (flipped_announcements tools i s o wav.contents)
        (flipped_sample_json tools i s o wav.contents)
        (flipped_openStreams tools i s o wav.contents)
        ((flipped_running tools i s o wav.contents).trans running)
  | announced wav completes =>
      refine iff_of_true (fun same => ?_) ⟨completes.forked, fun _ _ _ fails => ?_⟩
      · change (s.flipped tools i o wav.contents).announcements ++ [_] = _ at same
        rw [flipped_announcements] at same
        exact absurd same (by simp)
      · exact absurd ⟨completes.cp, completes.jpegtran, completes.rm⟩ fails

end Recovery

/-! ## Runs -/

/-- **One cycle of one thread.** -/
theorem survived_iff_recovering {s t : State σ} {e : Fin 10 × Outcomes σ}
    (h : step tools s e = some t) : Survived tools s e ↔ Recovering tools s e := by
  obtain ⟨thread, next, rfl⟩ := Option.map_eq_some_iff.mp h
  have running : (s.thread e.1).running = true := by
    rw [Capture.step, Option.ite_none_right_eq_some] at next
    exact next.1
  have body := step_eq_some tools e.1 next
  have after : State.thread { sample_json := thread.sample_json
                              threads := Function.update s.threads e.1 thread } e.1 = thread := by
    show { Function.update s.threads e.1 thread e.1 with sample_json := thread.sample_json } =
      thread
    rw [Function.update_self]
  unfold Recovering
  rw [← noTrace_iff_recovers tools running ((s.thread e.1).cycle + 1), ← body]
  constructor
  · intro survived announcements
    rw [← after]
    refine survived _ h ?_
    rw [after, body]
    exact announcements
  · intro noTrace t' h' announcements
    obtain rfl := Option.some.inj (h.symm.trans h')
    rw [after] at announcements ⊢
    rw [body] at announcements
    exact noTrace announcements

/-- **Failed cycles leave no trace exactly as long as every cycle recovers**, over every
run of the ten threads and from every state they may be in. -/
theorem survived_iff_recovers (s : State σ) (es : List (Fin 10 × Outcomes σ)) :
    (captureThreads tools).Along (Survived tools) s es ↔
      (captureThreads tools).Along (Recovering tools) s es :=
  (captureThreads tools).along_congr (fun _ _ _ h => survived_iff_recovering tools h)

/-- No thread has been through a cycle, and none finds a file. -/
def firstCycles : State ℕ where
  sample_json := .null
  threads _ := start none none none none none .null

/-- `fork` fails. -/
def failedFork : Outcomes ℕ := { killedCurl with forked := false }

/-- Everything succeeds but the `system` call for `rm`. -/
def failedRm : Outcomes ℕ :=
  { killedCurl with curl := some (.exited 28), mp3 := some leftover, rm := .failed }

theorem renders_failedRm : Renders plainTools (firstCycles.thread 0) failedRm ⟨1, leftover⟩ :=
  ⟨⟨rfl, .exited 28, rfl, rfl⟩, rfl, completes_killedCurl.long⟩

/-- A failed `fork` ends the thread, and a failed `rm` leaves a new picture in `i.jpg` that
is not announced. -/
theorem not_survived_failedFork :
    ¬ (captureThreads plainTools).Along (Survived plainTools) firstCycles [(0, failedFork)] ∧
      ¬ (captureThreads plainTools).Along (Survived plainTools) firstCycles [(0, failedRm)] := by
  constructor
  · intro along
    have survived := (along _ rfl).1
    rw [survived_iff_recovering plainTools rfl] at survived
    cases survived.1
  · intro along
    have survived := (along _ rfl).1
    rw [survived_iff_recovering plainTools rfl] at survived
    have written := survived.2 _ renders_failedRm (by decide) (fun converts => converts.2.2 rfl)
      _ rfl
    cases written

end SpectrogramServers.CloudServer.FailedCycles
