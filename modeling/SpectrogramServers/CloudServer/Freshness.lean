import SpectrogramServers.CloudServer.Capture

/-!
# When an announced image is fresh

A capture cycle runs `curl`, `mpg123`, `cp`, `jpegtran` and `rm`, one after the other, and
announces the image at the end.  The thread tests little of what its programs report.

* A `curl` killed by a signal passes the test of its exit status.
* The status of `mpg123` is stored and not read.
* Of `cp`, `jpegtran` and `rm` only a status of -1 stops the cycle, which is what `system`
  returns when it cannot start a program, not what a program returns that fails.

So files left over from earlier cycles can take the place of new ones, and an old image
can be announced with a new time.

## Fresh and sound

`Announcement.Fresh` is what a visitor may expect, told from the files and their dates:
every file on the way to the image was written in the same cycle.  `Completes` says which
cycles get as far as the announcement, and `Sound` what must be true of those.
`fresh_iff_sound` shows that the announcements of a run are fresh exactly when all of its
cycles are sound.

A file carries the number of the cycle that wrote it (`Stored`).  The numbers are history;
what makes them useful is that no file of a cycle is older than it says and none is from
the future, which is the invariant of the run.

The programs are parameters.  One that fails may leave anything in its output, also
nothing.
-/

namespace SpectrogramServers.CloudServer.Capture

open Scanlines

universe u

variable {σ : Type u} (tools : Tools σ) (i : Fin 10)

/-! ## The property -/

/-- An announcement is fresh: in its own cycle `curl` ended with exit status 28
and wrote `i.mp3`, `i.wav` is its decoding, `i.jpg.new` has the 431 scanlines
computed from that, and `jpegtran` wrote them, flipped, to `i.jpg`. -/
def Announcement.Fresh (a : Announcement σ) : Prop :=
  a.outcomes.curl = some (.exited 28) ∧
  a.outcomes.mpg123 = .success ∧
  a.outcomes.jpegtran = .success ∧
  ∃ audio rows, a.files.mp3 = some ⟨a.cycle, audio⟩ ∧
    a.files.wav = some ⟨a.cycle, tools.decode audio⟩ ∧
    rows = scanlines tools.colors (tools.decode audio) ∧ rows.length = 431 ∧
    a.files.jpgNew = some ⟨a.cycle, .complete rows⟩ ∧
    a.files.jpg = some ⟨a.cycle, .complete rows.reverse⟩

/-- Every announcement so far was fresh and named its image and its time. -/
def AllFresh (s : State σ) : Prop :=
  ∀ a ∈ s.announcements, a.Fresh tools ∧
    a.sample_json = .object [("Image Name", .string (toString (i : ℕ) ++ ".jpg")),
      ("Image Time", .string (tools.put_time a.outcomes.scheduleTime)),
      ("Served", .bool true)]

/-! ## The condition -/

/-- The state when the thread opens `i.wav`. -/
def State.decoded (s : State σ) (o : Outcomes σ) : State σ := (s.curl o).mpg123 tools o

/-- The state when `jpegtran` starts. -/
def State.copied (s : State σ) (o : Outcomes σ) (wav : List UInt8) : State σ :=
  ((s.decoded tools o).render tools i wav).cp o

/-- The cycle gets as far as the announcement, with `wav` in `i.wav`: none of the
results the code tests stops it. -/
structure Completes (s : State σ) (o : Outcomes σ) (wav : Stored (List UInt8)) : Prop where
  forked : o.forked = true
  curl : ∃ status, o.curl = some status ∧ status.badCurl = false
  decoded : (s.decoded tools o).files.wav = some wav
  long : firstNonzeroSample wav.contents + 1769472 ≤ wav.contents.length
  cp : o.cp ≠ .failed
  jpegtran : o.jpegtran ≠ .failed
  rm : o.rm ≠ .failed

/-- A cycle that gets as far as the announcement does so on files of its own: `curl` was
not killed and wrote `i.mp3`, `mpg123` and `jpegtran` succeeded, and `i.jpg.old` holds the
picture just computed.  It is a condition on what the programs do, not on the
announcement. -/
def Sound (s : State σ) (o : Outcomes σ) : Prop :=
  ∀ wav, Completes tools s o wav →
    (∀ signal, o.curl ≠ some (.signaled signal)) ∧
    o.mp3.isSome ∧
    o.mpg123 = .success ∧
    (s.copied tools i o wav.contents).files.jpgOld.map Stored.contents =
      some (.complete (scanlines tools.colors wav.contents)) ∧
    o.jpegtran = .success

/-! ## What a cycle announces -/

/-- The state in which the image is announced. -/
def State.flipped (s : State σ) (o : Outcomes σ) (wav : List UInt8) : State σ :=
  ((s.copied tools i o wav).jpegtran o).rm o

section Flipped

variable (s : State σ) (o : Outcomes σ) (wav : List UInt8)

/-- The two streams that `render` opens are closed again. -/
theorem render_eq :
    s.render tools i wav =
      { s with files := { s.files with jpgNew := some ⟨s.cycle, rendered tools wav⟩ } } := by
  unfold State.render State.fopen State.fclose
  dsimp only
  rw [List.erase_cons_head, List.erase_cons_head]

theorem rm_eq :
    s.rm o =
      { s with
        files :=
          { s.files with jpgOld := if o.rm = .success then none else s.files.jpgOld } } := by
  rw [State.rm]
  split <;> rfl

/-- The state when `jpegtran` starts, without the streams that are closed again:
`i.jpg.new` is rendered and `i.jpg.old` copied, if `cp` did its work. -/
theorem copied_eq :
    s.copied tools i o wav =
      State.cp { s.decoded tools o with
        files :=
          { (s.decoded tools o).files with jpgNew := some ⟨s.cycle, rendered tools wav⟩ } } o := by
  rw [State.copied, render_eq]
  rfl

/-- **What the cycle has changed by then**: the five files. -/
theorem flipped_eq :
    s.flipped tools i o wav =
      { s with
        files :=
          { mp3 := (s.curl o).files.mp3
            wav := (s.decoded tools o).files.wav
            jpgNew := some ⟨s.cycle, rendered tools wav⟩
            jpgOld :=
              if o.rm = .success then none else (s.copied tools i o wav).files.jpgOld
            jpg := output s.cycle o.jpegtran
              ((s.copied tools i o wav).files.jpgOld.map fun old => old.contents.flip)
              o.jpg s.files.jpg } } := by
  rw [State.flipped, rm_eq, copied_eq]
  rfl

theorem flipped_cycle : (s.flipped tools i o wav).cycle = s.cycle := by rw [flipped_eq]

theorem flipped_running : (s.flipped tools i o wav).running = s.running := by rw [flipped_eq]

theorem flipped_openStreams : (s.flipped tools i o wav).openStreams = s.openStreams := by
  rw [flipped_eq]

theorem flipped_sample_json : (s.flipped tools i o wav).sample_json = s.sample_json := by
  rw [flipped_eq]

theorem flipped_announcements :
    (s.flipped tools i o wav).announcements = s.announcements := by
  rw [flipped_eq]

theorem flipped_mp3 : (s.flipped tools i o wav).files.mp3 = (s.curl o).files.mp3 := by
  rw [flipped_eq]

theorem flipped_wav : (s.flipped tools i o wav).files.wav = (s.decoded tools o).files.wav := by
  rw [flipped_eq]

theorem flipped_jpgNew :
    (s.flipped tools i o wav).files.jpgNew = some ⟨s.cycle, rendered tools wav⟩ := by
  rw [flipped_eq]

theorem flipped_jpg :
    (s.flipped tools i o wav).files.jpg =
      output s.cycle o.jpegtran
        ((s.copied tools i o wav).files.jpgOld.map fun old => old.contents.flip)
        o.jpg s.files.jpg := by
  rw [flipped_eq]

end Flipped

/-- No call of `system` for `cp`, `jpegtran` and `rm` returns -1. -/
def Converts (o : Outcomes σ) : Prop :=
  o.cp ≠ .failed ∧ o.jpegtran ≠ .failed ∧ o.rm ≠ .failed

/-- `curl` has run and passed the test of its exit status. -/
def Recorded (o : Outcomes σ) : Prop :=
  o.forked = true ∧ ∃ status, o.curl = some status ∧ status.badCurl = false

/-- The cycle has all its scanlines, computed from `wav`. -/
structure Renders (s : State σ) (o : Outcomes σ) (wav : Stored (List UInt8)) : Prop where
  recorded : Recorded o
  decoded : (s.decoded tools o).files.wav = some wav
  long : firstNonzeroSample wav.contents + 1769472 ≤ wav.contents.length

/-- **The ways through a cycle**, each with the state it ends in. -/
inductive BodyOutcome (s : State σ) (o : Outcomes σ) : State σ → Prop
  | unforked (forked : o.forked = false) : BodyOutcome s o { s with running := false }
  | unwaited (forked : o.forked = true) (curl : o.curl = none) : BodyOutcome s o (s.curl o)
  | badCurl (forked : o.forked = true) (status : WaitStatus) (curl : o.curl = some status)
      (bad : status.badCurl = true) : BodyOutcome s o (s.curl o)
  | noWav (recorded : Recorded o) (wav : (s.decoded tools o).files.wav = none) :
      BodyOutcome s o (s.decoded tools o)
  | short (recorded : Recorded o) (wav : Stored (List UInt8))
      (decoded : (s.decoded tools o).files.wav = some wav)
      (short : ¬ firstNonzeroSample wav.contents + 1769472 ≤ wav.contents.length) :
      BodyOutcome s o ((s.decoded tools o).render tools i wav.contents)
  | cpFailed (wav : Stored (List UInt8)) (renders : Renders tools s o wav)
      (cp : o.cp = .failed) : BodyOutcome s o (s.copied tools i o wav.contents)
  | jpegtranFailed (wav : Stored (List UInt8)) (renders : Renders tools s o wav)
      (cp : o.cp ≠ .failed) (jpegtran : o.jpegtran = .failed) :
      BodyOutcome s o ((s.copied tools i o wav.contents).jpegtran o)
  | rmFailed (wav : Stored (List UInt8)) (renders : Renders tools s o wav)
      (cp : o.cp ≠ .failed) (jpegtran : o.jpegtran ≠ .failed) (rm : o.rm = .failed) :
      BodyOutcome s o (s.flipped tools i o wav.contents)
  | announced (wav : Stored (List UInt8)) (completes : Completes tools s o wav) :
      BodyOutcome s o ((s.flipped tools i o wav.contents).announce tools i o)

/-- What follows the recording, with the state after `mpg123` named. -/
theorem afterCurl_curl (s : State σ) (o : Outcomes σ) (status : WaitStatus) :
    (s.curl o).afterCurl tools i o status =
      if status.badCurl then s.curl o
      else
        match (s.decoded tools o).files.wav with
        | none => s.decoded tools o
        | some wav =>
            if (scanlines tools.colors wav.contents).length = 431 then
              ((s.decoded tools o).render tools i wav.contents).convert tools i o
            else (s.decoded tools o).render tools i wav.contents := rfl

theorem convert_outcome {s : State σ} {o : Outcomes σ} {wav : Stored (List UInt8)}
    (renders : Renders tools s o wav) :
    BodyOutcome tools i s o
      (((s.decoded tools o).render tools i wav.contents).convert tools i o) := by
  rw [State.convert]
  by_cases cp : o.cp = .failed
  · rw [if_pos cp]
    exact .cpFailed wav renders cp
  · rw [if_neg cp]
    by_cases jpegtran : o.jpegtran = .failed
    · rw [if_pos jpegtran]
      exact .jpegtranFailed wav renders cp jpegtran
    · rw [if_neg jpegtran]
      by_cases rm : o.rm = .failed
      · rw [if_pos rm]
        exact .rmFailed wav renders cp jpegtran rm
      · rw [if_neg rm]
        obtain ⟨⟨forked, curl⟩, decoded, long⟩ := renders
        exact .announced wav ⟨forked, curl, decoded, long, cp, jpegtran, rm⟩

/-- **A cycle takes one of these ways.** -/
theorem body_outcome (s : State σ) (o : Outcomes σ) :
    BodyOutcome tools i s o (s.body tools i o) := by
  rw [State.body]
  by_cases forked : o.forked = true
  · rw [if_pos forked]
    cases curl : o.curl with
    | none => exact .unwaited forked curl
    | some status =>
        dsimp only
        rw [afterCurl_curl]
        by_cases bad : status.badCurl = true
        · rw [if_pos bad]
          exact .badCurl forked status curl bad
        · rw [if_neg bad]
          have recorded : Recorded o := ⟨forked, status, curl, eq_false_of_ne_true bad⟩
          cases decoded : (s.decoded tools o).files.wav with
          | none => exact .noWav recorded decoded
          | some wav =>
              dsimp only
              by_cases full : (scanlines tools.colors wav.contents).length = 431
              · rw [if_pos full]
                have long := (length_scanlines_eq_iff tools.colors wav.contents).mp full
                exact convert_outcome tools i ⟨recorded, decoded, long⟩
              · rw [if_neg full]
                rw [length_scanlines_eq_iff] at full
                exact .short recorded wav decoded full
  · rw [if_neg forked]
    exact .unforked (eq_false_of_ne_true forked)

/-- **A cycle either announces or leaves the announcements alone.** -/
theorem body_cases (s : State σ) (o : Outcomes σ) :
    (∃ wav, Completes tools s o wav ∧
        s.body tools i o = (s.flipped tools i o wav.contents).announce tools i o) ∨
      ((∀ wav, ¬ Completes tools s o wav) ∧
        (s.body tools i o).announcements = s.announcements) := by
  have outcome := body_outcome tools i s o
  generalize s.body tools i o = t at outcome ⊢
  cases outcome with
  | unforked forked =>
      refine Or.inr ⟨fun wav completes => ?_, rfl⟩
      rw [completes.forked] at forked
      cases forked
  | unwaited forked curl =>
      refine Or.inr ⟨fun wav completes => ?_, rfl⟩
      obtain ⟨status, waited, -⟩ := completes.curl
      rw [curl] at waited
      cases waited
  | badCurl forked status curl bad =>
      refine Or.inr ⟨fun wav completes => ?_, rfl⟩
      obtain ⟨other, waited, good⟩ := completes.curl
      rw [curl, Option.some_inj] at waited
      rw [← waited, bad] at good
      cases good
  | noWav recorded wav =>
      refine Or.inr ⟨fun wav' completes => ?_, rfl⟩
      have found := completes.decoded
      rw [wav] at found
      cases found
  | short recorded wav decoded short =>
      refine Or.inr ⟨fun wav' completes => ?_, rfl⟩
      have found := completes.decoded
      rw [decoded, Option.some_inj] at found
      rw [found] at short
      exact short completes.long
  | cpFailed wav renders cp =>
      refine Or.inr ⟨fun wav' completes => completes.cp cp, ?_⟩
      rw [copied_eq]
      rfl
  | jpegtranFailed wav renders cp jpegtran =>
      refine Or.inr ⟨fun wav' completes => completes.jpegtran jpegtran, ?_⟩
      rw [copied_eq]
      rfl
  | rmFailed wav renders cp jpegtran rm =>
      refine Or.inr ⟨fun wav' completes => completes.rm rm, ?_⟩
      exact flipped_announcements tools i s o wav.contents
  | announced wav completes => exact Or.inl ⟨wav, completes, rfl⟩

/-! ## Dates -/

/-- A `curl` that writes dates its file. -/
theorem curl_mp3_of_some {s : State σ} {o : Outcomes σ} {audio : List UInt8}
    (written : o.mp3 = some audio) : (s.curl o).files.mp3 = some ⟨s.cycle, audio⟩ := by
  rw [State.curl, written]

/-- A `curl` that writes nothing leaves the file of an earlier cycle. -/
theorem curl_mp3_of_none {s : State σ} {o : Outcomes σ} (written : o.mp3 = none) :
    (s.curl o).files.mp3 = s.files.mp3 := by
  rw [State.curl, written]

/-- In cycle `n` no file that `curl` or `jpegtran` writes to carries the number
of a later cycle. -/
structure Dated (n : ℕ) (s : State σ) : Prop where
  cycle : s.cycle = n
  mp3 : ∀ mp3, s.files.mp3 = some mp3 → mp3.cycle ≤ n
  jpg : ∀ jpg, s.files.jpg = some jpg → jpg.cycle ≤ n

namespace Dated

variable {n : ℕ} {s : State σ}

theorem curl (h : Dated n s) (o : Outcomes σ) : Dated n (s.curl o) := by
  refine ⟨h.cycle, fun mp3 found => ?_, h.jpg⟩
  cases written : o.mp3 with
  | some contents =>
      rw [curl_mp3_of_some written] at found
      obtain rfl := Option.some.inj found
      exact h.cycle.le
  | none =>
      rw [curl_mp3_of_none written] at found
      exact h.mp3 mp3 found

theorem jpegtran (h : Dated n s) (o : Outcomes σ) : Dated n (s.jpegtran o) := by
  refine ⟨h.cycle, h.mp3, fun jpg found => ?_⟩
  change output s.cycle _ _ _ _ = some jpg at found
  rw [output] at found
  split at found
  next =>
      obtain rfl := Option.some.inj found
      exact h.cycle.le
  next => exact h.jpg jpg found

theorem rm (h : Dated n s) (o : Outcomes σ) : Dated n (s.rm o) := by
  rw [State.rm]
  split
  next => exact ⟨h.cycle, h.mp3, h.jpg⟩
  next => exact h

theorem body (h : Dated n s) (o : Outcomes σ) : Dated n (s.body tools i o) := by
  have recorded : Dated n (s.curl o) := h.curl o
  -- `mpg123`, the rendering, `cp` and the announcement write to other files
  have decoded : Dated n (s.decoded tools o) := ⟨recorded.cycle, recorded.mp3, recorded.jpg⟩
  have copied : ∀ wav, Dated n (s.copied tools i o wav) := fun _ =>
    ⟨decoded.cycle, decoded.mp3, decoded.jpg⟩
  have outcome := body_outcome tools i s o
  generalize s.body tools i o = t at outcome ⊢
  cases outcome with
  | unforked forked => exact ⟨h.cycle, h.mp3, h.jpg⟩
  | unwaited forked curl => exact recorded
  | badCurl forked status curl bad => exact recorded
  | noWav _ wav => exact decoded
  | short _ wav _ short => exact ⟨decoded.cycle, decoded.mp3, decoded.jpg⟩
  | cpFailed wav renders cp => exact copied wav.contents
  | jpegtranFailed wav renders cp jpegtran => exact (copied wav.contents).jpegtran o
  | rmFailed wav renders cp jpegtran rm => exact ((copied wav.contents).jpegtran o).rm o
  | announced wav completes =>
      have removed := ((copied wav.contents).jpegtran o).rm o
      exact ⟨removed.cycle, removed.mp3, removed.jpg⟩

end Dated

/-- Between two cycles every file is older than the cycle to come. -/
structure Left (s : State σ) : Prop where
  mp3 : ∀ mp3, s.files.mp3 = some mp3 → mp3.cycle < s.cycle
  jpg : ∀ jpg, s.files.jpg = some jpg → jpg.cycle < s.cycle

theorem left_start (mp3 wav : Option (List UInt8)) (jpgNew jpgOld jpg : Option (Jpeg σ))
    (sample_json : Json) : Left (start mp3 wav jpgNew jpgOld jpg sample_json) := by
  constructor
  · intro file found
    obtain ⟨contents, -, rfl⟩ := Option.map_eq_some_iff.mp found
    exact Nat.zero_lt_one
  · intro file found
    obtain ⟨contents, -, rfl⟩ := Option.map_eq_some_iff.mp found
    exact Nat.zero_lt_one

theorem step_eq_some {s t : State σ} {o : Outcomes σ} (h : step tools i s o = some t) :
    t = { s.body tools i o with cycle := s.cycle + 1 } := by
  rw [step, Option.ite_none_right_eq_some] at h
  exact (Option.some.inj h.2).symm

theorem Left.step {s t : State σ} {o : Outcomes σ} (h : Left s)
    (hstep : step tools i s o = some t) : Left t := by
  have dated : Dated s.cycle s :=
    ⟨rfl, fun mp3 found => (h.mp3 mp3 found).le, fun jpg found => (h.jpg jpg found).le⟩
  have after := dated.body tools i o
  rw [step_eq_some tools i hstep]
  exact ⟨fun mp3 found => Nat.lt_succ_of_le (after.mp3 mp3 found),
    fun jpg found => Nat.lt_succ_of_le (after.jpg jpg found)⟩

/-! ## Fresh and sound -/

theorem flip_eq_complete {jpeg : Jpeg σ} {rows : List σ} :
    jpeg.flip = .complete rows.reverse ↔ jpeg = .complete rows := by
  cases jpeg with
  | complete scanlines =>
      rw [Jpeg.flip, Jpeg.complete.injEq, Jpeg.complete.injEq]
      exact List.reverse_inj
  | incomplete =>
      rw [Jpeg.flip]
      simp

/-- What `mpg123` leaves if it succeeds on a new recording. -/
theorem decoded_wav {s : State σ} {o : Outcomes σ} {audio : List UInt8}
    (written : o.mp3 = some audio) (mpg123 : o.mpg123 = .success) :
    (s.decoded tools o).files.wav = some ⟨s.cycle, tools.decode audio⟩ := by
  show output s.cycle o.mpg123 ((s.curl o).files.mp3.map _) o.wav s.files.wav = _
  rw [output, if_pos mpg123, curl_mp3_of_some written]
  rfl

/-- **An announcement is fresh exactly when its cycle is sound.** -/
theorem announced_fresh_iff {s : State σ} {o : Outcomes σ} {wav : Stored (List UInt8)}
    (left : Left s) (completes : Completes tools s o wav) (sample_json : Json) :
    ({ cycle := s.cycle, outcomes := o, files := (s.flipped tools i o wav.contents).files,
       sample_json := sample_json } : Announcement σ).Fresh tools ↔ Sound tools i s o := by
  have full := (length_scanlines_eq_iff tools.colors wav.contents).mpr completes.long
  have finished : rendered tools wav.contents =
      .complete (scanlines tools.colors wav.contents) := if_pos full
  rw [Announcement.Fresh]
  dsimp only
  rw [flipped_mp3, flipped_wav, flipped_jpgNew, flipped_jpg, completes.decoded, finished]
  constructor
  · rintro ⟨curl, mpg123, jpegtran, audio, rows, mp3, wav_eq, rows_eq, -, -, jpg⟩ other again
    obtain rfl := Option.some.inj (completes.decoded.symm.trans again.decoded)
    rw [Option.some_inj] at wav_eq
    refine ⟨fun signal killed => ?_, ?_, mpg123, ?_, jpegtran⟩
    · rw [curl] at killed
      cases killed
    · -- without new contents `i.mp3` would be older than the cycle
      cases written : o.mp3 with
      | some contents => rfl
      | none =>
          rw [curl_mp3_of_none written] at mp3
          exact absurd (left.mp3 _ mp3) (Nat.lt_irrefl _)
    · rw [output, if_pos jpegtran] at jpg
      cases copied : (s.copied tools i o wav.contents).files.jpgOld with
      | none =>
          rw [copied] at jpg
          exact absurd (left.jpg _ jpg) (Nat.lt_irrefl _)
      | some old =>
          rw [copied] at jpg
          have contents : old.contents.flip = .complete rows.reverse :=
            congrArg Stored.contents (Option.some.inj jpg)
          rw [Option.map_some, flip_eq_complete.mp contents, rows_eq, wav_eq]
  · intro sound
    obtain ⟨alive, written, mpg123, copied, jpegtran⟩ := sound wav completes
    obtain ⟨audio, written⟩ := Option.isSome_iff_exists.mp written
    have curl : o.curl = some (.exited 28) := by
      obtain ⟨status, waited, good⟩ := completes.curl
      cases status with
      | exited es =>
          rw [waited, of_not_not (of_decide_eq_false good)]
      | signaled signal => exact absurd waited (alive signal)
    have wav_eq : wav = ⟨s.cycle, tools.decode audio⟩ :=
      Option.some.inj (completes.decoded.symm.trans (decoded_wav tools written mpg123))
    obtain ⟨old, present, contents⟩ := Option.map_eq_some_iff.mp copied
    refine ⟨curl, mpg123, jpegtran, audio, scanlines tools.colors wav.contents,
      curl_mp3_of_some written, ?_, ?_, full, rfl, ?_⟩
    · rw [wav_eq]
    · rw [wav_eq]
    · rw [output, if_pos jpegtran, present, Option.map_some, flip_eq_complete.mpr contents]

/-- What the critical section leaves in `sample_json`. -/
theorem announce_eq (put_time : ℤ → String) (sample_json : Json) (scheduleTime : ℤ) :
    Announcements.announce put_time sample_json i scheduleTime =
      .object [("Image Name", .string (toString (i : ℕ) ++ ".jpg")),
        ("Image Time", .string (put_time scheduleTime)), ("Served", .bool true)] := by
  rw [Announcements.announce, Json.set_clear]
  rfl

/-- **One cycle keeps the announcements fresh exactly when it is sound.** -/
theorem allFresh_step_iff {s t : State σ} {o : Outcomes σ} (left : Left s)
    (fresh : AllFresh tools i s) (hstep : step tools i s o = some t) :
    AllFresh tools i t ↔ Sound tools i s o := by
  have announcements : t.announcements = (s.body tools i o).announcements := by
    rw [step_eq_some tools i hstep]
  rw [AllFresh, announcements]
  rcases body_cases tools i s o with ⟨wav, completes, announced⟩ | ⟨stopped, same⟩
  · rw [announced]
    show (∀ a ∈ (s.flipped tools i o wav.contents).announcements ++ [_], _) ↔ _
    rw [flipped_announcements, flipped_cycle, announce_eq,
      ← announced_fresh_iff tools i left completes]
    constructor
    · intro all
      exact (all _ (List.mem_append_right _ (List.mem_singleton_self _))).1
    · intro new a member
      rcases List.mem_append.mp member with earlier | last
      · exact fresh a earlier
      · rw [List.mem_singleton.mp last]
        exact ⟨new, rfl⟩
  · rw [same]
    exact iff_of_true fresh fun wav completes => absurd completes (stopped wav)

/-- **Every announcement of a run is fresh exactly as long as its cycles are sound**, for
every thread, every sequence of results of the programs and whatever an earlier process
has left in the files.  A cycle that is not sound and still gets to its announcement
announces something old, or something that is not whole. -/
theorem fresh_iff_sound (mp3 wav : Option (List UInt8)) (jpgNew jpgOld jpg : Option (Jpeg σ))
    (sample_json : Json) (cycles : List (Outcomes σ)) :
    (capture tools i).Throughout (AllFresh tools i)
        (start mp3 wav jpgNew jpgOld jpg sample_json) cycles ↔
      (capture tools i).Along (Sound tools i)
        (start mp3 wav jpgNew jpgOld jpg sample_json) cycles := by
  refine (capture tools i).throughout_iff_along Left (fun _ _ _ left _ hstep _ => ?_)
    (fun _ _ _ left fresh hstep => ?_) (left_start mp3 wav jpgNew jpgOld jpg sample_json)
    (fun a member => ?_)
  · exact left.step tools i hstep
  · exact allFresh_step_iff tools i left fresh hstep
  · cases member

/-- A recording left by an earlier cycle. -/
@[irreducible] def leftover : List UInt8 := List.replicate 2000000 1

/-- `curl` is killed before it writes anything; the other programs succeed. -/
def killedCurl : Outcomes ℕ where
  scheduleTime := 20
  forked := true
  curl := some (.signaled 9)
  mp3 := none
  mpg123 := .success
  wav := none
  cp := .success
  jpgOld := none
  jpegtran := .success
  jpg := none
  rm := .success

/-- A decoder for files that are not compressed. -/
def plainTools : Tools ℕ where
  decode := id
  colors _ := 0
  put_time _ := ""

theorem completes_killedCurl :
    Completes plainTools (start (some leftover) none none none none .null) killedCurl
      ⟨1, leftover⟩ := by
  have length : leftover.length = 2000000 := by
    rw [leftover, List.length_replicate]
  have bound := firstNonzeroSample_le leftover
  have long : ∀ wav : Stored (List UInt8), wav.contents = leftover →
      firstNonzeroSample wav.contents + 1769472 ≤ wav.contents.length := by
    intro wav same
    rw [same, length]
    exact (Nat.add_le_add_right bound _).trans (by omega)
  exact ⟨rfl, ⟨.signaled 9, rfl, rfl⟩, rfl, long _ rfl, by decide, by decide, by decide⟩

/-- The thread announces the old recording under the new time: a `curl` that was killed
has passed the test, and everything after it works on the file of the cycle before. -/
theorem not_fresh_after_killedCurl :
    ∃ t, (capture plainTools 0).run (start (some leftover) none none none none .null)
        [killedCurl] = some t ∧
      t.announcements.map (fun a => (a.cycle, a.outcomes.scheduleTime)) = [(1, 20)] ∧
      t.announcements.map (fun a => a.files.mp3.map Stored.cycle) = [some 0] ∧
      ¬ AllFresh plainTools 0 t := by
  rcases body_cases plainTools 0 (start (some leftover) none none none none .null)
    killedCurl with ⟨wav, completes, announced⟩ | ⟨stopped, -⟩
  · refine ⟨_, rfl, ?_, ?_, fun fresh => ?_⟩
    · rw [announced]
      rfl
    · rw [announced]
      rfl
    · rw [announced] at fresh
      have curl := (fresh _ (List.mem_append_right _ (List.mem_singleton_self _))).1.1
      cases curl
  · exact absurd completes_killedCurl (stopped _)

end SpectrogramServers.CloudServer.Capture
