import SpectrogramServers.CloudServer.Announcements
import SpectrogramServers.CloudServer.Scanlines

/-!
# The cycle of a capture thread

In every cycle capture thread `i` has `curl` record `i.mp3`, has `mpg123` decode it to
`i.wav`, computes a picture into `i.jpg.new`, has it copied to `i.jpg.old` by `cp` and
flipped into `i.jpg` by `jpegtran`, and announces `i.jpg`.

## The environment

The five programs are not part of the repository.  A run is a list of `Outcomes`, one for
each cycle: the status every program ends with, and what it has written if it did not
succeed.  All that is assumed of them is what they document: a program that ends with exit
status 0 has produced its output from its input.  A program that fails may leave anything
in its output file, or the file that was there (`output`).

`curl` is run by a child process and is different: it records until its `--speed-time` is
over and reports that with status 28, so its status says nothing about what it has
written.

## Which results are tested

`State.body` is the loop's body with its tests as the source has them.  They are few, and
`Freshness` and `FailedCycles` say what that costs.  A test that fails ends the cycle with
`continue`; only a `fork` that fails ends the thread.

Files carry the number of the cycle that wrote them, so that a file left over from an
earlier cycle is told apart from one written in this cycle.  Announcements are history,
with the files as they were when they were made.
-/

namespace SpectrogramServers.CloudServer.Capture

open Scanlines

universe u

/-- What `waitpid` stores: `WIFEXITED` with its exit status, or the signal. -/
inductive WaitStatus where
  | exited (es : ℕ)
  | signaled (signal : ℕ)
  deriving DecidableEq

/-- What `system` returns: -1, or how the command ended. -/
inductive SystemStatus where
  | failed
  | ended (status : WaitStatus)
  deriving DecidableEq

/-- The command ended with exit status 0. -/
def SystemStatus.success : SystemStatus := .ended (.exited 0)

/-- A file, with the number of the cycle that wrote it last. -/
structure Stored (β : Type u) where
  cycle : ℕ
  contents : β
  deriving DecidableEq

/-- A JPEG file: finished with all its scanlines, or not. -/
inductive Jpeg (σ : Type u) where
  | complete (scanlines : List σ)
  | incomplete
  deriving DecidableEq

/-- `jpegtran -flip vertical`. -/
def Jpeg.flip {σ : Type u} : Jpeg σ → Jpeg σ
  | .complete scanlines => .complete scanlines.reverse
  | .incomplete => .incomplete

/-- `i.mp3`, `i.wav`, `i.jpg.new`, `i.jpg.old` and `i.jpg`. -/
structure Files (σ : Type u) where
  mp3 : Option (Stored (List UInt8))
  wav : Option (Stored (List UInt8))
  jpgNew : Option (Stored (Jpeg σ))
  jpgOld : Option (Stored (Jpeg σ))
  jpg : Option (Stored (Jpeg σ))

/-- What the environment does in one cycle.  `curl` is `none` where `waitpid`
fails; `mp3` is what `curl` has written, and `wav`, `jpgOld` and `jpg` what
`mpg123`, `cp` and `jpegtran` have written if they do not succeed. -/
structure Outcomes (σ : Type u) where
  scheduleTime : ℤ
  forked : Bool
  curl : Option WaitStatus
  mp3 : Option (List UInt8)
  mpg123 : SystemStatus
  wav : Option (List UInt8)
  cp : SystemStatus
  jpgOld : Option (Jpeg σ)
  jpegtran : SystemStatus
  jpg : Option (Jpeg σ)
  rm : SystemStatus

/-- The thread at the moment it sets `sample_json`. -/
structure Announcement (σ : Type u) where
  cycle : ℕ
  outcomes : Outcomes σ
  files : Files σ
  sample_json : Json

/-- A capture thread and its files.  `openStreams` are the `FILE`s it has open,
`announcements` is history. -/
structure State (σ : Type u) where
  cycle : ℕ
  running : Bool
  files : Files σ
  openStreams : List String
  sample_json : Json
  announcements : List (Announcement σ)

/-- The decoder, the colours of a scanline and the rendering of a time. -/
structure Tools (σ : Type u) where
  decode : List UInt8 → List UInt8
  colors : List ℚ → σ
  put_time : ℤ → String

/-- A file after a program has run in cycle `cycle`: its result if it succeeded,
what it has `written` otherwise, and the old file if that is nothing. -/
def output {β : Type u} (cycle : ℕ) (status : SystemStatus) (result written : Option β)
    (old : Option (Stored β)) : Option (Stored β) :=
  match if status = .success then result else written with
  | some contents => some ⟨cycle, contents⟩
  | none => old

section Cycle

variable {σ : Type u} (tools : Tools σ) (i : Fin 10)

/-- A stream that is opened and has to be closed again. -/
def State.fopen (s : State σ) (name : String) : State σ :=
  { s with openStreams := name :: s.openStreams }

def State.fclose (s : State σ) (name : String) : State σ :=
  { s with openStreams := s.openStreams.erase name }

/-- The child process runs `curl`, which writes `i.mp3` or leaves it as it was. -/
def State.curl (s : State σ) (o : Outcomes σ) : State σ :=
  { s with
    files :=
      { s.files with
        mp3 := match o.mp3 with
          | some contents => some ⟨s.cycle, contents⟩
          | none => s.files.mp3 } }

/-- `system(mpgCommand)`. -/
def State.mpg123 (s : State σ) (o : Outcomes σ) : State σ :=
  { s with
    files :=
      { s.files with
        wav := output s.cycle o.mpg123 (s.files.mp3.map fun mp3 => tools.decode mp3.contents)
          o.wav s.files.wav } }

/-- The image file after the row loop: finished if `scanLineCounter` is 431. -/
def rendered (wav : List UInt8) : Jpeg σ :=
  if (scanlines tools.colors wav).length = 431 then .complete (scanlines tools.colors wav)
  else .incomplete

/-- From `fopen` of the wav file to the two `fclose` calls. -/
def State.render (s : State σ) (wav : List UInt8) : State σ :=
  let s := (s.fopen (toString (i : ℕ) ++ ".wav")).fopen (toString (i : ℕ) ++ ".jpg.new")
  let s := { s with files := { s.files with jpgNew := some ⟨s.cycle, rendered tools wav⟩ } }
  (s.fclose (toString (i : ℕ) ++ ".jpg.new")).fclose (toString (i : ℕ) ++ ".wav")

/-- `system(cp_call)`. -/
def State.cp (s : State σ) (o : Outcomes σ) : State σ :=
  { s with
    files :=
      { s.files with
        jpgOld := output s.cycle o.cp (s.files.jpgNew.map Stored.contents) o.jpgOld
          s.files.jpgOld } }

/-- `system(flip_call)`. -/
def State.jpegtran (s : State σ) (o : Outcomes σ) : State σ :=
  { s with
    files :=
      { s.files with
        jpg := output s.cycle o.jpegtran (s.files.jpgOld.map fun old => old.contents.flip) o.jpg
          s.files.jpg } }

/-- `system(rm_call)`. -/
def State.rm (s : State σ) (o : Outcomes σ) : State σ :=
  if o.rm = .success then { s with files := { s.files with jpgOld := none } } else s

/-- The critical section that announces the image. -/
def State.announce (s : State σ) (o : Outcomes σ) : State σ :=
  let sample_json :=
    Announcements.announce tools.put_time s.sample_json i o.scheduleTime
  { s with
    sample_json := sample_json
    announcements := s.announcements ++
      [{ cycle := s.cycle, outcomes := o, files := s.files, sample_json := sample_json }] }

/-- The asynchronous `cp`, `jpegtran` and `rm`, each stopped by a status -1 of
the one before, and the announcement if none of them returned -1. -/
def State.convert (s : State σ) (o : Outcomes σ) : State σ :=
  let s := s.cp o
  if o.cp = .failed then s
  else
    let s := s.jpegtran o
    if o.jpegtran = .failed then s
    else
      let s := s.rm o
      if o.rm = .failed then s else s.announce tools i o

/-- `WIFEXITED(status)` with an exit status other than 28. -/
def WaitStatus.badCurl : WaitStatus → Bool
  | .exited es => es ≠ 28
  | .signaled _ => false

/-- What follows a `waitpid` that returned the child's status. -/
def State.afterCurl (s : State σ) (o : Outcomes σ) (status : WaitStatus) : State σ :=
  if status.badCurl then s
  else
    let s := s.mpg123 tools o
    match s.files.wav with
    | none => s
    | some wav =>
        let s := s.render tools i wav.contents
        if (scanlines tools.colors wav.contents).length = 431 then s.convert tools i o else s

/-- The body of `while (true)`; a failed `fork` leaves the loop. -/
def State.body (s : State σ) (o : Outcomes σ) : State σ :=
  if o.forked then
    let s := s.curl o
    match o.curl with
    | none => s
    | some status => s.afterCurl tools i o status
  else { s with running := false }

/-- One cycle.  A thread that has left its loop takes no more. -/
def step (s : State σ) (o : Outcomes σ) : Option (State σ) :=
  if s.running then some { s.body tools i o with cycle := s.cycle + 1 } else none

/-- The thread before its first cycle, with whatever an earlier process has left
in its files; these count as written in cycle 0. -/
def start (mp3 wav : Option (List UInt8)) (jpgNew jpgOld jpg : Option (Jpeg σ))
    (sample_json : Json) : State σ where
  cycle := 1
  running := true
  files :=
    { mp3 := mp3.map (Stored.mk 0)
      wav := wav.map (Stored.mk 0)
      jpgNew := jpgNew.map (Stored.mk 0)
      jpgOld := jpgOld.map (Stored.mk 0)
      jpg := jpg.map (Stored.mk 0) }
  openStreams := []
  sample_json := sample_json
  announcements := []

/-- Capture thread `i`. -/
def capture : Machine (State σ) (Outcomes σ) where
  init s := ∃ mp3 wav jpgNew jpgOld jpg sample_json,
    s = start mp3 wav jpgNew jpgOld jpg sample_json
  step := step tools i

end Cycle

end SpectrogramServers.CloudServer.Capture
