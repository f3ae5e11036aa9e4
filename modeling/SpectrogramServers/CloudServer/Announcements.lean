import Mathlib.Data.Int.Notation
import Mathlib.Logic.Function.Basic
import SpectrogramServers.Json
import SpectrogramServers.Lib.Machine

/-!
# Announcements in `cloudServer`

Ten capture threads publish finished images through one global `sample_json`: each fills
it under the unique lock of `socket_mutex` and calls `socket_cv.notify_all()` after
releasing the lock.  Every connection has a thread that loops over `socket_cv.wait(lock)`,
which has no predicate, and sends whatever `sample_json` holds.

## The machine

A notify thread is at the top of its loop, blocked in the wait, woken and about to
reacquire the mutex, or gone.  Between being woken and reading, any number of
announcements may be made: this is where messages are lost, so it is a place of its own.
Wake-ups without a notification are allowed to the standard library and are steps
(`wake`).  A capture thread's two statements, the critical section and `notify_all`, are
two steps as well, since a notify thread can go to wait between them.

## Numbers

A message is the number of the announcement it was made by, and the JSON value; the value
before the first announcement is `null` and has no number.  So sending an old value again
is told apart from a new announcement that looks the same.  The numbers are history: no
thread reads them.

`Delivered` is what the server is for: every connection is sent, in order, what has been
announced since it first waited, and at most the announcement still in `sample_json` is
unsent.  `InStep` is the condition on the schedule; `Delivery` proves that they agree.
-/

namespace SpectrogramServers.CloudServer.Announcements

universe u

/-- The number of an announcement and what was announced. -/
abbrev Message := Option ℕ × Json

/-- The assignments a capture thread makes to `sample_json`, with `put_time` the rendering
of a time in the local zone.  The `clear` in front makes the old value irrelevant. -/
def announce (put_time : ℤ → String) (sample_json : Json) (i : Fin 10) (scheduleTime : ℤ) :
    Json :=
  ((sample_json.clear.set "Image Name" (.string (toString (i : ℕ) ++ ".jpg"))).set
    "Image Time" (.string (put_time scheduleTime))).set "Served" (.bool true)

/-- Where the loop of a notify thread stands: before the test of `status_`,
blocked in `socket_cv.wait`, woken and about to reacquire `socket_mutex`, or
left. -/
inductive Place where
  | top
  | waiting
  | woken
  | left
  deriving DecidableEq

/-- The variables of a notify thread.  The last three fields are history: how
many announcements had been made when it first waited, how many when it last
read `sample_json` (or first waited), and the messages it has sent. -/
structure NotifyThread where
  place : Place
  status_ : ℤ
  joined : Option ℕ
  heard : ℕ
  sent : List Message
  deriving DecidableEq

/-- Where a capture thread stands: outside the last two statements of its cycle,
or between the critical section and `notify_all`. -/
inductive CaptureThread where
  | capturing
  | announced
  deriving DecidableEq

/-- The shared variables and the threads; `announcements` is history. -/
structure State (C : Type u) where
  sample_json : Message
  captureThreads : Fin 10 → CaptureThread
  notifyThreads : C → Option NotifyThread
  announcements : List Message

inductive Event (C : Type u) where
  /-- `on_open`: the notify thread of `c` is started. -/
  | opened (c : C)
  /-- The loop of `c` tests `status_`, locks `socket_mutex` and waits. -/
  | wait (c : C)
  /-- A spurious wake-up of `c`. -/
  | wake (c : C)
  /-- `c`, woken, reacquires `socket_mutex` and sends `sample_json.dump()`. -/
  | send (c : C)
  /-- The completion of a send of `c` reports an error. -/
  | sendFailed (c : C)
  /-- Capture thread `i` fills `sample_json` in its critical section. -/
  | announce (i : Fin 10) (scheduleTime : ℤ)
  /-- Capture thread `i` calls `socket_cv.notify_all()`. -/
  | notify_all (i : Fin 10)

/-- The notify thread when it starts. -/
def NotifyThread.fresh : NotifyThread where
  place := .top
  status_ := 0
  joined := none
  heard := 0
  sent := []

/-- The test of the loop, the lock and the start of the wait; `n` announcements
have been made. -/
def NotifyThread.wait (n : ℕ) (thread : NotifyThread) : NotifyThread :=
  if thread.status_ = 0 then
    { thread with
      place := .waiting
      joined := some (thread.joined.getD n)
      heard := if thread.joined.isSome then thread.heard else n }
  else { thread with place := .left }

/-- After `socket_cv.wait` has returned. -/
def NotifyThread.send (n : ℕ) (sample_json : Message) (thread : NotifyThread) :
    NotifyThread :=
  if thread.status_ ≠ 0 then { thread with place := .left }
  else { thread with place := .top, heard := n, sent := thread.sent ++ [sample_json] }

/-- `notify_all` wakes a thread that is waiting. -/
def NotifyThread.notified (thread : NotifyThread) : NotifyThread :=
  if thread.place = .waiting then { thread with place := .woken } else thread

section Steps

variable {C : Type u} [DecidableEq C]

/-- Replaces the notify thread of `c`. -/
def State.setThread (s : State C) (c : C) (thread : NotifyThread) : State C :=
  { s with notifyThreads := Function.update s.notifyThreads c (some thread) }

/-- A step of the notify thread of `c`, taken only where it stands at `place`. -/
def State.moveThread (s : State C) (c : C) (enabled : NotifyThread → Bool)
    (move : NotifyThread → NotifyThread) : Option (State C) :=
  (s.notifyThreads c).bind fun thread =>
    if enabled thread then some (s.setThread c (move thread)) else none

/-- The critical section of capture thread `i`. -/
def State.announced (put_time : ℤ → String) (s : State C) (i : Fin 10) (scheduleTime : ℤ) :
    State C :=
  let message : Message :=
    (some s.announcements.length, announce put_time s.sample_json.2 i scheduleTime)
  { s with
    sample_json := message
    captureThreads := Function.update s.captureThreads i .announced
    announcements := s.announcements ++ [message] }

/-- `socket_cv.notify_all()` of capture thread `i`. -/
def State.notified (s : State C) (i : Fin 10) : State C :=
  { s with
    captureThreads := Function.update s.captureThreads i .capturing
    notifyThreads := fun c => (s.notifyThreads c).map NotifyThread.notified }

def step (put_time : ℤ → String) (s : State C) : Event C → Option (State C)
  | .opened c => if s.notifyThreads c = none then some (s.setThread c .fresh) else none
  | .wait c => s.moveThread c (fun thread => thread.place = .top)
      (NotifyThread.wait s.announcements.length)
  | .wake c => s.moveThread c (fun thread => thread.place = .waiting)
      fun thread => { thread with place := .woken }
  | .send c => s.moveThread c (fun thread => thread.place = .woken)
      (NotifyThread.send s.announcements.length s.sample_json)
  | .sendFailed c => s.moveThread c (fun thread => thread.sent ≠ [])
      fun thread => { thread with status_ := -1 }
  | .announce i scheduleTime =>
      if s.captureThreads i = .capturing then some (s.announced put_time i scheduleTime)
      else none
  | .notify_all i =>
      if s.captureThreads i = .announced then some (s.notified i) else none

/-- The server before the first connection and the first announcement. -/
def start : State C where
  sample_json := (none, .null)
  captureThreads _ := .capturing
  notifyThreads _ := none
  announcements := []

/-- The notify threads and the capture threads of `cloudServer`. -/
def announcing (put_time : ℤ → String) : Machine (State C) (Event C) where
  init s := s = start
  step := step put_time

end Steps

/-! ## The property and the condition it depends on -/

section Property

variable {C : Type u}

/-- Some capture thread has announced and not notified yet. -/
def State.Notifying (s : State C) : Prop := ∃ i, s.captureThreads i = .announced

/-- What a thread that first waited after `joined` announcements is to send. -/
def State.due (s : State C) (joined : ℕ) : List Message := s.announcements.drop joined

/-- One connection is served: it has sent nothing but the announcements made after it
first waited, each once and in order.  While its loop runs, at most the announcement still
in `sample_json` is unsent; and none is when it waits with no notification to come. -/
structure NotifyThread.Served (s : State C) (thread : NotifyThread) (joined : ℕ) : Prop where
  inOrder : thread.sent <+: s.due joined
  upToOne : thread.status_ = 0 → (s.due joined).length ≤ thread.sent.length + 1
  complete : thread.status_ = 0 → thread.place = .waiting → ¬ s.Notifying →
    thread.sent = s.due joined

/-- Every connection that has waited is served. -/
def Delivered (s : State C) : Prop :=
  ∀ c thread joined, s.notifyThreads c = some thread → thread.joined = some joined →
    thread.Served s joined

/-- The running loop of `c` has waited and has not read `sample_json` since the
last announcement. -/
def State.Behind (s : State C) (c : C) : Prop :=
  ∃ thread, s.notifyThreads c = some thread ∧ thread.status_ = 0 ∧
    thread.joined.isSome ∧ thread.heard < s.announcements.length

/-- The loop of `c` has left or is leaving. -/
def State.Ending (s : State C) (c : C) : Prop :=
  ∃ thread, s.notifyThreads c = some thread ∧ thread.status_ ≠ 0

/-- The condition on a step.  An announcement is made when nobody is behind with the last
one; a running loop sends when it is behind; and it goes to wait while it is behind only
if a notification is still to come. -/
def InStep (s : State C) : Event C → Prop
  | .announce _ _ => ∀ c, ¬ s.Behind c
  | .send c => s.Behind c ∨ s.Ending c
  | .wait c => s.Behind c → s.Notifying
  | _ => True

end Property

end SpectrogramServers.CloudServer.Announcements
