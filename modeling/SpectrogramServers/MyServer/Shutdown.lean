import SpectrogramServers.MyServer.PoolCapacity

/-!
# The destructor of the websocket server

`~IQWebSocketServer` stops the library, joins `serverThread`, clears `runImageThread`,
notifies both condition variables and joins `imageThread`.  Does it return?

## What the joins wait for

`serverThread` ends when every handler on its pool has returned.  A handler of `on_open`
returns when a send has failed, but may have to be woken for that, and only the image
thread notifies `socket_cv` before the join.  Nobody makes it: the destructor runs on the
thread that called `writeToBuffer`.  `server->stop()` stops the `io_service`, so that the
pool starts no further handler: no connection is opened and no callback runs from then on.
A handler that is being served when the destructor is called is therefore never told to
leave.

`imageThread` ends at the test of `runImageThread`.  The flag is cleared without the mutex
of `image_cv`, so a thread that is past the test and not yet waiting misses the
notification.

## The model

Neither wait has a predicate.  What is load-bearing is therefore where every thread stands
when the destructor makes a move; the waits tell a notified thread from one that wakes up
spuriously, so that a way out which depends on a spurious wake-up is not counted
(`Leads`).

`Returning` is the property, that the destructor can still return; `Blocked` says that it
is in a join and cannot. `Orderly` is the condition on a step.  `ShutdownReturns` proves
that the orderly runs are exactly those on which the destructor can return from every
state.
-/

namespace SpectrogramServers.MyServer.Shutdown

open Admission PoolCapacity

universe u v

/-- Where the image thread stands: before the test of `runImageThread`, past it,
blocked in `image_cv.wait`, woken, about to notify `socket_cv`, or returned. -/
inductive ImagePlace where
  | testing
  | locking
  | waiting
  | woken
  | notifying
  | ended
  deriving DecidableEq

/-- Where the destructor stands: not called, or past `server->stop()`, past the join of
`serverThread`, past the assignment, past either notification, or past the join of
`imageThread`. -/
inductive Destructor where
  | outside
  | stopped
  | joined
  | cleared
  | imageNotified
  | socketNotified
  | finished
  deriving DecidableEq

/-- The handlers on the pool, those of them that have been notified and not run since,
the image thread and the destructor. -/
structure State (Conn : Type u) (Addr : Type v) where
  server : PoolCapacity.State Conn Addr
  notified : List Conn
  imageThread : ImagePlace
  runImageThread : Bool
  destructor : Destructor

inductive Event (Conn : Type u) where
  /-- A step of a handler or a callback; a wait returns after a notification. -/
  | handler (e : Admission.Event Conn)
  /-- `socket_cv.wait` of `c` returns spuriously. -/
  | handlerWakes (c : Conn) (sample_json : Json)
  /-- `writeToBuffer` calls `image_cv.notify_all()`. -/
  | writeToBuffer
  /-- The test `while(runImageThread)`. -/
  | imageTests
  /-- The image thread locks `image_mutex` and waits. -/
  | imageWaits
  /-- `image_cv.wait` returns spuriously. -/
  | imageWakes
  /-- The pass over the files, which may close one. -/
  | imagePasses (closes : Bool)
  /-- `socket_cv.notify_all()` of `closeFile`. -/
  | imageNotifies
  /-- The next step of the destructor. -/
  | destruct

variable {Conn : Type u} {Addr : Type v} [DecidableEq Conn] [DecidableEq Addr]

/-! ## Steps -/

/-- `socket_cv.notify_all()`. -/
def State.notifySocket (s : State Conn Addr) : State Conn Addr :=
  { s with
    notified := s.server.pool.filter fun c => (s.server.handler c).place = .waiting }

/-- `image_cv.notify_all()`. -/
def State.notifyImage (s : State Conn Addr) : State Conn Addr :=
  { s with imageThread := if s.imageThread = .waiting then .woken else s.imageThread }

/-- Which steps of the handlers there are: after `server->stop()` the pool starts no
handler, and a wait returns to a handler that has been notified. -/
def State.allows (s : State Conn Addr) : Admission.Event Conn → Bool
  | .opened _ | .completed _ _ => s.destructor = .outside
  | .woken c _ => c ∈ s.notified
  | .test _ | .poll _ | .released _ => true

/-- What a step of a handler does to `notified`. -/
def State.heard (s : State Conn Addr) : Admission.Event Conn → List Conn
  | .woken c _ => s.notified.erase c
  | _ => s.notified

/-- A step of the handlers. -/
def State.serve (addr : Conn → Addr) (s : State Conn Addr) (e : Admission.Event Conn) :
    Option (State Conn Addr) :=
  (PoolCapacity.step addr s.server e).map fun server =>
    { s with server := server, notified := s.heard e }

/-- The statements of the destructor, one after the other. -/
def State.destruct (s : State Conn Addr) : Option (State Conn Addr) :=
  match s.destructor with
  | .outside => some { s with destructor := .stopped }
  | .stopped =>
      if s.server.pool = [] then some { s with destructor := .joined } else none
  | .joined => some { s with runImageThread := false, destructor := .cleared }
  | .cleared => some { s.notifyImage with destructor := .imageNotified }
  | .imageNotified => some { s.notifySocket with destructor := .socketNotified }
  | .socketNotified =>
      if s.imageThread = .ended then some { s with destructor := .finished } else none
  | .finished => none

/-- One step of a thread.  Of the destructor's statements only the two joins can be
disabled. -/
def step (addr : Conn → Addr) (s : State Conn Addr) : Event Conn → Option (State Conn Addr)
  | .handler e => if s.allows e then s.serve addr e else none
  | .handlerWakes c sample_json => s.serve addr (.woken c sample_json)
  | .writeToBuffer => if s.destructor = .outside then some s.notifyImage else none
  | .imageTests =>
      if s.imageThread = .testing then
        some { s with imageThread := if s.runImageThread then .locking else .ended }
      else none
  | .imageWaits =>
      if s.imageThread = .locking then some { s with imageThread := .waiting } else none
  | .imageWakes =>
      if s.imageThread = .waiting then some { s with imageThread := .woken } else none
  | .imagePasses closes =>
      if s.imageThread = .woken then
        some { s with imageThread := if closes then .notifying else .testing }
      else none
  | .imageNotifies =>
      if s.imageThread = .notifying then
        some { s.notifySocket with imageThread := .testing }
      else none
  | .destruct => s.destruct

/-- After `run()`. -/
def start : State Conn Addr where
  server := PoolCapacity.start
  notified := []
  imageThread := .testing
  runImageThread := true
  destructor := .outside

/-- The server with its image thread and its destructor. -/
def shutdown (addr : Conn → Addr) : Machine (State Conn Addr) (Event Conn) where
  init s := s = start
  step := step addr

/-! ## The property and the condition -/

/-- Not a spurious wake-up. -/
def Event.Genuine : Event Conn → Prop
  | .handlerWakes _ _ | .imageWakes => False
  | _ => True

/-- `t` is reached without a spurious wake-up. -/
def Leads (addr : Conn → Addr) (s t : State Conn Addr) : Prop :=
  ∃ es, (∀ e ∈ es, Event.Genuine e) ∧ (shutdown addr).run s es = some t

/-- The destructor is in a join that does not return by any steps of the threads and any
notification that is still to come. -/
def Blocked (addr : Conn → Addr) (s : State Conn Addr) : Prop :=
  (s.destructor = .stopped ∨ s.destructor = .socketNotified) ∧
    ∀ t, Leads addr s t → t.destructor = s.destructor

/-- Once called, the destructor can still return: nothing it has yet to join needs a
notification that nobody will issue. -/
def Returning (addr : Conn → Addr) (s : State Conn Addr) : Prop :=
  s.destructor ≠ .outside → ∃ t, Leads addr s t ∧ t.destructor = .finished

/-- `socket_cv` will be notified by the image thread. -/
def State.MayNotify (s : State Conn Addr) : Prop :=
  s.imageThread = .woken ∨ s.imageThread = .notifying

/-- `c` waits on `socket_cv` and has not been notified. -/
def State.Asleep (s : State Conn Addr) (c : Conn) : Prop :=
  (s.server.handler c).place = .waiting ∧ c ∉ s.notified

instance (s : State Conn Addr) : Decidable s.MayNotify := inferInstanceAs (Decidable (_ ∨ _))

instance (s : State Conn Addr) (c : Conn) : Decidable (s.Asleep c) :=
  inferInstanceAs (Decidable (_ ∧ _))

/-- Every handler on the pool is leaving, and one may sleep only if `p`. -/
def State.ReadyIf (s : State Conn Addr) (p : Prop) : Prop :=
  ∀ c ∈ s.server.pool, (s.server.handler c).Leaving ∧ (s.Asleep c → p)

/-- Every handler on the pool is leaving, and none sleeps without a notification to
come. -/
def State.Ready (s : State Conn Addr) : Prop := s.ReadyIf s.MayNotify

instance (s : State Conn Addr) : Decidable s.Ready :=
  inferInstanceAs (Decidable (∀ c ∈ s.server.pool, _))

/-- The condition on a step.  The library is stopped when every handler is ready, and the
pass of the image thread that a handler sleeps for does notify it; `image_cv` is notified
while the image thread is not between its test and its wait. -/
def Orderly (s : State Conn Addr) : Event Conn → Prop
  | .destruct =>
      (s.destructor = .outside → s.Ready) ∧
        (s.destructor = .cleared → s.imageThread ≠ .locking)
  | .imagePasses closes =>
      s.destructor = .stopped → (∃ c ∈ s.server.pool, s.Asleep c) → closes = true
  | _ => True

instance (s : State Conn Addr) : ∀ e, Decidable (Orderly s e)
  | .destruct => inferInstanceAs (Decidable (_ ∧ _))
  | .imagePasses _ => inferInstanceAs (Decidable (_ → (∃ c ∈ s.server.pool, _) → _))
  | .handler _ | .handlerWakes _ _ | .writeToBuffer | .imageTests | .imageWaits | .imageWakes
  | .imageNotifies => isTrue trivial

end SpectrogramServers.MyServer.Shutdown
