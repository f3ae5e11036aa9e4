import Mathlib.Data.List.Basic
import Mathlib.Data.List.Nodup
import Mathlib.Data.Int.Notation
import SpectrogramServers.Json
import SpectrogramServers.Lib.Machine

/-!
# Admission of websocket connections

`IQWebSocketServer` runs `echo.on_open` once for every connection.  The handler polls in a
first loop until it is admitted or its send fails, serves images in a second loop, and
gives its place back with a final `fetch_sub`.  All handlers share `socket_counter` and
`connection_queue` under `queue_mutex`.

## The machine

`admission` is the labelled machine of all handlers together.  Its atomic steps are the
loop tests, the critical section under `queue_mutex` (together with the `send` that
follows it), a completion callback of such a send, one pass of the second loop, and the
final `fetch_sub`.  Any number of connections take part, with any assignment `addr` of
addresses to connections; several may share one.

A send completes at any later time, with success or with an error, also when its handler
has gone on.  The callback writes to the handler's `status_`, which is how a handler
learns that its connection is gone; `pending` counts the callbacks that are still to come.

`socket_counter` is an `std::atomic` of 16 bits and wraps.  `front` and `erase` of an
empty vector are undefined, and are recorded in a field and not left out.

## History

The last five fields of `State` are history variables: no step reads them.  They say who
is waiting, who pushed the entries of `connection_queue`, and who has been admitted, in
the order in which these things happened.
-/

namespace SpectrogramServers

namespace MyServer

universe u v

/-- Where the handler of a connection stands. -/
inductive Place where
  /-- `on_open` has not been called. -/
  | absent
  /-- At the test `while ((status_ == 1))`. -/
  | polling
  /-- Past that test, about to lock `queue_mutex`. -/
  | entering
  /-- At the test `while ((status_ == 0))`. -/
  | serving
  /-- Inside `socket_cv.wait`. -/
  | waiting
  /-- Past both loops, about to execute `socket_counter.fetch_sub(1)`. -/
  | leaving
  /-- `on_open` has returned. -/
  | finished
  deriving DecidableEq, Repr

/-- The first loop, test included. -/
def Place.inFirstLoop : Place → Bool
  | .polling | .entering => true
  | _ => false

/-- The local variables of one `on_open` call, and how many completion
callbacks that capture `status_` are still to run. -/
structure Handler where
  place : Place
  status_ : ℤ
  queued : Bool
  j : Json
  pending : ℕ
  deriving DecidableEq, Repr

/-- A connection whose handler has not been started. -/
def Handler.absent : Handler :=
  { place := .absent, status_ := 1, queued := false, j := .null, pending := 0 }

namespace Admission

/-- The state shared by all handlers.  `undefinedBehaviour` records that
`front()` was applied to an empty vector. -/
structure State (Conn : Type u) (Addr : Type v) where
  socket_counter : ℕ
  connection_queue : List Addr
  handler : Conn → Handler
  undefinedBehaviour : Bool
  sent : List (Conn × Json)
  /-- Who is waiting, in the order of the `push_back` calls. -/
  waiting : List Conn
  /-- Who pushed the entries of `connection_queue`, position by position. -/
  pushedBy : List Conn
  /-- Everybody who ever called `push_back`, oldest first. -/
  pushes : List Conn
  /-- Everybody who was ever admitted from the queue, oldest first. -/
  fromQueue : List Conn
  /-- Who has been admitted and has not been released. -/
  admitted : List Conn

/-- The steps of the handlers and of the library. -/
inductive Event (Conn : Type u) where
  /-- The library calls `on_open`. -/
  | opened (c : Conn)
  /-- The loop test the handler stands at. -/
  | test (c : Conn)
  /-- The critical section under `queue_mutex`, and the send after it. -/
  | poll (c : Conn)
  /-- A completion callback; `ok` is the absence of an error. -/
  | completed (c : Conn) (ok : Bool)
  /-- `socket_cv.wait` returns, with `sample_json` at that moment. -/
  | woken (c : Conn) (sample_json : Json)
  /-- The final `socket_counter.fetch_sub(1)`. -/
  | released (c : Conn)
  deriving DecidableEq, Repr

variable {Conn : Type u} {Addr : Type v} [DecidableEq Conn] [DecidableEq Addr]

/-- The first half of the critical section: `counter` has been loaded, the
newcomer is queued, a waiter is told its position or takes the front entry.
`none` is `front()` of an empty vector. -/
def pollQueue (address : Addr) (counter : ℕ) (connection_queue : List Addr)
    (queued : Bool) (j : Json) : Option (List Addr × Bool × Json) :=
  if counter > 21 then
    let j := j.clear.set "Served" (.bool false)
    if !queued then
      let connection_queue := connection_queue ++ [address]
      some (connection_queue, true,
        j.set "Queue Position" (.number connection_queue.length))
    else
      -- `find` may return `end()`: the position is then one past the length
      some (connection_queue, queued,
        j.set "Queue Position" (.number (connection_queue.idxOf address + 1)))
  else if queued then
    match connection_queue with
    | [] => none
    | front_ip :: rest =>
        if front_ip = address then some (rest, false, j)
        else some (front_ip :: rest, queued, j)
  else some (connection_queue, queued, j)

/-- The message of an admitted connection, whatever `j` was before. -/
def duplicateFalse (j : Json) : Json := j.clear.set "Duplicate" (.bool false)

/-- What the critical section does to the history variables. -/
def recordPoll (s : State Conn Addr) (c : Conn) (queued queued' admitted : Bool) :
    State Conn Addr :=
  if !queued && queued' then
    { s with
      waiting := s.waiting ++ [c], pushedBy := s.pushedBy ++ [c]
      pushes := s.pushes ++ [c] }
  else if queued && !queued' then
    { s with
      waiting := s.waiting.erase c, pushedBy := s.pushedBy.tail
      fromQueue := s.fromQueue ++ [c], admitted := s.admitted ++ [c] }
  else if admitted then { s with admitted := s.admitted ++ [c] }
  else s

/-- The critical section under `queue_mutex` and the send that follows it. -/
def pollStep (addr : Conn → Addr) (s : State Conn Addr) (c : Conn) : State Conn Addr :=
  let h := s.handler c
  let counter := s.socket_counter
  match pollQueue (addr c) counter s.connection_queue h.queued h.j with
  | none => { s with undefinedBehaviour := true }
  | some (connection_queue, queued, j) =>
      let admitNow := decide (counter ≤ 21) && !queued
      let j := if admitNow then duplicateFalse j else j
      let s' := recordPoll s c h.queued queued admitNow
      { s' with
        connection_queue := connection_queue
        socket_counter := if admitNow then (counter + 1) % 65536 else counter
        sent := s.sent ++ [(c, j)]
        handler := Function.update s.handler c
          { place := .polling
            status_ := if admitNow then 0 else h.status_
            queued := queued, j := j, pending := h.pending + 1 } }

/-- Replace the handler of one connection. -/
def State.setHandler (s : State Conn Addr) (c : Conn) (h : Handler) : State Conn Addr :=
  { s with handler := Function.update s.handler c h }

/-- The handler of `c` moves on, its local variables unchanged. -/
def State.moveTo (s : State Conn Addr) (c : Conn) (place : Place) : State Conn Addr :=
  s.setHandler c { s.handler c with place := place }

/-- The body of the second loop up to `socket_cv.wait`. -/
def State.startWaiting (s : State Conn Addr) (c : Conn) : State Conn Addr :=
  s.setHandler c { s.handler c with place := .waiting, j := (s.handler c).j.clear }

/-- The body of the second loop after `socket_cv.wait`. -/
def State.forward (s : State Conn Addr) (c : Conn) (sample_json : Json) :
    State Conn Addr :=
  { s.setHandler c { s.handler c with
      place := .serving, pending := (s.handler c).pending + 1 } with
    sent := s.sent ++ [(c, sample_json)] }

/-- The test of the loop the handler stands at. -/
def testStep (s : State Conn Addr) (c : Conn) : Option (State Conn Addr) :=
  match (s.handler c).place with
  | .polling =>
      if (s.handler c).status_ = 1 then some (s.moveTo c .entering)
      else some { s.moveTo c .serving with waiting := s.waiting.erase c }
  | .serving =>
      if (s.handler c).status_ = 0 then some (s.startWaiting c)
      else some (s.moveTo c .leaving)
  | _ => none

/-- `socket_cv.wait` returns: leave the loop, or send `sample_json`. -/
def wokenStep (s : State Conn Addr) (c : Conn) (sample_json : Json) : State Conn Addr :=
  if (s.handler c).status_ ≠ 0 then s.moveTo c .leaving else s.forward c sample_json

/-- `socket_counter.fetch_sub(1)` on a `std::atomic<uint16_t>`. -/
def releasedStep (s : State Conn Addr) (c : Conn) : State Conn Addr :=
  { s.moveTo c .finished with
    socket_counter := (s.socket_counter + 65535) % 65536
    admitted := s.admitted.erase c }

omit [DecidableEq Addr] in
@[simp] theorem releasedStep_handler (s : State Conn Addr) (c : Conn) :
    (releasedStep s c).handler =
      Function.update s.handler c { s.handler c with place := .finished } := by
  unfold releasedStep; rfl

omit [DecidableEq Addr] in
@[simp] theorem releasedStep_waiting (s : State Conn Addr) (c : Conn) :
    (releasedStep s c).waiting = s.waiting := by
  unfold releasedStep; rfl

omit [DecidableEq Addr] in
@[simp] theorem releasedStep_admitted (s : State Conn Addr) (c : Conn) :
    (releasedStep s c).admitted = s.admitted.erase c := by
  unfold releasedStep; rfl

omit [DecidableEq Addr] in
@[simp] theorem releasedStep_connection_queue (s : State Conn Addr) (c : Conn) :
    (releasedStep s c).connection_queue = s.connection_queue := by
  unfold releasedStep; rfl

omit [DecidableEq Addr] in
@[simp] theorem releasedStep_fromQueue (s : State Conn Addr) (c : Conn) :
    (releasedStep s c).fromQueue = s.fromQueue := by
  unfold releasedStep; rfl

omit [DecidableEq Addr] in
@[simp] theorem releasedStep_sent (s : State Conn Addr) (c : Conn) :
    (releasedStep s c).sent = s.sent := by
  unfold releasedStep; rfl

/-- One step of the server; `none` where the step is not enabled. -/
def step (addr : Conn → Addr) (s : State Conn Addr) : Event Conn → Option (State Conn Addr)
  | .opened c =>
      if (s.handler c).place = .absent then
        some (s.setHandler c { Handler.absent with place := .polling })
      else none
  | .test c => testStep s c
  | .poll c =>
      if (s.handler c).place = .entering then some (pollStep addr s c) else none
  | .completed c ok =>
      let h := s.handler c
      if 0 < h.pending then
        some (s.setHandler c
          { h with status_ := if ok then h.status_ else -1, pending := h.pending - 1 })
      else none
  | .woken c sample_json =>
      if (s.handler c).place = .waiting then some (wokenStep s c sample_json) else none
  | .released c =>
      if (s.handler c).place = .leaving then some (releasedStep s c) else none

/-- After the constructor: `socket_counter.store(0)` and nobody connected. -/
def start : State Conn Addr where
  socket_counter := 0
  connection_queue := []
  handler := fun _ => Handler.absent
  undefinedBehaviour := false
  sent := []
  waiting := []
  pushedBy := []
  pushes := []
  fromQueue := []
  admitted := []

end Admission

/-- All `on_open` handlers of an `IQWebSocketServer`, with `addr` giving the
remote address of every connection. -/
def admission {Conn : Type u} {Addr : Type v} [DecidableEq Conn] [DecidableEq Addr]
    (addr : Conn → Addr) : Machine (Admission.State Conn Addr) (Admission.Event Conn) where
  init s := s = Admission.start
  step := Admission.step addr

end MyServer

end SpectrogramServers
