import SpectrogramServers.CloudServer.Announcements
import SpectrogramServers.CloudServer.RegistryIntact

/-!
# The pool threads of `cloudServer`

The library runs `on_open`, `on_close` and the callbacks that report the completion of a
send on three pool threads.  An `on_close` that joins a notify thread keeps its pool
thread until that thread has left its loop, and the thread leaves it only after a callback
has set `status_`.

## The product

The machine is the product of two others: the registry with the handlers at work, and the
notify threads with the announcements.  What is new is `pending`, the sends whose callback
has not run: a callback needs a free pool thread.  Opening a connection is a step of both,
since `on_open` starts the notify thread and appends its entry; so is the end of a notify
thread.

## Standstill

Three closings that are not told wait for callbacks that can never run (`Stuck`, and
`stuck_forever`).  The state is entered in one way only, by a call of `join` that blocks
the last pool thread (`stuck_step_iff`), and `Spares` says of a step that it is not this
one.

A handler is blocked in the thread it has called `join` for.  Which entry its iterator
points to meanwhile, after another handler has erased one, makes no difference to that; so
`Blocked` reads the thread that the handler's stage records, and only the condition on a
call looks at the iterator.
-/

namespace SpectrogramServers.CloudServer.Pool

open Announcements (Place)
open Registry (OnClose Stage)

universe u

/-- The registry with its handlers, the notify threads, and the connections of the
sends that have not completed. -/
structure State (C : Type u) where
  registry : Registry.State C
  server : Announcements.State C
  pending : List C

inductive Event (C : Type u) where
  /-- `on_open` starts the notify thread of `c` and appends its entry. -/
  | opened (c : C)
  /-- A step of the `on_close` handler of `c`. -/
  | search (c : C)
  | join (c : C)
  | joined (c : C)
  | erase (c : C)
  /-- A step of the notify thread of `c`; with `ended` its function returns. -/
  | wait (c : C)
  | wake (c : C)
  | send (c : C)
  | ended (c : C)
  /-- The callback of a send of `c` runs, with or without an error. -/
  | completed (c : C) (failed : Bool)
  /-- A step of capture thread `i`. -/
  | announce (i : Fin 10) (scheduleTime : ℤ)
  | notify_all (i : Fin 10)

section Steps

variable {C : Type u} [DecidableEq C] (grow : ℕ → ℕ) (put_time : ℤ → String)

/-- A step of the registry alone. -/
def State.actRegistry (s : State C) (e : Registry.Event C) : Option (State C) :=
  (s.registry.act grow e).bind fun registry => some { s with registry := registry }

/-- A step of the notify and capture threads alone. -/
def State.actServer (s : State C) (e : Announcements.Event C) : Option (State C) :=
  (Announcements.step put_time s.server e).bind fun server => some { s with server := server }

/-- The notify thread of `c` stands at `place`, with `status_`. -/
def State.At (s : State C) (c : C) (place : Place → Bool) (status_ : ℤ → Bool) : Bool :=
  match s.server.notifyThreads c with
  | some thread => place thread.place && status_ thread.status_
  | none => false

def State.act (s : State C) : Event C → Option (State C)
  | .opened c => (s.actRegistry grow (.opened c)).bind fun s => s.actServer put_time (.opened c)
  | .search c => s.actRegistry grow (.search c)
  | .join c => s.actRegistry grow (.join c)
  | .joined c => s.actRegistry grow (.joined c)
  | .erase c => s.actRegistry grow (.erase c)
  | .wait c => s.actServer put_time (.wait c)
  | .wake c => s.actServer put_time (.wake c)
  | .send c =>
      -- with `status_` set the thread leaves its loop instead
      (s.actServer put_time (.send c)).bind fun t =>
        some { t with
          pending := if s.At c (fun _ => true) (· = 0) then s.pending ++ [c] else s.pending }
  | .ended c =>
      if s.At c (· = .left) (fun _ => true) then s.actRegistry grow (.ended c) else none
  | .completed c failed =>
      -- a send on a closed connection fails
      if c ∈ s.pending ∧ s.registry.Free ∧ (c ∈ s.registry.closed → failed = true) then
        if failed then
          { s with pending := s.pending.erase c }.actServer put_time (.sendFailed c)
        else some { s with pending := s.pending.erase c }
      else none
  | .announce i scheduleTime => s.actServer put_time (.announce i scheduleTime)
  | .notify_all i => s.actServer put_time (.notify_all i)

def step (s : State C) (e : Event C) : Option (State C) :=
  if s.registry.process = .running then s.act grow put_time e else none

/-- The server before its first connection. -/
def start : State C where
  registry := Registry.start
  server := Announcements.start
  pending := []

/-- The threads of `cloudServer` and its pool. -/
def pool : Machine (State C) (Event C) where
  init s := s = start
  step := step grow put_time

end Steps

/-! ## The property and the condition it depends on -/

section Property

variable {C : Type u} [DecidableEq C]

/-- The notify thread of `c` can leave its loop only after a callback has run. -/
def State.Untold (s : State C) (c : C) : Prop :=
  ∃ thread, s.server.notifyThreads c = some thread ∧ thread.status_ = 0

/-- A call of `join` at the entry waits, for a thread that has not been told. -/
def State.Holds (s : State C) (entry : Registry.Entry C) : Prop :=
  entry.joinable = true ∧ entry.connection ∉ s.registry.joins ∧
    entry.connection ∈ s.registry.looping ∧ s.Untold entry.connection

/-- An `on_close` that is blocked in the join of such a thread. -/
def State.Blocked (s : State C) (handler : OnClose C) : Prop :=
  ∃ thread, handler.stage = .joining thread ∧ thread ∈ s.registry.looping ∧ s.Untold thread

/-- All pool threads are blocked, each until a callback has run. -/
def Stuck (s : State C) : Prop :=
  s.registry.handlers.length = 3 ∧ ∀ handler ∈ s.registry.handlers, s.Blocked handler

/-- An `on_close` calls a `join` that waits until a callback has run only while one of
the other two pool threads is not blocked so. -/
def Spares (s : State C) : Event C → Prop
  | .join c =>
      (∃ handler, s.registry.handler? c = some handler ∧
        ∃ entry, s.registry.at? handler = some entry ∧ s.Holds entry) →
      s.registry.handlers.length = 3 →
      ∃ other ∈ s.registry.handlers, other.connection ≠ c ∧ ¬ s.Blocked other
  | _ => True

end Property

end SpectrogramServers.CloudServer.Pool
