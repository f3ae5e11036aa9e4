import Mathlib.Data.List.Basic
import SpectrogramServers.Lib.Machine

/-!
# The registry of connections in `cloudServer`

`notifyThreads` is a `std::vector` of pairs of a connection and the thread that
notifies it.  `on_open` appends to it; `on_close` searches it for its connection,
joins the thread there, which can take until the next announcement, and erases
the entry through the iterator it has kept.  The handlers run on three pool
threads, and nothing guards the vector.

An iterator is a pointer: the storage it points into and a position.  A
`push_back` beyond the capacity moves the vector to new storage, an `erase`
moves the later entries down by one.  `valid` says what the language promises
about an iterator and is history; what the code then does depends on the storage
and the position alone.

A join has two ends.  When it begins, `join` reads the thread from the entry at
the iterator, and this is the thread it waits for, wherever the entry goes
meanwhile.  When that thread has left its loop, `join` returns, and the
`std::thread` that is then at the iterator is the one that is marked as not
joinable.  Of two joins of one thread at most one may be: `joins` keeps count.

Erasing an entry overwrites its `std::thread`, or destroys it, and either ends
the process if that thread is still joinable.
-/

namespace SpectrogramServers.CloudServer.Registry

universe u

/-- An entry of `notifyThreads`. -/
structure Entry (C : Type u) where
  connection : C
  joinable : Bool
  deriving DecidableEq

/-- How far an `on_close` has come that has found the entry of its connection. -/
inductive Stage (C : Type u) where
  /-- About to test `joinable`. -/
  | found
  /-- Inside `join` of the notify thread of `thread`. -/
  | joining (thread : C)
  /-- About to erase. -/
  | joined
  deriving DecidableEq

/-- An `on_close` that has found the entry of its connection. -/
structure OnClose (C : Type u) where
  connection : C
  storage : ℕ
  position : ℕ
  stage : Stage C
  valid : Bool
  deriving DecidableEq

/-- How the process is doing: `std::terminate` has been called, or it has done what has
no defined meaning, as the use of memory outside the vector or a second join of one
thread. -/
inductive Process where
  | running
  | terminated
  | undefined
  deriving DecidableEq

/-- The vector, its capacity and the number of its storage; the connections
whose notify thread is running, and those whose notify thread `join` has been
called for; and the handlers at work.  `opened`, `closed` and `finished` are
history: the connections of `on_open`, of `on_close`, and of `on_close` handlers
that have returned. -/
structure State (C : Type u) where
  process : Process
  notifyThreads : List (Entry C)
  capacity : ℕ
  storage : ℕ
  looping : List C
  joins : List C
  handlers : List (OnClose C)
  opened : List C
  closed : List C
  finished : List C
  deriving DecidableEq

inductive Event (C : Type u) where
  /-- `on_open`: the notify thread is started and `push_back` is called. -/
  | opened (c : C)
  /-- The notify thread of `c` leaves its loop. -/
  | ended (c : C)
  /-- The loop of `on_close` up to the entry of `c`. -/
  | search (c : C)
  /-- The test of `joinable` at the iterator, and the call of `join`. -/
  | join (c : C)
  /-- `join` returns. -/
  | joined (c : C)
  /-- `notifyThreads.erase(it)`, and the return of `on_close`. -/
  | erase (c : C)

section Steps

variable {C : Type u} [DecidableEq C] (grow : ℕ → ℕ)

/-- `notifyThreads.push_back`; `grow` is the growth of the implementation. -/
def State.push_back (s : State C) (c : C) : State C :=
  let entries := s.notifyThreads ++ [{ connection := c, joinable := true }]
  if s.notifyThreads.length = s.capacity then
    { s with
      notifyThreads := entries
      capacity := max (grow s.capacity) (s.capacity + 1)
      storage := s.storage + 1
      handlers := s.handlers.map fun handler => { handler with valid := false } }
  else { s with notifyThreads := entries }

/-- `on_open`. -/
def State.on_open (s : State C) (c : C) : State C :=
  { s.push_back grow c with looping := c :: s.looping, opened := s.opened ++ [c] }

/-- The search of `on_close`; without an entry of `c` the handler returns. -/
def State.search (s : State C) (c : C) : State C :=
  match s.notifyThreads.findIdx? fun entry => entry.connection = c with
  | some position =>
      { s with
        handlers := s.handlers ++
          [{ connection := c, storage := s.storage, position := position, stage := .found,
             valid := true }]
        closed := c :: s.closed }
  | none => { s with closed := c :: s.closed, finished := c :: s.finished }

/-- The entry an iterator points to; `none` outside the vector. -/
def State.at? (s : State C) (handler : OnClose C) : Option (Entry C) :=
  if handler.storage = s.storage then s.notifyThreads[handler.position]? else none

/-- `on_close` of `handler` has come to `stage`. -/
def State.moveTo (s : State C) (handler : OnClose C) (stage : Stage C) : State C :=
  { s with
    handlers := s.handlers.map fun other =>
      if other.connection = handler.connection then { other with stage := stage } else other }

/-- The test of `joinable`, and the call of `join` for the thread that is at the iterator
now.  A thread that is being joined or has been joined is not joined again. -/
def State.join (s : State C) (handler : OnClose C) : State C :=
  match s.at? handler with
  | none => { s with process := .undefined }
  | some entry =>
      if entry.joinable then
        if entry.connection ∈ s.joins then { s with process := .undefined }
        else
          { s.moveTo handler (.joining entry.connection) with
            joins := entry.connection :: s.joins }
      else s.moveTo handler .joined

/-- The return of `join`, which marks the thread that is at the iterator by now. -/
def State.returned (s : State C) (handler : OnClose C) : State C :=
  match s.at? handler with
  | none => { s with process := .undefined }
  | some entry =>
      { s.moveTo handler .joined with
        notifyThreads := s.notifyThreads.set handler.position { entry with joinable := false } }

/-- The vector without the entry at the iterator of `handler`, which returns.
Every iterator at or behind it becomes invalid. -/
def State.erased (s : State C) (handler : OnClose C) : State C :=
  { s with
    notifyThreads := s.notifyThreads.eraseIdx handler.position
    handlers := (s.handlers.filter fun other =>
        other.connection ≠ handler.connection).map fun other =>
      if handler.position ≤ other.position then { other with valid := false } else other
    finished := handler.connection :: s.finished }

/-- `notifyThreads.erase(it)`. -/
def State.erase (s : State C) (handler : OnClose C) : State C :=
  match s.at? handler with
  | none => { s with process := .undefined }
  | some entry =>
      if entry.joinable then { s with process := .terminated } else s.erased handler

/-- The `on_close` handler of `c`. -/
def State.handler? (s : State C) (c : C) : Option (OnClose C) :=
  s.handlers.find? fun handler => handler.connection = c

/-- A pool thread is free to run a handler. -/
def State.Free (s : State C) : Prop := s.handlers.length < 3

instance (s : State C) : Decidable s.Free := inferInstanceAs (Decidable (_ < _))

/-- One step of a handler or a notify thread. -/
def State.act (s : State C) : Event C → Option (State C)
  | .opened c => if c ∉ s.opened ∧ s.Free then some (s.on_open grow c) else none
  | .ended c => if c ∈ s.looping then some { s with looping := s.looping.erase c } else none
  | .search c => if c ∈ s.opened ∧ c ∉ s.closed ∧ s.Free then some (s.search c) else none
  | .join c =>
      (s.handler? c).bind fun handler =>
        if handler.stage = .found then some (s.join handler) else none
  | .joined c =>
      (s.handler? c).bind fun handler =>
        match handler.stage with
        | .joining thread => if thread ∈ s.looping then none else some (s.returned handler)
        | .found | .joined => none
  | .erase c =>
      (s.handler? c).bind fun handler =>
        if handler.stage = .joined then some (s.erase handler) else none

def step (s : State C) (e : Event C) : Option (State C) :=
  if s.process = .running then s.act grow e else none

/-- The server before its first connection. -/
def start : State C where
  process := .running
  notifyThreads := []
  capacity := 0
  storage := 0
  looping := []
  joins := []
  handlers := []
  opened := []
  closed := []
  finished := []

/-- The handlers of `cloudServer` and its notify threads. -/
def registry : Machine (State C) (Event C) where
  init s := s = start
  step := step grow

end Steps

/-! ## The property and the condition it depends on -/

section Property

variable {C : Type u} [DecidableEq C]

/-- The process is running, and the vector has exactly the entries of the
connections whose `on_close` has not returned, in the order they were opened. -/
def Intact (s : State C) : Prop :=
  s.process = .running ∧
    s.notifyThreads.map Entry.connection = s.opened.filter fun c => c ∉ s.finished

/-- The iterator points into the vector, and at a thread that may be joined or need not
be. -/
def State.MayJoin (s : State C) (handler : OnClose C) : Prop :=
  ∃ entry ∈ s.at? handler, entry.joinable = true → entry.connection ∉ s.joins

instance (s : State C) (handler : OnClose C) : Decidable (s.MayJoin handler) :=
  inferInstanceAs (Decidable (∃ entry ∈ s.at? handler, _))

/-- An `on_close` calls `join` through an iterator that points into the vector, at a thread
that nobody else joins; the iterator still points into the vector when `join` returns; and
the entry is erased through one that no other handler has invalidated since the search. -/
def UsesValid (s : State C) : Event C → Prop
  | .join c => ∀ handler, s.handler? c = some handler → s.MayJoin handler
  | .joined c => ∀ handler, s.handler? c = some handler → (s.at? handler).isSome
  | .erase c => ∀ handler, s.handler? c = some handler → handler.valid = true
  | _ => True

end Property

end SpectrogramServers.CloudServer.Registry
