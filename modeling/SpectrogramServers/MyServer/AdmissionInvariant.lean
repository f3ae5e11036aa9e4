import SpectrogramServers.Lib.Lists
import SpectrogramServers.MyServer.Admission

/-!
# What one admission step can do

`Admission` has the waiting loop of a connection's thread, with its critical section as
one definition, `pollQueue`.  Six ways lead through that section, and every invariant of
the server is preserved along each of them.  This module takes the section apart once.

## Inversion

`pollStep_cases` lists the six ways, each with the tests that lead to it and the complete
state it leaves behind; nothing later unfolds `pollQueue` again.  What all of them have in
common, a message sent and the handler back at its loop test, is `State.answer`.
`step_cases` does the same for the whole machine.

## The invariant

`Consistent` ties the history variables to the handlers.  Who is in `waiting` is exactly
who is inside the first loop with `queued` set, and a handler whose `status_` is `0`, or
that sits in `socket_cv.wait`, has been admitted.  It needs no assumption about the run,
and every later module about the server builds on it: the queue positions, the count of
the places, the shutdown.

A step concerns one connection.  `HandlerConsistent` is what the invariant says of one,
and `Consistent.of_update` reduces a step to the connection that takes it, if the others
keep their handler and their membership in the two lists.
-/

namespace SpectrogramServers

namespace MyServer

namespace Admission

universe u v

variable {Conn : Type u} {Addr : Type v} [DecidableEq Conn] [DecidableEq Addr]

/-! ## The ways through the critical section -/

/-- What every way through the critical section does to the handler and to the
messages: `j` is sent and the handler is back at the test of the first loop. -/
def State.answer (s : State Conn Addr) (c : Conn) (status_ : ℤ) (queued : Bool)
    (j : Json) : State Conn Addr :=
  { s with
    sent := s.sent ++ [(c, j)]
    handler := Function.update s.handler c
      { place := .polling, status_ := status_, queued := queued, j := j
        pending := (s.handler c).pending + 1 } }

/-- The message of a connection that has to wait, with its place in the queue counted from
one. -/
def queuePosition (position : ℕ) : Json :=
  (Json.object [("Served", .bool false)]).set "Queue Position" (.number position)

/-- The outcomes of the critical section.  With no place free a newcomer joins the queue
and a waiter is told its position again; with one free a newcomer is admitted at once, and
a waiter if the front entry has its address.  The last is the front of an empty queue. -/
inductive PollOutcome (addr : Conn → Addr) (s : State Conn Addr) (c : Conn) :
    State Conn Addr → Prop
  /-- No place is free and the newcomer joins the queue. -/
  | enqueued (full : 21 < s.socket_counter) (newcomer : (s.handler c).queued = false) :
      PollOutcome addr s c
        { s.answer c (s.handler c).status_ true
            (queuePosition (s.connection_queue.length + 1)) with
          connection_queue := s.connection_queue ++ [addr c]
          waiting := s.waiting ++ [c], pushedBy := s.pushedBy ++ [c]
          pushes := s.pushes ++ [c] }
  /-- No place is free and the waiter is told its position again. -/
  | reported (full : 21 < s.socket_counter) (waiter : (s.handler c).queued = true) :
      PollOutcome addr s c
        (s.answer c (s.handler c).status_ true
          (queuePosition (s.connection_queue.idxOf (addr c) + 1)))
  /-- A place is free and the front entry has the waiter's address. -/
  | fromQueue (free : s.socket_counter ≤ 21) (waiter : (s.handler c).queued = true)
      (rest : List Addr) (front : s.connection_queue = addr c :: rest) :
      PollOutcome addr s c
        { s.answer c 0 false (duplicateFalse (s.handler c).j) with
          connection_queue := rest, socket_counter := s.socket_counter + 1
          waiting := s.waiting.erase c, pushedBy := s.pushedBy.tail
          fromQueue := s.fromQueue ++ [c], admitted := s.admitted ++ [c] }
  /-- A place is free but the front entry has another address. -/
  | blocked (free : s.socket_counter ≤ 21) (waiter : (s.handler c).queued = true)
      (front_ip : Addr) (rest : List Addr)
      (front : s.connection_queue = front_ip :: rest) (other : front_ip ≠ addr c) :
      PollOutcome addr s c (s.answer c (s.handler c).status_ true (s.handler c).j)
  /-- A place is free and the newcomer takes it. -/
  | newcomer (free : s.socket_counter ≤ 21) (newcomer : (s.handler c).queued = false) :
      PollOutcome addr s c
        { s.answer c 0 false (duplicateFalse (s.handler c).j) with
          socket_counter := s.socket_counter + 1, admitted := s.admitted ++ [c] }
  /-- `front()` of the empty vector. -/
  | undefined (free : s.socket_counter ≤ 21) (waiter : (s.handler c).queued = true)
      (empty : s.connection_queue = []) :
      PollOutcome addr s c { s with undefinedBehaviour := true }

/-- **The critical section has exactly these outcomes.**  Everything that is proved about
it is proved by this case distinction. -/
theorem pollStep_cases (addr : Conn → Addr) (s : State Conn Addr) (c : Conn) :
    PollOutcome addr s c (pollStep addr s c) := by
  by_cases full : 21 < s.socket_counter
  · cases waiter : (s.handler c).queued with
    | false =>
        have outcome : PollOutcome addr s c _ := .enqueued full waiter
        convert outcome using 1
        simp [pollStep, pollQueue, full, waiter, recordPoll, State.answer,
          queuePosition, Nat.not_le.mpr full]
    | true =>
        have outcome : PollOutcome addr s c _ := .reported full waiter
        convert outcome using 1
        simp [pollStep, pollQueue, full, waiter, recordPoll, State.answer,
          queuePosition, Nat.not_le.mpr full]
  · have free : s.socket_counter ≤ 21 := Nat.not_lt.mp full
    -- at most 21 places are taken, so the 16-bit counter does not wrap
    have counter : (s.socket_counter + 1) % 65536 = s.socket_counter + 1 := by omega
    cases waiter : (s.handler c).queued with
    | false =>
        have outcome : PollOutcome addr s c _ := .newcomer free waiter
        convert outcome using 1
        simp [pollStep, pollQueue, full, free, waiter, recordPoll, State.answer, counter]
    | true =>
        cases front : s.connection_queue with
        | nil =>
            have outcome : PollOutcome addr s c _ := .undefined free waiter front
            convert outcome using 1
            simp [pollStep, pollQueue, full, waiter, front]
        | cons front_ip rest =>
            by_cases own : front_ip = addr c
            · subst own
              have outcome : PollOutcome addr s c _ := .fromQueue free waiter rest front
              convert outcome using 1
              simp [pollStep, pollQueue, full, free, waiter, front, recordPoll,
                State.answer, counter]
            · have outcome : PollOutcome addr s c _ :=
                .blocked free waiter front_ip rest front own
              convert outcome using 1
              simp [pollStep, pollQueue, full, waiter, front, own, recordPoll,
                State.answer]

/-! ## The steps -/

/-- The outcomes of a step, with the tests that lead to each. -/
inductive StepOutcome (addr : Conn → Addr) (s : State Conn Addr) :
    Event Conn → State Conn Addr → Prop
  | opened (c : Conn) (place : (s.handler c).place = .absent) :
      StepOutcome addr s (.opened c)
        (s.setHandler c { Handler.absent with place := .polling })
  | entered (c : Conn) (place : (s.handler c).place = .polling)
      (status : (s.handler c).status_ = 1) :
      StepOutcome addr s (.test c) (s.moveTo c .entering)
  | leftFirstLoop (c : Conn) (place : (s.handler c).place = .polling)
      (status : (s.handler c).status_ ≠ 1) :
      StepOutcome addr s (.test c)
        { s.moveTo c .serving with waiting := s.waiting.erase c }
  | waited (c : Conn) (place : (s.handler c).place = .serving)
      (status : (s.handler c).status_ = 0) :
      StepOutcome addr s (.test c) (s.startWaiting c)
  | leftSecondLoop (c : Conn) (place : (s.handler c).place = .serving)
      (status : (s.handler c).status_ ≠ 0) :
      StepOutcome addr s (.test c) (s.moveTo c .leaving)
  | polled (c : Conn) (place : (s.handler c).place = .entering) (t : State Conn Addr)
      (outcome : PollOutcome addr s c t) :
      StepOutcome addr s (.poll c) t
  | completed (c : Conn) (ok : Bool) (pending : 0 < (s.handler c).pending) :
      StepOutcome addr s (.completed c ok)
        (s.setHandler c { s.handler c with
          status_ := if ok then (s.handler c).status_ else -1
          pending := (s.handler c).pending - 1 })
  | brokeOff (c : Conn) (sample_json : Json) (place : (s.handler c).place = .waiting)
      (status : (s.handler c).status_ ≠ 0) :
      StepOutcome addr s (.woken c sample_json) (s.moveTo c .leaving)
  | forwarded (c : Conn) (sample_json : Json) (place : (s.handler c).place = .waiting)
      (status : (s.handler c).status_ = 0) :
      StepOutcome addr s (.woken c sample_json) (s.forward c sample_json)
  | released (c : Conn) (place : (s.handler c).place = .leaving) :
      StepOutcome addr s (.released c) (releasedStep s c)

/-- **Every step has one of these outcomes.** -/
theorem step_cases {addr : Conn → Addr} {s t : State Conn Addr} {e : Event Conn}
    (h : step addr s e = some t) : StepOutcome addr s e t := by
  cases e with
  | opened c =>
      simp only [step, Option.ite_none_right_eq_some, Option.some.injEq] at h
      obtain ⟨place, rfl⟩ := h
      exact .opened c place
  | test c =>
      simp only [step, testStep] at h
      cases place : (s.handler c).place with
      | polling =>
          by_cases status : (s.handler c).status_ = 1
          · simp only [place, status, if_true, Option.some.injEq] at h
            subst h
            exact .entered c place status
          · simp only [place, status, if_false, Option.some.injEq] at h
            subst h
            exact .leftFirstLoop c place status
      | serving =>
          by_cases status : (s.handler c).status_ = 0
          · simp only [place, status, if_true, Option.some.injEq] at h
            subst h
            exact .waited c place status
          · simp only [place, status, if_false, Option.some.injEq] at h
            subst h
            exact .leftSecondLoop c place status
      | absent | entering | waiting | leaving | finished => simp [place] at h
  | poll c =>
      simp only [step, Option.ite_none_right_eq_some, Option.some.injEq] at h
      obtain ⟨place, rfl⟩ := h
      exact .polled c place _ (pollStep_cases addr s c)
  | completed c ok =>
      simp only [step, Option.ite_none_right_eq_some, Option.some.injEq] at h
      obtain ⟨pending, rfl⟩ := h
      exact .completed c ok pending
  | woken c sample_json =>
      simp only [step, Option.ite_none_right_eq_some, Option.some.injEq] at h
      obtain ⟨place, rfl⟩ := h
      by_cases status : (s.handler c).status_ = 0
      · rw [wokenStep, if_neg (not_not.mpr status)]
        exact .forwarded c sample_json place status
      · rw [wokenStep, if_pos status]
        exact .brokeOff c sample_json place status
  | released c =>
      simp only [step, Option.ite_none_right_eq_some, Option.some.injEq] at h
      obtain ⟨place, rfl⟩ := h
      exact .released c place

/-! ## Handlers and history variables -/

/-- What the history variables say about the handler `h` of a connection that
is (`w`) or is not waiting, and is (`a`) or is not admitted. -/
structure HandlerConsistent (h : Handler) (w a : Prop) : Prop where
  waiting_iff : w ↔ h.place.inFirstLoop = true ∧ h.queued = true
  of_admitted : a → h.status_ ≠ 1 ∧ h.queued = false ∧ h.place ≠ .absent ∧
    h.place ≠ .entering ∧ h.place ≠ .finished
  of_status_zero : h.status_ = 0 → h.place ≠ .finished → a
  of_place_waiting : h.place = .waiting → a

section HandlerMoves

variable {h h' : Handler} {w a : Prop}

/-- Outside the first loop nobody waits. -/
theorem HandlerConsistent.not_waiting (own : HandlerConsistent h w a)
    (outside : h.place.inFirstLoop = false) : ¬ w := by
  rw [own.waiting_iff, outside]
  exact fun inside => Bool.false_ne_true inside.1

/-- An admitted handler goes between the second loop and its wait. -/
theorem HandlerConsistent.serve (own : HandlerConsistent h w a)
    (outside : h.place.inFirstLoop = false) (admitted : a)
    (place : h'.place = .serving ∨ h'.place = .waiting) (status_ : h'.status_ = h.status_)
    (queued : h'.queued = h.queued) : HandlerConsistent h' w a := by
  have notWaiting := own.not_waiting outside
  obtain ⟨notOne, notQueued, -⟩ := own.of_admitted admitted
  rw [← status_] at notOne
  rw [← queued] at notQueued
  rcases place with place | place
  · constructor <;> simp [place, notWaiting, admitted, notOne, notQueued, Place.inFirstLoop]
  · constructor <;> simp [place, notWaiting, admitted, notOne, notQueued, Place.inFirstLoop]

/-- A handler leaves the second loop. -/
theorem HandlerConsistent.leave (own : HandlerConsistent h w a)
    (outside : h.place.inFirstLoop = false) (status : h.status_ ≠ 0) :
    HandlerConsistent { h with place := .leaving } w a := by
  have notWaiting := own.not_waiting outside
  refine ⟨?_, fun admitted => ?_, fun zero => absurd zero status, ?_⟩
  · simp [notWaiting, Place.inFirstLoop]
  · obtain ⟨notOne, notQueued, -⟩ := own.of_admitted admitted
    simp [notOne, notQueued]
  · simp

/-- A send completes. -/
theorem HandlerConsistent.completed (own : HandlerConsistent h w a) (ok : Bool) (pending : ℕ) :
    HandlerConsistent { h with status_ := if ok then h.status_ else -1, pending := pending }
      w a := by
  refine ⟨own.waiting_iff, fun admitted => ?_, fun zero notFinished => ?_, own.of_place_waiting⟩
  · obtain ⟨notOne, rest⟩ := own.of_admitted admitted
    refine ⟨?_, rest⟩
    cases ok <;> simp [notOne]
  · cases ok with
    | false => simp at zero
    | true => exact own.of_status_zero (by simpa using zero) notFinished

end HandlerMoves

/-- The step invariant of the admission machine: nobody waits or is admitted twice, and
every handler agrees with the two lists. -/
structure Consistent (s : State Conn Addr) : Prop where
  waiting_nodup : s.waiting.Nodup
  admitted_nodup : s.admitted.Nodup
  handler : ∀ c, HandlerConsistent (s.handler c) (c ∈ s.waiting) (c ∈ s.admitted)

omit [DecidableEq Conn] [DecidableEq Addr] in
theorem consistent_start : Consistent (start : State Conn Addr) where
  waiting_nodup := List.nodup_nil
  admitted_nodup := List.nodup_nil
  handler c := by
    constructor <;> simp [start, Handler.absent, Place.inFirstLoop]

omit [DecidableEq Addr] in
/-- A step of `c` only has to be checked at `c`: the others keep their handler
and their membership in both lists. -/
theorem Consistent.of_update {s t : State Conn Addr} (hs : Consistent s) (c : Conn)
    {h : Handler} (handler : t.handler = Function.update s.handler c h)
    (waiting_nodup : t.waiting.Nodup) (admitted_nodup : t.admitted.Nodup)
    (frame : ∀ d, d ≠ c →
      (d ∈ t.waiting ↔ d ∈ s.waiting) ∧ (d ∈ t.admitted ↔ d ∈ s.admitted))
    (own : HandlerConsistent h (c ∈ t.waiting) (c ∈ t.admitted)) : Consistent t where
  waiting_nodup := waiting_nodup
  admitted_nodup := admitted_nodup
  handler d := by
    by_cases same : d = c
    · subst same
      simpa [handler] using own
    · rw [handler, Function.update_of_ne same, (frame d same).1, (frame d same).2]
      exact hs.handler d

omit [DecidableEq Addr] in
/-- The same when neither list changes. -/
theorem Consistent.setHandler {s : State Conn Addr} (hs : Consistent s) (c : Conn)
    {h : Handler} (own : HandlerConsistent h (c ∈ s.waiting) (c ∈ s.admitted)) :
    Consistent (s.setHandler c h) :=
  hs.of_update c rfl hs.waiting_nodup hs.admitted_nodup (fun _ _ => ⟨.rfl, .rfl⟩) own

omit [DecidableEq Conn] [DecidableEq Addr] in
/-- A handler about to enter the critical section has not been admitted. -/
theorem Consistent.not_admitted {s : State Conn Addr} (hs : Consistent s) {c : Conn}
    (place : (s.handler c).place = .entering) : c ∉ s.admitted :=
  fun mem => ((hs.handler c).of_admitted mem).2.2.2.1 place

omit [DecidableEq Conn] [DecidableEq Addr] in
/-- A handler about to enter the critical section waits if it is queued. -/
theorem Consistent.mem_waiting {s : State Conn Addr} (hs : Consistent s) {c : Conn}
    (place : (s.handler c).place = .entering) :
    c ∈ s.waiting ↔ (s.handler c).queued = true := by
  rw [(hs.handler c).waiting_iff, place]
  simp [Place.inFirstLoop]

omit [DecidableEq Conn] [DecidableEq Addr] in
/-- A newcomer does not wait yet. -/
theorem Consistent.not_mem_waiting {s : State Conn Addr} (hs : Consistent s) {c : Conn}
    (place : (s.handler c).place = .entering) (newcomer : (s.handler c).queued = false) :
    c ∉ s.waiting := by
  rw [hs.mem_waiting place, newcomer]
  exact Bool.false_ne_true

omit [DecidableEq Conn] [DecidableEq Addr] in
/-- Outside the first loop nobody waits. -/
theorem Consistent.not_mem_waiting_of_outside {s : State Conn Addr} (hs : Consistent s)
    {c : Conn} {p : Place} (place : (s.handler c).place = p) (outside : p.inFirstLoop = false) :
    c ∉ s.waiting :=
  (hs.handler c).not_waiting (by rw [place, outside])

omit [DecidableEq Conn] in
/-- The list a newcomer is appended to, seen by the others. -/
theorem mem_append_singleton_of_ne {c d : Conn} (other : d ≠ c) (l : List Conn) :
    d ∈ l ++ [c] ↔ d ∈ l := by
  simp [other]

theorem Consistent.polled {addr : Conn → Addr} {s t : State Conn Addr}
    (hs : Consistent s) {c : Conn} (place : (s.handler c).place = .entering)
    (outcome : PollOutcome addr s c t) : Consistent t := by
  have notAdmitted : c ∉ s.admitted := hs.not_admitted place
  have admitted_nodup := nodup_append_singleton hs.admitted_nodup notAdmitted
  -- whoever polls has not been admitted, and its status is not 0 yet
  have notZero : (s.handler c).status_ ≠ 0 := fun zero =>
    notAdmitted ((hs.handler c).of_status_zero zero (by simp [place]))
  cases outcome with
  | enqueued full newcomer =>
      have notWaiting := hs.not_mem_waiting place newcomer
      refine hs.of_update c rfl (nodup_append_singleton hs.waiting_nodup notWaiting)
        hs.admitted_nodup (fun d other => ⟨mem_append_singleton_of_ne other _, .rfl⟩) ?_
      constructor <;> simp [Place.inFirstLoop, State.answer, notAdmitted, notZero]
  | reported full waiter =>
      have isWaiting : c ∈ s.waiting := (hs.mem_waiting place).mpr waiter
      refine hs.of_update c rfl hs.waiting_nodup hs.admitted_nodup
        (fun _ _ => ⟨.rfl, .rfl⟩) ?_
      constructor <;>
        simp [Place.inFirstLoop, State.answer, notAdmitted, notZero, isWaiting]
  | fromQueue free waiter rest front =>
      refine hs.of_update c rfl (hs.waiting_nodup.erase c) admitted_nodup
        (fun d other => ⟨List.mem_erase_of_ne other, mem_append_singleton_of_ne other _⟩) ?_
      constructor <;> simp [Place.inFirstLoop, hs.waiting_nodup.mem_erase_iff]
  | blocked free waiter front_ip rest front other =>
      have isWaiting : c ∈ s.waiting := (hs.mem_waiting place).mpr waiter
      refine hs.of_update c rfl hs.waiting_nodup hs.admitted_nodup
        (fun _ _ => ⟨.rfl, .rfl⟩) ?_
      constructor <;>
        simp [Place.inFirstLoop, State.answer, notAdmitted, notZero, isWaiting]
  | newcomer free newcomer =>
      have notWaiting := hs.not_mem_waiting place newcomer
      refine hs.of_update c rfl hs.waiting_nodup admitted_nodup
        (fun d other => ⟨.rfl, mem_append_singleton_of_ne other _⟩) ?_
      constructor <;> simp [Place.inFirstLoop, State.answer, notWaiting]
  | undefined free waiter empty =>
      exact ⟨hs.waiting_nodup, hs.admitted_nodup, hs.handler⟩

/-- **`Consistent` is a step invariant**, whatever the interleaving: no order of arrivals,
tests, sends and callbacks is excluded. -/
theorem Consistent.step {addr : Conn → Addr} {s t : State Conn Addr} {e : Event Conn}
    (hs : Consistent s) (h : step addr s e = some t) : Consistent t := by
  cases step_cases h with
  | opened c place =>
      have own := hs.handler c
      refine hs.setHandler c ?_
      have notAdmitted : c ∉ s.admitted := fun mem => (own.of_admitted mem).2.2.1 place
      have notWaiting := hs.not_mem_waiting_of_outside place rfl
      constructor <;> simp [Handler.absent, notAdmitted, notWaiting]
  | entered c place status =>
      have own := hs.handler c
      refine hs.setHandler c ?_
      have notAdmitted : c ∉ s.admitted := fun mem => (own.of_admitted mem).1 status
      constructor <;> simp [own.waiting_iff, place, status, Place.inFirstLoop, notAdmitted]
  | leftFirstLoop c place status =>
      have own := hs.handler c
      refine hs.of_update c rfl (hs.waiting_nodup.erase c) hs.admitted_nodup
        (fun d other => ⟨List.mem_erase_of_ne other, .rfl⟩) ?_
      refine ⟨?_, fun mem => ?_, fun zero _ => ?_, ?_⟩
      · simp [Place.inFirstLoop, hs.waiting_nodup.mem_erase_iff]
      · have := own.of_admitted mem
        simp [this.1, this.2.1]
      · exact own.of_status_zero zero (by simp [place])
      · simp
  | waited c place status =>
      have own := hs.handler c
      have isAdmitted : c ∈ s.admitted := own.of_status_zero status (by simp [place])
      exact hs.setHandler c (own.serve (by rw [place]; rfl) isAdmitted (.inr rfl) rfl rfl)
  | leftSecondLoop c place status =>
      exact hs.setHandler c ((hs.handler c).leave (by rw [place]; rfl) status)
  | polled c place t outcome => exact hs.polled place outcome
  | completed c ok pending => exact hs.setHandler c ((hs.handler c).completed ok _)
  | brokeOff c sample_json place status =>
      exact hs.setHandler c ((hs.handler c).leave (by rw [place]; rfl) status)
  | forwarded c sample_json place status =>
      have own := hs.handler c
      have isAdmitted : c ∈ s.admitted := own.of_place_waiting place
      exact hs.of_update c rfl hs.waiting_nodup hs.admitted_nodup (fun _ _ => ⟨.rfl, .rfl⟩)
        (own.serve (by rw [place]; rfl) isAdmitted (.inl rfl) rfl rfl)
  | released c place =>
      refine hs.of_update c (releasedStep_handler s c) (by simpa using hs.waiting_nodup)
        (by simpa using hs.admitted_nodup.erase c) (fun d other => ?_) ?_
      · simp [List.mem_erase_of_ne other]
      · have notWaiting := hs.not_mem_waiting_of_outside place rfl
        have gone : c ∉ s.admitted.erase c := by simp [hs.admitted_nodup.mem_erase_iff]
        rw [releasedStep_waiting, releasedStep_admitted]
        constructor <;> simp [Place.inFirstLoop, notWaiting, gone]

/-! ## Some runs -/

/-- A connection arrives and polls once. -/
def arrive (c : ℕ) : List (Event ℕ) := [.opened c, .test c, .poll c]

/-- A send of `c` fails and its handler runs to the end. -/
def disconnect (c : ℕ) : List (Event ℕ) :=
  [.completed c false, .test c, .test c, .released c]

/-- Twenty-two connections arrive and are admitted: no place is free. -/
def fillPlaces : List (Event ℕ) := (List.range 22).flatMap arrive

end Admission

end MyServer

end SpectrogramServers
