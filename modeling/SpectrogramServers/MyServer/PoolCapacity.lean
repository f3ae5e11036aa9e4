import SpectrogramServers.MyServer.AdmissionInvariant

/-!
# The pool threads of the websocket server

The library calls `on_open` and the completion callbacks of sends on its three pool
threads.  A call of `on_open` keeps its thread until the connection is given up: it
polls, and then waits on `socket_cv`.  `pooled` is the admission machine with this
restriction.

## Who gives a thread back

Only a callback that reports an error makes a handler leave its loops.  So the idea
is to tell the handlers apart by whether they have been told.

* **A leaving handler** gives its thread back without another callback
  (`returns_of_leaving`), and one of them is enough for the pool to go on
  (`not_stuck_of_lively`).
* **A held handler** does not, and three of them are held for ever
  (`stuck_of_held`), since no callback can run any more.

A handler between its loop test and the critical section that has been told of an error
would be neither: the critical section may overwrite what it has been told.  On three
pool threads there is none (`Inv.settled`).  With at most three handlers at work no more
than three connections are admitted, the counter is exact, and everybody finds a place in
the first critical section (`Direct`); before it nothing has been sent, so that no
callback can report an error.

What is load-bearing is that an opening is the only step that takes a thread away.  So
the pool is responsive in exactly the runs in which its last thread is given away only
while another handler is leaving (`responsive_iff_spares`).
-/

namespace SpectrogramServers

namespace MyServer

universe u v

/-- The handler runs to the end of `on_open` whatever else happens. -/
def Handler.Leaving (h : Handler) : Prop :=
  (h.place = .polling ∧ h.status_ ≠ 1 ∧ h.status_ ≠ 0) ∨
    ((h.place = .serving ∨ h.place = .waiting) ∧ h.status_ ≠ 0) ∨ h.place = .leaving

/-- The handler stays in its loops until a callback has run. -/
def Handler.Held (h : Handler) : Prop :=
  (h.place = .polling ∧ (h.status_ = 1 ∨ h.status_ = 0)) ∨
    (h.place = .entering ∧ h.status_ = 1) ∨
    ((h.place = .serving ∨ h.place = .waiting) ∧ h.status_ = 0)

instance (h : Handler) : Decidable h.Leaving := inferInstanceAs (Decidable (_ ∨ _ ∨ _))

instance (h : Handler) : Decidable h.Held := inferInstanceAs (Decidable (_ ∨ _ ∨ _))

/-- The handler has not been told of an error between its loop test and the critical
section. -/
def Handler.Settled (h : Handler) : Prop := h.place = .entering → h.status_ = 1

/-- `on_open` is running. -/
def Handler.Running (h : Handler) : Prop := h.place ≠ .absent ∧ h.place ≠ .finished

/-- The handler is in front of its first critical section. -/
structure Handler.Newcomer (h : Handler) : Prop where
  place : h.place.inFirstLoop = true
  status_ : h.status_ = 1
  queued : h.queued = false
  pending : h.pending = 0

namespace PoolCapacity

open Admission

/-- The handlers, and the connections whose `on_open` has a pool thread. -/
structure State (Conn : Type u) (Addr : Type v) where
  admission : Admission.State Conn Addr
  pool : List Conn

variable {Conn : Type u} {Addr : Type v} [DecidableEq Conn] [DecidableEq Addr]

/-- A pool thread is free. -/
def State.Free (s : State Conn Addr) : Prop := s.pool.length < 3

instance (s : State Conn Addr) : Decidable s.Free := inferInstanceAs (Decidable (_ < _))

def State.handler (s : State Conn Addr) (c : Conn) : Handler := s.admission.handler c

/-- A step of the handlers after which `pool` is in use. -/
def State.act (addr : Conn → Addr) (s : State Conn Addr) (e : Event Conn) (pool : List Conn) :
    Option (State Conn Addr) :=
  (Admission.step addr s.admission e).map fun admission => ⟨admission, pool⟩

def step (addr : Conn → Addr) (s : State Conn Addr) : Event Conn → Option (State Conn Addr)
  | .opened c => if s.Free then s.act addr (.opened c) (c :: s.pool) else none
  | .completed c ok => if s.Free then s.act addr (.completed c ok) s.pool else none
  | .released c => s.act addr (.released c) (s.pool.erase c)
  | .test c => s.act addr (.test c) s.pool
  | .poll c => s.act addr (.poll c) s.pool
  | .woken c sample_json => s.act addr (.woken c sample_json) s.pool

def start : State Conn Addr := ⟨Admission.start, []⟩

/-- The `on_open` handlers on three pool threads. -/
def pooled (addr : Conn → Addr) : Machine (State Conn Addr) (Event Conn) where
  init s := s = start
  step := step addr

/-! ## The property and the condition -/

/-- No pool thread is ever free again, so that no connection that arrives and no
completion of a send is ever handled. -/
def Stuck (addr : Conn → Addr) (s : State Conn Addr) : Prop :=
  ∀ es t, (pooled addr).run s es = some t → ¬ t.Free

/-- While fewer than 22 connections are admitted the pool is not stuck. -/
def Responsive (addr : Conn → Addr) (s : State Conn Addr) : Prop :=
  s.admission.admitted.length < 22 → ¬ Stuck addr s

/-- The last pool thread is given to a connection only if another handler is leaving. -/
def Spares (s : State Conn Addr) : Event Conn → Prop
  | .opened _ => s.pool.length = 2 → ∃ c ∈ s.pool, (s.handler c).Leaving
  | _ => True

instance (s : State Conn Addr) : ∀ e, Decidable (Spares s e)
  | .opened _ => inferInstanceAs (Decidable (_ → ∃ c ∈ s.pool, _))
  | .test _ | .poll _ | .completed _ _ | .woken _ _ | .released _ => isTrue trivial

/-! ## What a step does to a handler -/

/-- What a step does to the handler `h` of `d`: one of the ways on from each place, a
callback, or nothing. -/
inductive HandlerMove (d : Conn) (h : Handler) : Event Conn → Handler → Prop
  | opened (place : h.place = .absent) :
      HandlerMove d h (.opened d) { Handler.absent with place := .polling }
  | entered (place : h.place = .polling) (status : h.status_ = 1) :
      HandlerMove d h (.test d) { h with place := .entering }
  | leftFirstLoop (place : h.place = .polling) (status : h.status_ ≠ 1) :
      HandlerMove d h (.test d) { h with place := .serving }
  | waited (place : h.place = .serving) (status : h.status_ = 0) :
      HandlerMove d h (.test d) { h with place := .waiting, j := h.j.clear }
  | leftSecondLoop (place : h.place = .serving) (status : h.status_ ≠ 0) :
      HandlerMove d h (.test d) { h with place := .leaving }
  | polled (place : h.place = .entering) (status_ : ℤ)
      (status : status_ = h.status_ ∨ status_ = 0) (queued : Bool) (j : Json) :
      HandlerMove d h (.poll d) ⟨.polling, status_, queued, j, h.pending + 1⟩
  | completed (ok : Bool) (pending : 0 < h.pending) :
      HandlerMove d h (.completed d ok)
        { h with status_ := if ok then h.status_ else -1, pending := h.pending - 1 }
  | brokeOff (sample_json : Json) (place : h.place = .waiting) (status : h.status_ ≠ 0) :
      HandlerMove d h (.woken d sample_json) { h with place := .leaving }
  | forwarded (sample_json : Json) (place : h.place = .waiting) (status : h.status_ = 0) :
      HandlerMove d h (.woken d sample_json)
        { h with place := .serving, pending := h.pending + 1 }
  | released (place : h.place = .leaving) :
      HandlerMove d h (.released d) { h with place := .finished }
  /-- The step is another's, or it calls `front()` on the empty vector. -/
  | kept (e : Event Conn) (opens : e ≠ .opened d) (wakes : ∀ sample_json, e ≠ .woken d sample_json)
      (releases : e ≠ .released d) : HandlerMove d h e h

/-- A step of `c` only has to be checked at `c`. -/
theorem HandlerMove.update {handler : Conn → Handler} {c : Conn} {e : Event Conn} {h : Handler}
    (own : HandlerMove c (handler c) e h) (opens : ∀ d, e = .opened d → d = c)
    (wakes : ∀ d sample_json, e = .woken d sample_json → d = c)
    (releases : ∀ d, e = .released d → d = c) (d : Conn) :
    HandlerMove d (handler d) e (Function.update handler c h d) := by
  by_cases same : d = c
  · subst same
    rw [Function.update_self]
    exact own
  · rw [Function.update_of_ne same]
    exact .kept e (fun opened => same (opens d opened))
      (fun sample_json woken => same (wakes d sample_json woken))
      (fun released => same (releases d released))

/-- The critical section, as the handler that passes it sees it. -/
theorem handler_of_pollOutcome {addr : Conn → Addr} {s t : Admission.State Conn Addr} {c : Conn}
    (outcome : PollOutcome addr s c t) :
    t.handler = s.handler ∨ ∃ status_ queued j,
      (status_ = (s.handler c).status_ ∨ status_ = 0) ∧
        t.handler = Function.update s.handler c
          ⟨.polling, status_, queued, j, (s.handler c).pending + 1⟩ := by
  cases outcome with
  | enqueued _ _ | reported _ _ | blocked _ _ _ _ _ _ =>
      exact Or.inr ⟨_, _, _, Or.inl rfl, rfl⟩
  | fromQueue _ _ _ _ | newcomer _ _ => exact Or.inr ⟨_, _, _, Or.inr rfl, rfl⟩
  | undefined _ _ _ => exact Or.inl rfl

/-- **Every handler makes one of these moves.** -/
theorem handlerMove_of_step {addr : Conn → Addr} {s t : Admission.State Conn Addr}
    {e : Event Conn} (h : Admission.step addr s e = some t) (d : Conn) :
    HandlerMove d (s.handler d) e (t.handler d) := by
  cases step_cases h with
  | opened c place => exact HandlerMove.update (.opened place) (by simp) (by simp) (by simp) d
  | entered c place status =>
      exact HandlerMove.update (.entered place status) (by simp) (by simp) (by simp) d
  | leftFirstLoop c place status =>
      exact HandlerMove.update (.leftFirstLoop place status) (by simp) (by simp) (by simp) d
  | waited c place status =>
      exact HandlerMove.update (.waited place status) (by simp) (by simp) (by simp) d
  | leftSecondLoop c place status =>
      exact HandlerMove.update (.leftSecondLoop place status) (by simp) (by simp) (by simp) d
  | polled c place t outcome =>
      rcases handler_of_pollOutcome outcome with handler | ⟨status_, queued, j, status, handler⟩
      · rw [handler]
        exact .kept _ (by simp) (by simp) (by simp)
      · rw [handler]
        exact HandlerMove.update (.polled place status_ status queued j)
          (by simp) (by simp) (by simp) d
  | completed c ok pending =>
      exact HandlerMove.update (.completed ok pending) (by simp) (by simp) (by simp) d
  | brokeOff c sample_json place status =>
      exact HandlerMove.update (.brokeOff sample_json place status)
        (by simp) (by simp) (by simp) d
  | forwarded c sample_json place status =>
      exact HandlerMove.update (.forwarded sample_json place status)
        (by simp) (by simp) (by simp) d
  | released c place =>
      rw [releasedStep_handler]
      exact HandlerMove.update (.released place) (by simp) (by simp) (by simp) d

omit [DecidableEq Conn] in
/-- **Who is leaving goes on leaving**, until its thread is given back. -/
theorem HandlerMove.leaving {d : Conn} {h h' : Handler} {e : Event Conn}
    (move : HandlerMove d h e h') (leaving : h.Leaving) (stays : e ≠ .released d) :
    h'.Leaving := by
  cases move with
  | opened place => simp [Handler.Leaving, place] at leaving
  | entered place status => simp [Handler.Leaving, place, status] at leaving
  | leftFirstLoop place status =>
      simp [Handler.Leaving, place] at leaving
      exact Or.inr (Or.inl ⟨Or.inl rfl, leaving.2⟩)
  | waited place status => simp [Handler.Leaving, place, status] at leaving
  | leftSecondLoop place status => exact Or.inr (Or.inr rfl)
  | polled place status_ status queued j => simp [Handler.Leaving, place] at leaving
  | completed ok pending =>
      cases ok with
      | true => exact leaving
      | false =>
          have told : (-1 : ℤ) ≠ 1 ∧ (-1 : ℤ) ≠ 0 := by decide
          rcases leaving with ⟨place, -⟩ | ⟨place, -⟩ | place
          · exact Or.inl ⟨place, told⟩
          · exact Or.inr (Or.inl ⟨place, told.2⟩)
          · exact Or.inr (Or.inr place)
  | brokeOff sample_json place status => exact Or.inr (Or.inr rfl)
  | forwarded sample_json place status => simp [Handler.Leaving, place, status] at leaving
  | released place => exact absurd rfl stays
  | kept e opens wakes releases => exact leaving

theorem leaving_step {addr : Conn → Addr} {s t : Admission.State Conn Addr} {e : Event Conn}
    (h : Admission.step addr s e = some t) {d : Conn} (leaving : (s.handler d).Leaving)
    (stays : e ≠ .released d) : (t.handler d).Leaving :=
  (handlerMove_of_step h d).leaving leaving stays

omit [DecidableEq Conn] in
/-- **Who is held stays held** while no connection is opened and no callback runs. -/
theorem HandlerMove.held {d : Conn} {h h' : Handler} {e : Event Conn}
    (move : HandlerMove d h e h') (held : h.Held) (opens : ∀ c, e ≠ .opened c)
    (completes : ∀ c ok, e ≠ .completed c ok) : h'.Held ∧ e ≠ .released d := by
  cases move with
  | opened place => exact absurd rfl (opens d)
  | entered place status => exact ⟨Or.inr (Or.inl ⟨rfl, status⟩), by simp⟩
  | leftFirstLoop place status =>
      simp [Handler.Held, place, status] at held
      exact ⟨Or.inr (Or.inr ⟨Or.inl rfl, held⟩), by simp⟩
  | waited place status => exact ⟨Or.inr (Or.inr ⟨Or.inr rfl, status⟩), by simp⟩
  | leftSecondLoop place status => simp [Handler.Held, place, status] at held
  | polled place status_ status queued j =>
      have told : h.status_ = 1 := by
        simp [Handler.Held, place] at held
        exact held
      rw [told] at status
      exact ⟨Or.inl ⟨rfl, status⟩, by simp⟩
  | completed ok pending => exact absurd rfl (completes d ok)
  | brokeOff sample_json place status => simp [Handler.Held, place, status] at held
  | forwarded sample_json place status => exact ⟨Or.inr (Or.inr ⟨Or.inl rfl, status⟩), by simp⟩
  | released place => simp [Handler.Held, place] at held
  | kept e opens wakes releases => exact ⟨held, releases⟩

theorem held_step {addr : Conn → Addr} {s t : Admission.State Conn Addr} {e : Event Conn}
    (h : Admission.step addr s e = some t) {d : Conn} (held : (s.handler d).Held)
    (opens : ∀ c, e ≠ .opened c) (completes : ∀ c ok, e ≠ .completed c ok) :
    (t.handler d).Held ∧ e ≠ .released d :=
  (handlerMove_of_step h d).held held opens completes

/-- Apart from a handler that was told before the critical section, every running
handler is leaving or held. -/
theorem leaving_or_held_iff (h : Handler) :
    h.Leaving ∨ h.Held ↔ h.Running ∧ h.Settled := by
  unfold Handler.Leaving Handler.Held Handler.Running Handler.Settled
  by_cases zero : h.status_ = 0 <;> by_cases one : h.status_ = 1 <;>
    cases place : h.place <;> simp [zero, one]

/-! ## Steps of the pool -/

/-- What the step is, by what it does with the pool threads. -/
inductive StepOutcome (addr : Conn → Addr) (s : State Conn Addr) :
    Event Conn → State Conn Addr → Prop
  | opened (c : Conn) (free : s.Free) (t : Admission.State Conn Addr)
      (taken : Admission.step addr s.admission (.opened c) = some t) :
      StepOutcome addr s (.opened c) ⟨t, c :: s.pool⟩
  | completed (c : Conn) (ok : Bool) (free : s.Free) (t : Admission.State Conn Addr)
      (taken : Admission.step addr s.admission (.completed c ok) = some t) :
      StepOutcome addr s (.completed c ok) ⟨t, s.pool⟩
  | released (c : Conn) (t : Admission.State Conn Addr)
      (taken : Admission.step addr s.admission (.released c) = some t) :
      StepOutcome addr s (.released c) ⟨t, s.pool.erase c⟩
  | other (e : Event Conn) (opens : ∀ c, e ≠ .opened c) (completes : ∀ c ok, e ≠ .completed c ok)
      (releases : ∀ c, e ≠ .released c) (t : Admission.State Conn Addr)
      (taken : Admission.step addr s.admission e = some t) :
      StepOutcome addr s e ⟨t, s.pool⟩

theorem act_eq_some {addr : Conn → Addr} {s t : State Conn Addr} {e : Event Conn}
    {pool : List Conn} (h : s.act addr e pool = some t) :
    ∃ admission, Admission.step addr s.admission e = some admission ∧ ⟨admission, pool⟩ = t :=
  Option.map_eq_some_iff.mp h

theorem act_of_step {addr : Conn → Addr} {s : State Conn Addr} {e : Event Conn}
    {t : Admission.State Conn Addr} (taken : Admission.step addr s.admission e = some t)
    (pool : List Conn) : s.act addr e pool = some ⟨t, pool⟩ := by
  rw [State.act, taken]
  rfl

omit [DecidableEq Addr] in
/-- A handler that is moved stands where it is moved to, with its `status_`. -/
theorem moveTo_handler (s : Admission.State Conn Addr) (c : Conn) (place : Place) :
    (s.moveTo c place).handler c = { s.handler c with place := place } := by
  show Function.update s.handler c _ c = _
  rw [Function.update_self]

theorem pooled_step_cases {addr : Conn → Addr} {s t : State Conn Addr} {e : Event Conn}
    (h : step addr s e = some t) : StepOutcome addr s e t := by
  cases e with
  | opened c =>
      rw [step, Option.ite_none_right_eq_some] at h
      obtain ⟨admission, taken, rfl⟩ := act_eq_some h.2
      exact .opened c h.1 admission taken
  | completed c ok =>
      rw [step, Option.ite_none_right_eq_some] at h
      obtain ⟨admission, taken, rfl⟩ := act_eq_some h.2
      exact .completed c ok h.1 admission taken
  | released c =>
      obtain ⟨admission, taken, rfl⟩ := act_eq_some h
      exact .released c admission taken
  | test c =>
      obtain ⟨admission, taken, rfl⟩ := act_eq_some h
      exact .other _ (by simp) (by simp) (by simp) admission taken
  | poll c =>
      obtain ⟨admission, taken, rfl⟩ := act_eq_some h
      exact .other _ (by simp) (by simp) (by simp) admission taken
  | woken c sample_json =>
      obtain ⟨admission, taken, rfl⟩ := act_eq_some h
      exact .other _ (by simp) (by simp) (by simp) admission taken

/-- The pool machine restricts the admission machine. -/
theorem step_admission {addr : Conn → Addr} {s t : State Conn Addr} {e : Event Conn}
    (h : step addr s e = some t) : Admission.step addr s.admission e = some t.admission := by
  cases pooled_step_cases h with
  | opened c free t taken | completed c ok free t taken | released c t taken
  | other e opens completes releases t taken => exact taken

/-! ## Stuck, and not stuck -/

/-- **Three held handlers are held for ever.** -/
theorem stuck_of_held {addr : Conn → Addr} {s : State Conn Addr} (full : s.pool.length = 3)
    (held : ∀ c ∈ s.pool, (s.handler c).Held) : Stuck addr s := by
  intro es t run free
  have kept : t.pool.length = 3 ∧ ∀ c ∈ t.pool, (t.handler c).Held := by
    refine (pooled addr).inv_of_run
      (fun s => s.pool.length = 3 ∧ ∀ c ∈ s.pool, (s.handler c).Held) ?_ ⟨full, held⟩ run
    rintro s e t ⟨full, held⟩ h
    have busy : ¬ s.Free := fun free => Nat.ne_of_lt free full
    cases pooled_step_cases h with
    | opened c free t taken => exact absurd free busy
    | completed c ok free t taken => exact absurd free busy
    | released c t taken =>
        -- the handler that returns is none of the three
        have outside : c ∉ s.pool := fun mem =>
          (held_step taken (held c mem) (by simp) (by simp)).2 rfl
        rw [List.erase_of_not_mem outside]
        exact ⟨full, fun d mem => (held_step taken (held d mem) (by simp) (by simp)).1⟩
    | other e opens completes releases t taken =>
        exact ⟨full, fun d mem => (held_step taken (held d mem) opens completes).1⟩
  exact Nat.ne_of_lt free kept.1

/-- The handler of `c` returns by its own steps alone. -/
def Returns (addr : Conn → Addr) (s : State Conn Addr) (c : Conn) : Prop :=
  ∃ es t, (∀ e ∈ es, e = .test c ∨ e = .released c) ∧ (pooled addr).run s es = some t ∧
    t.pool = s.pool.erase c

/-- A loop test comes before the return. -/
theorem Returns.cons {addr : Conn → Addr} {s : State Conn Addr} {c : Conn}
    {t : Admission.State Conn Addr} (taken : testStep s.admission c = some t)
    (returns : Returns addr ⟨t, s.pool⟩ c) : Returns addr s c := by
  obtain ⟨es, u, own, run, last⟩ := returns
  refine ⟨.test c :: es, u, ?_, ?_, last⟩
  · intro e mem
    rcases List.mem_cons.mp mem with rfl | mem
    · exact Or.inl rfl
    · exact own e mem
  · have taken' : Admission.step addr s.admission (.test c) = some t := taken
    rw [Machine.run_cons]
    show (s.act addr (.test c) s.pool).bind _ = some u
    rw [act_of_step taken']
    exact run

theorem returns_of_place_leaving {addr : Conn → Addr} {s : State Conn Addr} {c : Conn}
    (place : (s.handler c).place = .leaving) : Returns addr s c := by
  refine ⟨[.released c], ⟨releasedStep s.admission c, s.pool.erase c⟩, ?_, ?_, rfl⟩
  · intro e mem
    exact Or.inr (List.mem_singleton.mp mem)
  · have taken : Admission.step addr s.admission (.released c) =
        some (releasedStep s.admission c) := if_pos place
    rw [Machine.run_cons]
    show (s.act addr (.released c) (s.pool.erase c)).bind _ = _
    rw [act_of_step taken]
    rfl

theorem returns_of_serving {addr : Conn → Addr} {s : State Conn Addr} {c : Conn}
    (place : (s.handler c).place = .serving) (told : (s.handler c).status_ ≠ 0) :
    Returns addr s c := by
  have taken : testStep s.admission c = some (s.admission.moveTo c .leaving) := by
    have place' : (s.admission.handler c).place = .serving := place
    rw [testStep, place']
    exact if_neg told
  refine Returns.cons taken (returns_of_place_leaving ?_)
  show ((s.admission.moveTo c .leaving).handler c).place = _
  rw [moveTo_handler]

/-- **Who is leaving returns by itself**, unless it has to be woken first. -/
theorem returns_of_leaving {addr : Conn → Addr} {s : State Conn Addr} {c : Conn}
    (leaving : (s.handler c).Leaving) (awake : (s.handler c).place ≠ .waiting) :
    Returns addr s c := by
  rcases leaving with ⟨place, one, zero⟩ | ⟨place | place, zero⟩ | place
  · have taken : testStep s.admission c =
        some { s.admission.moveTo c .serving with
          waiting := s.admission.waiting.erase c } := by
      have place' : (s.admission.handler c).place = .polling := place
      rw [testStep, place']
      exact if_neg one
    refine Returns.cons taken (returns_of_serving ?_ ?_)
    · show ((s.admission.moveTo c .serving).handler c).place = _
      rw [moveTo_handler]
    · show ((s.admission.moveTo c .serving).handler c).status_ ≠ 0
      rw [moveTo_handler]
      exact zero
  · exact returns_of_serving place zero
  · exact absurd place awake
  · exact returns_of_place_leaving place

/-- A handler that waits and is leaving breaks off when it is woken. -/
theorem woken_of_leaving {addr : Conn → Addr} {s : State Conn Addr} {c : Conn}
    (leaving : (s.handler c).Leaving) (place : (s.handler c).place = .waiting)
    (sample_json : Json) :
    step addr s (.woken c sample_json) = some ⟨s.admission.moveTo c .leaving, s.pool⟩ := by
  have zero : (s.admission.handler c).status_ ≠ 0 := by
    rcases leaving with ⟨other, -⟩ | ⟨-, zero⟩ | other
    · rw [place] at other
      cases other
    · exact zero
    · rw [place] at other
      cases other
  have place' : (s.admission.handler c).place = .waiting := place
  have taken : Admission.step addr s.admission (.woken c sample_json) =
      some (s.admission.moveTo c .leaving) := by
    show (if _ then _ else _) = _
    rw [if_pos place', wokenStep]
    exact congrArg some (if_pos zero)
  exact act_of_step taken s.pool

/-- A pool thread is free or will be. -/
def Lively (s : State Conn Addr) : Prop :=
  s.pool.length ≤ 2 ∨ ∃ c ∈ s.pool, (s.handler c).Leaving

theorem Returns.not_stuck {addr : Conn → Addr} {s : State Conn Addr} {c : Conn}
    (few : s.pool.length ≤ 3) (mem : c ∈ s.pool) (returns : Returns addr s c) :
    ¬ Stuck addr s := by
  intro stuck
  obtain ⟨es, t, -, run, pool⟩ := returns
  refine stuck es t run ?_
  show t.pool.length < 3
  rw [pool, List.length_erase_of_mem mem]
  omega

theorem not_stuck_of_lively {addr : Conn → Addr} {s : State Conn Addr}
    (few : s.pool.length ≤ 3) (lively : Lively s) : ¬ Stuck addr s := by
  rcases lively with free | ⟨c, mem, leaving⟩
  · exact fun stuck => stuck [] s rfl (Nat.lt_succ_of_le free)
  · by_cases place : (s.handler c).place = .waiting
    · -- it is woken first, which leads to a state that is not stuck
      have woken : step addr s (.woken c .null) = _ := woken_of_leaving leaving place .null
      intro stuck
      have returns :
          Returns addr (⟨s.admission.moveTo c .leaving, s.pool⟩ : State Conn Addr) c := by
        refine returns_of_place_leaving ?_
        show ((s.admission.moveTo c .leaving).handler c).place = _
        rw [moveTo_handler]
      refine Returns.not_stuck (s := ⟨s.admission.moveTo c .leaving, s.pool⟩) few mem returns
        fun es t run => ?_
      refine stuck (.woken c .null :: es) t ?_
      rw [Machine.run_cons]
      show (step addr s (.woken c .null)).bind _ = some t
      rw [woken]
      exact run
    · exact (returns_of_leaving leaving place).not_stuck few mem

/-! ## Runs that spare a thread -/

theorem length_le_three {addr : Conn → Addr} {s t : State Conn Addr} {e : Event Conn}
    (few : s.pool.length ≤ 3) (h : step addr s e = some t) : t.pool.length ≤ 3 := by
  cases pooled_step_cases h with
  | opened c free t taken => exact free
  | completed c ok free t taken | other e opens completes releases t taken => exact few
  | released c t taken => exact Nat.le_trans List.length_erase_le few

/-- Only the opening of a connection can use up what the pool needs. -/
theorem Lively.step {addr : Conn → Addr} {s t : State Conn Addr} {e : Event Conn}
    (few : s.pool.length ≤ 3) (lively : Lively s) (h : step addr s e = some t)
    (opens : ∀ c, e ≠ .opened c) : Lively t := by
  cases pooled_step_cases h with
  | opened c free t taken => exact absurd rfl (opens c)
  | completed c ok free t taken => exact Or.inl (Nat.le_of_lt_succ free)
  | released c t taken =>
      rcases lively with free | ⟨d, mem, leaving⟩
      · exact Or.inl (Nat.le_trans List.length_erase_le free)
      · by_cases same : d = c
        · subst same
          refine Or.inl ?_
          show (s.pool.erase d).length ≤ 2
          rw [List.length_erase_of_mem mem]
          omega
        · have kept := leaving_step taken leaving fun e => same (Event.released.inj e).symm
          exact Or.inr ⟨d, (List.mem_erase_of_ne same).mpr mem, kept⟩
  | other e opens completes releases t taken =>
      rcases lively with free | ⟨d, mem, leaving⟩
      · exact Or.inl free
      · exact Or.inr ⟨d, mem, leaving_step taken leaving (releases d)⟩

/-- What `on_open` finds when it starts. -/
theorem opened_handler {addr : Conn → Addr} {s t : Admission.State Conn Addr} {c : Conn}
    (h : Admission.step addr s (.opened c) = some t) :
    (s.handler c).place = .absent ∧ t.admitted = s.admitted ∧
      t.handler = Function.update s.handler c { Handler.absent with place := .polling } := by
  cases step_cases h with
  | opened c place => exact ⟨place, rfl, rfl⟩

/-- **The opening of a connection** leaves the pool lively exactly if it spares a
thread. -/
theorem lively_opened_iff {addr : Conn → Addr} {s : State Conn Addr} {c : Conn}
    {t : Admission.State Conn Addr} (free : s.Free)
    (taken : Admission.step addr s.admission (.opened c) = some t) :
    Lively (⟨t, c :: s.pool⟩ : State Conn Addr) ↔ Spares s (.opened c) := by
  obtain ⟨absent, -, handler⟩ := opened_handler taken
  have new : ¬ (t.handler c).Leaving := by
    rw [handler, Function.update_self]
    decide
  have old : ∀ d, (s.handler d).Leaving → (t.handler d).Leaving := by
    intro d leaving
    exact leaving_step taken leaving (by simp)
  constructor
  · intro lively two
    rcases lively with few | ⟨d, mem, leaving⟩
    · exact absurd few (by show ¬ s.pool.length + 1 ≤ 2; omega)
    · have ne : d ≠ c := fun same => new (same ▸ leaving)
      change (t.handler d).Leaving at leaving
      rw [handler, Function.update_of_ne ne] at leaving
      exact ⟨d, (List.mem_cons.mp mem).resolve_left ne, leaving⟩
  · intro spares
    by_cases two : s.pool.length = 2
    · obtain ⟨d, mem, leaving⟩ := spares two
      exact Or.inr ⟨d, List.mem_cons_of_mem c mem, old d leaving⟩
    · refine Or.inl ?_
      show s.pool.length + 1 ≤ 2
      have := Nat.le_of_lt_succ free
      omega

theorem lively_step_iff {addr : Conn → Addr} {s t : State Conn Addr} {e : Event Conn}
    (few : s.pool.length ≤ 3) (lively : Lively s) (h : step addr s e = some t) :
    Lively t ↔ Spares s e := by
  cases e with
  | opened c =>
      cases pooled_step_cases h with
      | opened c free t taken => exact lively_opened_iff free taken
      | other e opens completes releases t taken => exact absurd rfl (opens c)
  | test c | poll c | completed c ok | woken c sample_json | released c =>
      exact iff_of_true (lively.step few h (by simp)) trivial

/-! ## Admission on three threads -/

/-- The counter is exact, and whoever is past the first critical section is admitted. -/
structure Direct (s : Admission.State Conn Addr) : Prop where
  counter : s.socket_counter = s.admitted.length
  handler : ∀ c, (s.handler c).Running → c ∈ s.admitted ∨ (s.handler c).Newcomer

omit [DecidableEq Conn] [DecidableEq Addr] in
theorem direct_start : Direct (Admission.start : Admission.State Conn Addr) :=
  ⟨rfl, fun _ running => absurd rfl running.1⟩

omit [DecidableEq Addr] in
/-- A step of `c` only has to be checked at `c`, if it releases nobody else. -/
theorem Direct.of_update {s t : Admission.State Conn Addr} (direct : Direct s) (c : Conn)
    {h : Handler} (handler : t.handler = Function.update s.handler c h)
    (counter : t.socket_counter = t.admitted.length)
    (frame : ∀ d, d ≠ c → d ∈ s.admitted → d ∈ t.admitted)
    (own : h.Running → c ∈ t.admitted ∨ h.Newcomer) : Direct t := by
  refine ⟨counter, fun d => ?_⟩
  rw [handler]
  by_cases same : d = c
  · subst same
    rw [Function.update_self]
    exact own
  · rw [Function.update_of_ne same]
    intro running
    exact (direct.handler d running).imp_left (frame d same)

omit [DecidableEq Addr] in
/-- The same when nobody is admitted or released. -/
theorem Direct.setHandler {s t : Admission.State Conn Addr} (direct : Direct s) (c : Conn)
    {h : Handler} (handler : t.handler = Function.update s.handler c h)
    (socket_counter : t.socket_counter = s.socket_counter) (admitted : t.admitted = s.admitted)
    (own : h.Running → c ∈ s.admitted ∨ h.Newcomer) : Direct t := by
  refine direct.of_update c handler ?_ (fun d _ mem => ?_) ?_
  · rw [socket_counter, admitted]
    exact direct.counter
  · rwa [admitted]
  · rwa [admitted]

omit [DecidableEq Conn] [DecidableEq Addr] in
/-- Outside the first loop a handler is admitted. -/
theorem Direct.mem_admitted {s : Admission.State Conn Addr} (direct : Direct s) {c : Conn}
    (running : (s.handler c).Running) (past : ¬ (s.handler c).Newcomer) : c ∈ s.admitted :=
  (direct.handler c running).resolve_right past

theorem not_newcomer_of_place {h : Handler} {p : Place} (place : h.place = p)
    (outside : p.inFirstLoop = false) : ¬ h.Newcomer := by
  intro newcomer
  have inside := newcomer.place
  rw [place, outside] at inside
  cases inside

theorem running_of_place {h : Handler} {p : Place} (place : h.place = p)
    (present : p ≠ .absent) (unfinished : p ≠ .finished) : h.Running := by
  rw [Handler.Running, place]
  exact ⟨present, unfinished⟩

/-- **In the first critical section a connection is admitted**, as long as there are
places. -/
theorem Direct.polled {addr : Conn → Addr} {s t : Admission.State Conn Addr} (direct : Direct s)
    (consistent : Consistent s) (few : s.admitted.length < 22) {c : Conn}
    (place : (s.handler c).place = .entering) (outcome : PollOutcome addr s c t) :
    Direct t := by
  have running := running_of_place place nofun nofun
  have newcomer := (direct.handler c running).resolve_left (consistent.not_admitted place)
  have queued := newcomer.queued
  have counter := direct.counter
  cases outcome with
  | newcomer free _ =>
      refine direct.of_update c rfl ?_ (fun d _ mem => List.mem_append_left _ mem) fun _ => ?_
      · show s.socket_counter + 1 = (s.admitted ++ [c]).length
        rw [List.length_append, List.length_singleton, counter]
      · exact Or.inl (List.mem_append_right _ (List.mem_singleton_self c))
  | enqueued full _ | reported full _ => omega
  | fromQueue _ waiter _ _ | blocked _ waiter _ _ _ _ | undefined _ waiter _ =>
      rw [queued] at waiter
      cases waiter

theorem Direct.step {addr : Conn → Addr} {s t : Admission.State Conn Addr} {e : Event Conn}
    (direct : Direct s) (consistent : Consistent s) (few : s.admitted.length < 22)
    (taken : Admission.step addr s e = some t) : Direct t := by
  cases step_cases taken with
  | opened c place => exact direct.setHandler c rfl rfl rfl fun _ => Or.inr ⟨rfl, rfl, rfl, rfl⟩
  | entered c place status =>
      have running := running_of_place place nofun nofun
      refine direct.setHandler c rfl rfl rfl fun _ => ?_
      refine (direct.handler c running).imp_right fun newcomer => ?_
      exact ⟨rfl, newcomer.status_, newcomer.queued, newcomer.pending⟩
  | leftFirstLoop c place status =>
      have running := running_of_place place nofun nofun
      refine direct.setHandler c rfl rfl rfl fun _ => Or.inl ?_
      exact direct.mem_admitted running fun newcomer => status newcomer.status_
  | waited c place _ | leftSecondLoop c place _ | brokeOff c _ place _ | forwarded c _ place _ =>
      have running := running_of_place place nofun nofun
      refine direct.setHandler c rfl rfl rfl fun _ => Or.inl ?_
      exact direct.mem_admitted running (not_newcomer_of_place place rfl)
  | polled c place t outcome => exact direct.polled consistent few place outcome
  | completed c ok pending =>
      -- nothing has been sent to a newcomer
      have past : ¬ (s.handler c).Newcomer := fun newcomer =>
        Nat.ne_of_gt pending newcomer.pending
      exact direct.setHandler c rfl rfl rfl fun running =>
        Or.inl (direct.mem_admitted running past)
  | released c place =>
      have running := running_of_place place nofun nofun
      have mem := direct.mem_admitted running (not_newcomer_of_place place rfl)
      refine direct.of_update c (releasedStep_handler s c) ?_ (fun d other mem => ?_) ?_
      · have positive := List.length_pos_of_mem mem
        have counter := direct.counter
        rw [releasedStep_admitted, List.length_erase_of_mem mem]
        show (s.socket_counter + 65535) % 65536 = _
        omega
      · rw [releasedStep_admitted]
        exact (List.mem_erase_of_ne other).mpr mem
      · intro finished
        exact absurd rfl finished.2

/-! ## The invariant -/

/-- The pool threads are those of the running handlers. -/
structure Inv (s : State Conn Addr) : Prop where
  consistent : Consistent s.admission
  nodup : s.pool.Nodup
  few : s.pool.length ≤ 3
  running : ∀ c, c ∈ s.pool ↔ (s.handler c).Running
  direct : Direct s.admission

omit [DecidableEq Conn] [DecidableEq Addr] in
theorem inv_start : Inv (start : State Conn Addr) := by
  refine ⟨consistent_start, List.nodup_nil, Nat.zero_le 3, ?_, direct_start⟩
  intro c
  exact iff_of_false List.not_mem_nil fun running => running.1 rfl

omit [DecidableEq Conn] [DecidableEq Addr] in
/-- Fewer than 22 connections are admitted, since each admitted one has a thread. -/
theorem Inv.admitted_lt {s : State Conn Addr} (inv : Inv s) :
    s.admission.admitted.length < 22 := by
  have sub : s.admission.admitted ⊆ s.pool := by
    intro c mem
    obtain ⟨-, -, absent, -, finished⟩ := (inv.consistent.handler c).of_admitted mem
    exact (inv.running c).mpr ⟨absent, finished⟩
  have := inv.consistent.admitted_nodup.length_le_of_subset sub
  have := inv.few
  omega

/-- Who runs `on_open` after a step. -/
theorem running_step {addr : Conn → Addr} {s t : Admission.State Conn Addr} {e : Event Conn}
    (h : Admission.step addr s e = some t) (d : Conn) :
    (t.handler d).Running ↔ ((s.handler d).Running ∨ e = .opened d) ∧ e ≠ .released d := by
  have move := handlerMove_of_step h d
  generalize t.handler d = after at move ⊢
  cases move with
  | opened place => simp [Handler.Running]
  | completed ok pending => simp [Handler.Running]
  | entered place status | leftFirstLoop place status | waited place status
  | leftSecondLoop place status | polled place _ status _ _ | brokeOff _ place status
  | forwarded _ place status | released place => simp [Handler.Running, place]
  | kept e opens wakes releases => simp [opens, releases]

omit [DecidableEq Conn] [DecidableEq Addr] in
/-- **Nobody is told of an error in front of the critical section.** -/
theorem Inv.settled {s : State Conn Addr} (inv : Inv s) (c : Conn) : (s.handler c).Settled := by
  intro place
  have running := running_of_place place nofun nofun
  exact ((inv.direct.handler c running).resolve_left (inv.consistent.not_admitted place)).status_

/-- **The step invariant.** -/
theorem Inv.step {addr : Conn → Addr} {s t : State Conn Addr} {e : Event Conn} (inv : Inv s)
    (h : step addr s e = some t) : Inv t := by
  have taken := step_admission h
  have running := running_step taken
  refine ⟨inv.consistent.step taken, ?_, length_le_three inv.few h, ?_,
    inv.direct.step inv.consistent inv.admitted_lt taken⟩
  · cases pooled_step_cases h with
    | opened c free t taken =>
        refine List.nodup_cons.mpr ⟨fun mem => ?_, inv.nodup⟩
        exact ((inv.running c).mp mem).1 (opened_handler taken).1
    | completed c ok free t taken | other e opens completes releases t taken => exact inv.nodup
    | released c t taken => exact inv.nodup.erase c
  · intro d
    show d ∈ t.pool ↔ (t.admission.handler d).Running
    rw [running d, ← State.handler, ← inv.running d]
    cases pooled_step_cases h with
    | opened c free t taken =>
        rw [List.mem_cons]
        simp [or_comm, eq_comm]
    | completed c ok free t taken => simp
    | released c t taken =>
        rw [inv.nodup.mem_erase_iff]
        simp [and_comm, eq_comm]
    | other e opens completes releases t taken => simp [opens d, releases d]

/-- **The pool is stuck exactly if it is not lively.** -/
theorem Inv.responsive_iff {addr : Conn → Addr} {s : State Conn Addr} (inv : Inv s) :
    Responsive addr s ↔ Lively s := by
  constructor
  · intro responsive
    by_contra dead
    refine responsive inv.admitted_lt (stuck_of_held ?_ ?_)
    · have full : ¬ s.pool.length ≤ 2 := fun free => dead (Or.inl free)
      have := inv.few
      omega
    · intro c mem
      have either := (leaving_or_held_iff _).mpr ⟨(inv.running c).mp mem, inv.settled c⟩
      exact either.resolve_left fun leaving => dead (Or.inr ⟨c, mem, leaving⟩)
  · intro lively _
    exact not_stuck_of_lively inv.few lively

/-! ## Every run -/

/-- **The pool is responsive exactly as long as its last thread is given away only with
another handler leaving**, on every run.  The restriction of `Responsive` to fewer than 22
admitted connections is no restriction here, since every admitted connection has a pool
thread. -/
theorem responsive_iff_spares (addr : Conn → Addr) (es : List (Event Conn)) :
    (pooled addr).Throughout (Responsive addr) start es ↔
      (pooled addr).Along Spares start es := by
  refine (pooled addr).throughout_iff_along Inv (fun s e t inv _ h _ => inv.step h) ?_
    inv_start ?_
  · intro s e t inv responsive h
    rw [(inv.step h).responsive_iff]
    exact lively_step_iff inv.few (inv.responsive_iff.mp responsive) h
  · exact inv_start.responsive_iff.mpr (Or.inl (Nat.zero_le 2))

/-- Two connections are served, and a third arrives when the send to the first has
failed. -/
def sparing : List (Event ℕ) :=
  arrive 0 ++ arrive 1 ++ [.completed 0 false, .opened 2, .test 0, .test 0, .released 0]

/-- The pool is responsive throughout: a handler is leaving when the last thread is given
away. -/
theorem responsive_sparing :
    (pooled fun c : ℕ => c).Throughout (Responsive fun c : ℕ => c) start sparing :=
  (responsive_iff_spares (fun c : ℕ => c) sparing).mpr (by decide)

/-- A connection is admitted and waits on `socket_cv`. -/
def serve (c : ℕ) : List (Event ℕ) := arrive c ++ [.test c, .test c]

/-- Three connections are admitted, and all three pool threads wait on `socket_cv`. -/
theorem stuck_with_three_served :
    ∃ s, (pooled fun c : ℕ => c).run start (serve 0 ++ serve 1 ++ serve 2) = some s ∧
      s.admission.admitted = [0, 1, 2] ∧ ¬ Responsive (fun c : ℕ => c) s := by
  refine ⟨_, rfl, rfl, fun responsive => responsive (by decide) ?_⟩
  exact stuck_of_held rfl (by decide)

end PoolCapacity

end MyServer

end SpectrogramServers
