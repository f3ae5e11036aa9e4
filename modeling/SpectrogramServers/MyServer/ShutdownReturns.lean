import SpectrogramServers.MyServer.Shutdown

/-!
# When the destructor returns

The destructor of the server joins two threads, the server thread with its handlers and
then the image thread, and between the two it clears a flag and notifies.  `Shutdown` has
the machine and the condition on its steps, `Orderly`; here the condition is shown to be
exact.

## Good and doomed states

`Good` says what every join still has in front of it: in the first, only handlers that are
leaving and will be woken; in the second, an image thread that is past the wait it could
miss a notification in.  The two halves of the proof are

* **a good state leads to the end** of the destructor (`finishes_of_good`), by a way on
  that is written down, the handlers first and the image thread behind them;
* **what is not good is doomed**: a held handler, a sleeping handler with no notification
  to come, or an image thread that waits stays so whatever the others do, short of a
  spurious wake-up (`doomed_step`).

So a state is good exactly if the destructor can return from it (`returning_iff_good`),
and a step keeps a state good exactly if it is orderly (`good_step_iff`).  The equivalence
over runs is these two together.

## What is counted as a way on

`Leads` takes genuine steps only: a destructor that returns only if a wait wakes up for no
reason does not return.  `Blocked` is the converse of it, and on orderly runs the
destructor is blocked in neither of its joins.
-/

namespace SpectrogramServers.MyServer.Shutdown

open Admission PoolCapacity

universe u v

variable {Conn : Type u} {Addr : Type v} [DecidableEq Conn] [DecidableEq Addr]
variable {addr : Conn → Addr}

/-! ## The invariants -/

/-- Before the assignment to `runImageThread`. -/
def Destructor.runs : Destructor → Bool
  | .outside | .stopped | .joined => true
  | .cleared | .imageNotified | .socketNotified | .finished => false

/-- What holds on every run: the server's own invariant, and the flag `runImageThread` as
the place of the destructor has it. -/
structure Inv (s : State Conn Addr) : Prop where
  server : PoolCapacity.Inv s.server
  flag : s.runImageThread = s.destructor.runs

omit [DecidableEq Conn] [DecidableEq Addr] in
theorem inv_start : Inv (start : State Conn Addr) := ⟨PoolCapacity.inv_start, rfl⟩

theorem serve_eq_some {s t : State Conn Addr} {e : Admission.Event Conn}
    (h : s.serve addr e = some t) :
    ∃ server, PoolCapacity.step addr s.server e = some server ∧
      { s with server := server, notified := s.heard e } = t :=
  Option.map_eq_some_iff.mp h

/-- The steps of the destructor, one for each of its statements. -/
inductive DestructOutcome (s : State Conn Addr) : State Conn Addr → Prop
  | stop (outside : s.destructor = .outside) :
      DestructOutcome s { s with destructor := .stopped }
  | join (stopped : s.destructor = .stopped) (empty : s.server.pool = []) :
      DestructOutcome s { s with destructor := .joined }
  | clear (joined : s.destructor = .joined) :
      DestructOutcome s { s with runImageThread := false, destructor := .cleared }
  | notifyImage (cleared : s.destructor = .cleared) :
      DestructOutcome s { s.notifyImage with destructor := .imageNotified }
  | notifySocket (imageNotified : s.destructor = .imageNotified) :
      DestructOutcome s { s.notifySocket with destructor := .socketNotified }
  | finish (socketNotified : s.destructor = .socketNotified) (ended : s.imageThread = .ended) :
      DestructOutcome s { s with destructor := .finished }

omit [DecidableEq Conn] [DecidableEq Addr] in
theorem destruct_cases {s t : State Conn Addr} (h : s.destruct = some t) :
    DestructOutcome s t := by
  unfold State.destruct at h
  cases destructor : s.destructor with
  | outside =>
      rw [destructor] at h
      obtain rfl := Option.some.inj h
      exact .stop destructor
  | stopped =>
      rw [destructor] at h
      obtain ⟨empty, rfl⟩ := guarded_eq_some h
      exact .join destructor empty
  | joined =>
      rw [destructor] at h
      obtain rfl := Option.some.inj h
      exact .clear destructor
  | cleared =>
      rw [destructor] at h
      obtain rfl := Option.some.inj h
      exact .notifyImage destructor
  | imageNotified =>
      rw [destructor] at h
      obtain rfl := Option.some.inj h
      exact .notifySocket destructor
  | socketNotified =>
      rw [destructor] at h
      obtain ⟨ended, rfl⟩ := guarded_eq_some h
      exact .finish destructor ended
  | finished =>
      rw [destructor] at h
      cases h

/-- What a step is, by the thread that takes it. -/
inductive StepOutcome (addr : Conn → Addr) (s : State Conn Addr) :
    Event Conn → State Conn Addr → Prop
  | handler (e : Admission.Event Conn) (allowed : s.allows e = true)
      (server : PoolCapacity.State Conn Addr)
      (taken : PoolCapacity.step addr s.server e = some server) :
      StepOutcome addr s (.handler e) { s with server := server, notified := s.heard e }
  | handlerWakes (c : Conn) (sample_json : Json) (server : PoolCapacity.State Conn Addr)
      (taken : PoolCapacity.step addr s.server (.woken c sample_json) = some server) :
      StepOutcome addr s (.handlerWakes c sample_json)
        { s with server := server, notified := s.heard (.woken c sample_json) }
  | writeToBuffer (outside : s.destructor = .outside) :
      StepOutcome addr s .writeToBuffer s.notifyImage
  | imageTests (testing : s.imageThread = .testing) :
      StepOutcome addr s .imageTests
        { s with imageThread := if s.runImageThread then .locking else .ended }
  | imageWaits (locking : s.imageThread = .locking) :
      StepOutcome addr s .imageWaits { s with imageThread := .waiting }
  | imageWakes (waiting : s.imageThread = .waiting) :
      StepOutcome addr s .imageWakes { s with imageThread := .woken }
  | imagePasses (closes : Bool) (woken : s.imageThread = .woken) :
      StepOutcome addr s (.imagePasses closes)
        { s with imageThread := if closes then .notifying else .testing }
  | imageNotifies (notifying : s.imageThread = .notifying) :
      StepOutcome addr s .imageNotifies { s.notifySocket with imageThread := .testing }
  | destruct (t : State Conn Addr) (outcome : DestructOutcome s t) :
      StepOutcome addr s .destruct t

theorem step_cases {s t : State Conn Addr} {e : Event Conn} (h : step addr s e = some t) :
    StepOutcome addr s e t := by
  cases e with
  | handler e =>
      rw [step, Option.ite_none_right_eq_some] at h
      obtain ⟨server, taken, rfl⟩ := serve_eq_some h.2
      exact .handler e h.1 server taken
  | handlerWakes c sample_json =>
      obtain ⟨server, taken, rfl⟩ := serve_eq_some h
      exact .handlerWakes c sample_json server taken
  | writeToBuffer =>
      obtain ⟨outside, rfl⟩ := guarded_eq_some h
      exact .writeToBuffer outside
  | imageTests =>
      obtain ⟨testing, rfl⟩ := guarded_eq_some h
      exact .imageTests testing
  | imageWaits =>
      obtain ⟨locking, rfl⟩ := guarded_eq_some h
      exact .imageWaits locking
  | imageWakes =>
      obtain ⟨waiting, rfl⟩ := guarded_eq_some h
      exact .imageWakes waiting
  | imagePasses closes =>
      obtain ⟨woken, rfl⟩ := guarded_eq_some h
      exact .imagePasses closes woken
  | imageNotifies =>
      obtain ⟨notifying, rfl⟩ := guarded_eq_some h
      exact .imageNotifies notifying
  | destruct => exact .destruct t (destruct_cases h)

/-- **The step invariant.** -/
theorem Inv.step {s t : State Conn Addr} {e : Event Conn} (inv : Inv s)
    (h : step addr s e = some t) : Inv t := by
  cases step_cases h with
  | handler e allowed server taken => exact ⟨inv.server.step taken, inv.flag⟩
  | handlerWakes c sample_json server taken => exact ⟨inv.server.step taken, inv.flag⟩
  | writeToBuffer outside => exact ⟨inv.server, inv.flag⟩
  | imageTests testing => exact ⟨inv.server, inv.flag⟩
  | imageWaits locking => exact ⟨inv.server, inv.flag⟩
  | imageWakes waiting => exact ⟨inv.server, inv.flag⟩
  | imagePasses closes woken => exact ⟨inv.server, inv.flag⟩
  | imageNotifies notifying => exact ⟨inv.server, inv.flag⟩
  | destruct t outcome =>
      have flag := inv.flag
      cases outcome with
      | stop place | join place _ | notifyImage place | notifySocket place | finish place _ =>
          rw [place] at flag
          exact ⟨inv.server, flag⟩
      | clear _ => exact ⟨inv.server, rfl⟩

/-! ## Handlers -/

/-- A handler that is leaving does not go to wait; if it waits it has not been woken. -/
theorem waiting_of_leaving {s t : Admission.State Conn Addr} {e : Admission.Event Conn}
    (h : Admission.step addr s e = some t) {d : Conn} (leaving : (s.handler d).Leaving)
    (waiting : (t.handler d).place = .waiting) :
    (s.handler d).place = .waiting ∧ ∀ sample_json, e ≠ .woken d sample_json := by
  have move := handlerMove_of_step h d
  generalize t.handler d = after at move waiting
  cases move with
  | waited place status => simp [Handler.Leaving, place, status] at leaving
  | completed ok pending => exact ⟨waiting, by simp⟩
  | kept e opens wakes releases => exact ⟨waiting, wakes⟩
  | opened place | entered place status | leftFirstLoop place status
  | leftSecondLoop place status | polled place _ status _ _ | brokeOff _ place status
  | forwarded _ place status | released place => cases waiting

/-- A handler that sleeps is moved only by being woken or called back. -/
theorem handler_of_waiting {s t : Admission.State Conn Addr} {e : Admission.Event Conn}
    (h : Admission.step addr s e = some t) {d : Conn} (waiting : (s.handler d).place = .waiting)
    (wakes : ∀ sample_json, e ≠ .woken d sample_json)
    (completes : ∀ ok, e ≠ .completed d ok) : t.handler d = s.handler d := by
  have move := handlerMove_of_step h d
  generalize t.handler d = after at move ⊢
  cases move with
  | completed ok pending => exact absurd rfl (completes ok)
  | brokeOff sample_json _ _ | forwarded sample_json _ _ => exact absurd rfl (wakes sample_json)
  | kept e opens wakes releases => rfl
  | opened place | entered place status | leftFirstLoop place status | waited place status
  | leftSecondLoop place status | polled place _ status _ _ | released place =>
      -- every other move starts at another place
      rw [waiting] at place
      cases place

/-- Who is on the pool after a step that opens no connection was there before, and has
not returned. -/
theorem mem_pool_of_step {s t : PoolCapacity.State Conn Addr} {e : Admission.Event Conn}
    (nodup : s.pool.Nodup) (h : PoolCapacity.step addr s e = some t)
    (opens : ∀ c, e ≠ .opened c) (d : Conn) :
    d ∈ t.pool ↔ d ∈ s.pool ∧ e ≠ .released d := by
  cases pooled_step_cases h with
  | opened c free t taken => exact absurd rfl (opens c)
  | completed c ok free t taken => simp
  | released c t taken =>
      rw [nodup.mem_erase_iff]
      simp [and_comm, eq_comm]
  | other e opens completes releases t taken => simp [releases d]

/-- **What is ready stays ready** while the handlers run. -/
theorem State.ReadyIf.serve {s t : State Conn Addr} {p : Prop} (ready : s.ReadyIf p)
    (nodup : s.server.pool.Nodup) {e : Admission.Event Conn} (h : s.serve addr e = some t)
    (opens : ∀ c, e ≠ .opened c) : t.ReadyIf p := by
  obtain ⟨server, taken, rfl⟩ := serve_eq_some h
  intro d mem
  obtain ⟨before, stays⟩ := (mem_pool_of_step nodup taken opens d).mp mem
  obtain ⟨leaving, awake⟩ := ready d before
  have step := step_admission taken
  refine ⟨leaving_step step leaving stays, ?_⟩
  rintro ⟨waiting, unheard⟩
  obtain ⟨waited, wakes⟩ := waiting_of_leaving step leaving waiting
  refine awake ⟨waited, fun heard => unheard ?_⟩
  -- only the wake-up of `d` itself takes it out of `notified`
  show d ∈ s.heard e
  cases e with
  | woken c sample_json =>
      have other : d ≠ c := by
        rintro rfl
        exact wakes sample_json rfl
      exact (List.mem_erase_of_ne other).mpr heard
  | opened c | test c | poll c | completed c ok | released c => exact heard

/-! ## Good states -/

/-- What each of the two joins has in front of it.  Before the destructor is called
nothing has to hold. -/
structure Good (s : State Conn Addr) : Prop where
  serverThread : s.destructor = .stopped → s.Ready
  imageThread : s.destructor = .imageNotified ∨ s.destructor = .socketNotified →
    s.imageThread ≠ .locking ∧ s.imageThread ≠ .waiting

omit [DecidableEq Conn] [DecidableEq Addr] in
/-- A step that leaves the handlers as they are and does not lose a notification. -/
theorem State.Ready.mono {s t : State Conn Addr} (ready : s.Ready) (server : t.server = s.server)
    (notified : t.notified = s.notified) (notifies : s.MayNotify → t.MayNotify) : t.Ready := by
  intro c mem
  rw [server] at mem
  obtain ⟨leaving, awake⟩ := ready c mem
  refine ⟨by rw [server]; exact leaving, ?_⟩
  rintro ⟨waiting, unheard⟩
  rw [server] at waiting
  rw [notified] at unheard
  exact notifies (awake ⟨waiting, unheard⟩)

omit [DecidableEq Conn] [DecidableEq Addr] in
/-- After `socket_cv.notify_all()` nobody sleeps. -/
theorem not_asleep_notifySocket {s : State Conn Addr} {c : Conn} (mem : c ∈ s.server.pool) :
    ¬ s.notifySocket.Asleep c := by
  rintro ⟨waiting, unheard⟩
  exact unheard (List.mem_filter.mpr ⟨mem, decide_eq_true waiting⟩)

omit [DecidableEq Conn] [DecidableEq Addr] in
/-- `image_cv.notify_all()` reaches an image thread unless it is about to wait. -/
theorem notifyImage_past_iff (s : State Conn Addr) :
    (s.notifyImage.imageThread ≠ .locking ∧ s.notifyImage.imageThread ≠ .waiting) ↔
      s.imageThread ≠ .locking := by
  have thread : s.notifyImage.imageThread =
      if s.imageThread = .waiting then .woken else s.imageThread := rfl
  rw [thread]
  by_cases waiting : s.imageThread = .waiting
  · rw [if_pos waiting, waiting]
    decide
  · rw [if_neg waiting]
    exact and_iff_left waiting

omit [DecidableEq Conn] [DecidableEq Addr] in
theorem not_mayNotify_of_place {s : State Conn Addr} {place : ImagePlace}
    (there : s.imageThread = place) (woken : place ≠ .woken) (notifying : place ≠ .notifying) :
    ¬ s.MayNotify := by
  rintro (same | same)
  · exact woken (there.symm.trans same)
  · exact notifying (there.symm.trans same)

omit [DecidableEq Conn] [DecidableEq Addr] in
/-- The destructor is past the assignment when it is past a notification. -/
theorem Inv.flag_of_notified {s : State Conn Addr} (inv : Inv s)
    (past : s.destructor = .imageNotified ∨ s.destructor = .socketNotified) :
    s.runImageThread = false := by
  rw [inv.flag]
  rcases past with place | place <;> rw [place] <;> rfl

omit [DecidableEq Conn] [DecidableEq Addr] in
/-- The pass of the image thread that a handler sleeps for. -/
theorem ready_imagePasses_iff {s : State Conn Addr} (ready : s.Ready) (closes : Bool) :
    State.Ready { s with imageThread := if closes then .notifying else .testing } ↔
      ((∃ c ∈ s.server.pool, s.Asleep c) → closes = true) := by
  cases closes with
  | true =>
      refine iff_of_true ?_ fun _ => rfl
      exact ready.mono rfl rfl fun _ => Or.inr rfl
  | false =>
      constructor
      · rintro after ⟨c, mem, asleep⟩
        rcases (after c mem).2 asleep with woken | notifying
        · cases woken
        · cases notifying
      · intro none c mem
        refine ⟨(ready c mem).1, fun asleep => ?_⟩
        exact absurd (none ⟨c, mem, asleep⟩) (by decide)

omit [DecidableEq Conn] [DecidableEq Addr] in
theorem Good.destruct_iff {s t : State Conn Addr} (good : Good s) (h : DestructOutcome s t) :
    Good t ↔ Orderly s .destruct := by
  cases h with
  | stop outside =>
      constructor
      · intro after
        refine ⟨fun _ => after.serverThread rfl, fun place => ?_⟩
        rw [outside] at place
        cases place
      · intro orderly
        refine ⟨fun _ => orderly.1 outside, ?_⟩
        rintro (place | place) <;> cases place
  | join place _ | clear place | finish place _ =>
      refine iff_of_true ⟨nofun, ?_⟩ ⟨?_, ?_⟩
      · rintro (other | other) <;> cases other
      all_goals
        intro other
        rw [place] at other
        cases other
  | notifyImage cleared =>
      have after : Good { s.notifyImage with destructor := .imageNotified } ↔
          s.imageThread ≠ .locking := by
        rw [← notifyImage_past_iff]
        constructor
        · exact fun after => after.imageThread (Or.inl rfl)
        · exact fun past => ⟨nofun, fun _ => past⟩
      rw [after]
      constructor
      · intro missed
        refine ⟨fun place => ?_, fun _ => missed⟩
        rw [cleared] at place
        cases place
      · intro orderly
        exact orderly.2 cleared
  | notifySocket place =>
      refine iff_of_true ⟨nofun, fun _ => good.imageThread (Or.inl place)⟩ ⟨?_, ?_⟩
      all_goals
        intro other
        rw [place] at other
        cases other

/-- **The step lemma**: a good state stays good exactly if the step is orderly.  The steps
that matter are the two joins' entries and those that take back what a join needs. -/
theorem good_step_iff {s t : State Conn Addr} {e : Event Conn} (inv : Inv s) (good : Good s)
    (h : step addr s e = some t) : Good t ↔ Orderly s e := by
  cases step_cases h with
  | handler e allowed server taken =>
      refine iff_of_true ⟨fun stopped => ?_, good.imageThread⟩ trivial
      have served : s.serve addr e = some { s with server := server, notified := s.heard e } := by
        rw [State.serve, taken]
        rfl
      refine State.ReadyIf.serve (good.serverThread stopped) inv.server.nodup served ?_
      rintro c rfl
      have outside := of_decide_eq_true allowed
      rw [stopped] at outside
      cases outside
  | handlerWakes c sample_json server taken =>
      refine iff_of_true ⟨fun stopped => ?_, good.imageThread⟩ trivial
      have served : s.serve addr (.woken c sample_json) =
          some { s with server := server, notified := s.heard (.woken c sample_json) } := by
        rw [State.serve, taken]
        rfl
      exact State.ReadyIf.serve (good.serverThread stopped) inv.server.nodup served nofun
  | writeToBuffer outside =>
      refine iff_of_true ⟨fun stopped => ?_, ?_⟩ trivial
      · rw [State.notifyImage, outside] at stopped
        cases stopped
      · rintro (place | place) <;> rw [State.notifyImage, outside] at place <;> cases place
  | imageTests testing =>
      refine iff_of_true ⟨fun stopped => ?_, fun past => ?_⟩ trivial
      · have quiet := not_mayNotify_of_place testing nofun nofun
        exact (good.serverThread stopped).mono rfl rfl fun may => absurd may quiet
      · show (if s.runImageThread = true then ImagePlace.locking else .ended) ≠ .locking ∧
          (if s.runImageThread = true then ImagePlace.locking else .ended) ≠ .waiting
        rw [inv.flag_of_notified past]
        decide
  | imageWaits locking =>
      refine iff_of_true ⟨fun stopped => ?_, fun past => ?_⟩ trivial
      · have quiet := not_mayNotify_of_place locking nofun nofun
        exact (good.serverThread stopped).mono rfl rfl fun may => absurd may quiet
      · exact absurd locking (good.imageThread past).1
  | imageWakes waiting =>
      refine iff_of_true ⟨fun stopped => ?_, fun _ => ⟨nofun, nofun⟩⟩ trivial
      exact (good.serverThread stopped).mono rfl rfl fun _ => Or.inl rfl
  | imagePasses closes woken =>
      have past : (if closes = true then ImagePlace.notifying else .testing) ≠ .locking ∧
          (if closes = true then ImagePlace.notifying else .testing) ≠ .waiting := by
        cases closes <;> exact ⟨nofun, nofun⟩
      constructor
      · intro after stopped
        exact (ready_imagePasses_iff (good.serverThread stopped) closes).mp
          (after.serverThread stopped)
      · intro orderly
        refine ⟨fun stopped => ?_, fun _ => past⟩
        exact (ready_imagePasses_iff (good.serverThread stopped) closes).mpr (orderly stopped)
  | imageNotifies notifying =>
      refine iff_of_true ⟨fun stopped c mem => ?_, fun _ => ⟨nofun, nofun⟩⟩ trivial
      refine ⟨((good.serverThread stopped) c mem).1, fun asleep => ?_⟩
      exact absurd asleep (not_asleep_notifySocket mem)
  | destruct t outcome => exact good.destruct_iff outcome

/-! ## The end of the destructor -/

/-- The destructor can return. -/
def Finishes (addr : Conn → Addr) (s : State Conn Addr) : Prop :=
  ∃ t, Leads addr s t ∧ t.destructor = .finished

theorem Leads.refl (s : State Conn Addr) : Leads addr s s := ⟨[], nofun, rfl⟩

theorem Leads.head {s t u : State Conn Addr} {e : Event Conn} (h : step addr s e = some t)
    (genuine : e.Genuine) (rest : Leads addr t u) : Leads addr s u := by
  obtain ⟨es, genuines, run⟩ := rest
  refine ⟨e :: es, List.forall_mem_cons.mpr ⟨genuine, genuines⟩, ?_⟩
  rw [Machine.run_cons]
  show (step addr s e).bind _ = some u
  rw [h]
  exact run

theorem Leads.trans {s t u : State Conn Addr} (first : Leads addr s t) (second : Leads addr t u) :
    Leads addr s u := by
  obtain ⟨es, genuine, run⟩ := first
  obtain ⟨es', genuine', run'⟩ := second
  refine ⟨es ++ es', ?_, ?_⟩
  · intro e mem
    rcases List.mem_append.mp mem with before | after
    · exact genuine e before
    · exact genuine' e after
  · rw [Machine.run_append, run]
    exact run'

theorem Finishes.of_leads {s t : State Conn Addr} (leads : Leads addr s t)
    (rest : Finishes addr t) : Finishes addr s := by
  obtain ⟨u, more, finished⟩ := rest
  exact ⟨u, leads.trans more, finished⟩

theorem Finishes.head {s t : State Conn Addr} {e : Event Conn} (h : step addr s e = some t)
    (genuine : e.Genuine) (rest : Finishes addr t) : Finishes addr s := by
  obtain ⟨u, leads, finished⟩ := rest
  exact ⟨u, leads.head h genuine, finished⟩

/-- A move of the destructor comes first. -/
theorem Finishes.destruct {s t : State Conn Addr} (h : s.destruct = some t)
    (rest : Finishes addr t) : Finishes addr s :=
  rest.head (e := .destruct) h trivial

theorem finishes_of_ended {s : State Conn Addr} (place : s.destructor = .socketNotified)
    (ended : s.imageThread = .ended) : Finishes addr s := by
  have last : Finishes addr { s with destructor := .finished } := ⟨_, Leads.refl _, rfl⟩
  refine last.destruct ?_
  rw [State.destruct, place]
  exact if_pos ended

theorem finishes_of_testing {s : State Conn Addr} (place : s.destructor = .socketNotified)
    (flag : s.runImageThread = false) (testing : s.imageThread = .testing) :
    Finishes addr s := by
  have ended : Finishes addr { s with imageThread := .ended } := finishes_of_ended place rfl
  refine ended.head (e := .imageTests) ?_ trivial
  rw [step, if_pos testing, flag]
  rfl

/-- An image thread that is past its wait ends. -/
theorem finishes_of_socketNotified {s : State Conn Addr}
    (place : s.destructor = .socketNotified) (flag : s.runImageThread = false)
    (past : s.imageThread ≠ .locking ∧ s.imageThread ≠ .waiting) : Finishes addr s := by
  cases image : s.imageThread with
  | testing => exact finishes_of_testing place flag image
  | locking => exact absurd image past.1
  | waiting => exact absurd image past.2
  | woken =>
      have tested : Finishes addr { s with imageThread := .testing } :=
        finishes_of_testing place flag rfl
      exact tested.head (e := .imagePasses false) (if_pos image) trivial
  | notifying =>
      have tested : Finishes addr { s.notifySocket with imageThread := .testing } :=
        finishes_of_testing place flag rfl
      exact tested.head (e := .imageNotifies) (if_pos image) trivial
  | ended => exact finishes_of_ended place image

theorem finishes_of_imageNotified {s : State Conn Addr}
    (place : s.destructor = .imageNotified) (flag : s.runImageThread = false)
    (past : s.imageThread ≠ .locking ∧ s.imageThread ≠ .waiting) : Finishes addr s := by
  have next : Finishes addr { s.notifySocket with destructor := .socketNotified } :=
    finishes_of_socketNotified rfl flag past
  refine next.destruct ?_
  rw [State.destruct, place]

theorem finishes_of_cleared {s : State Conn Addr} (place : s.destructor = .cleared)
    (flag : s.runImageThread = false) : Finishes addr s := by
  -- once the image thread is not about to wait, the notification reaches it
  have notified : ∀ u : State Conn Addr, u.destructor = .cleared → u.runImageThread = false →
      u.imageThread ≠ .locking → Finishes addr u := by
    intro u place flag missed
    have next : Finishes addr { u.notifyImage with destructor := .imageNotified } :=
      finishes_of_imageNotified rfl flag ((notifyImage_past_iff u).mpr missed)
    refine next.destruct ?_
    rw [State.destruct, place]
  by_cases locking : s.imageThread = .locking
  · have waiting : Finishes addr { s with imageThread := .waiting } :=
      notified _ place flag nofun
    exact waiting.head (e := .imageWaits) (if_pos locking) trivial
  · exact notified s place flag locking

theorem finishes_of_joined {s : State Conn Addr} (place : s.destructor = .joined) :
    Finishes addr s := by
  have next : Finishes addr { s with runImageThread := false, destructor := .cleared } :=
    finishes_of_cleared rfl rfl
  refine next.destruct ?_
  rw [State.destruct, place]

/-- The steps by which a handler returns are steps of the server. -/
theorem leads_of_returns {c : Conn} {es : List (Admission.Event Conn)}
    (own : ∀ e ∈ es, e = .test c ∨ e = .released c) {s : State Conn Addr}
    {server : PoolCapacity.State Conn Addr} (run : (pooled addr).run s.server es = some server) :
    Leads addr s { s with server := server } := by
  induction es generalizing s with
  | nil =>
      obtain rfl := Option.some.inj run
      exact Leads.refl s
  | cons e es ih =>
      obtain ⟨u, taken, rest⟩ := Option.bind_eq_some_iff.mp run
      have after := ih (fun e mem => own e (List.mem_cons_of_mem _ mem))
        (s := { s with server := u }) rest
      refine after.head (e := .handler e) ?_ trivial
      have taken' : PoolCapacity.step addr s.server e = some u := taken
      rcases own e (List.mem_cons_self ..) with rfl | rfl
      · show s.serve addr _ = _
        rw [State.serve, taken']
        rfl
      · show s.serve addr _ = _
        rw [State.serve, taken']
        rfl

theorem ReadyIf.run {p : Prop} {c : Conn} {es : List (Admission.Event Conn)}
    (own : ∀ e ∈ es, e = .test c ∨ e = .released c) {s : State Conn Addr}
    (inv : PoolCapacity.Inv s.server) (ready : s.ReadyIf p)
    {server : PoolCapacity.State Conn Addr} (run : (pooled addr).run s.server es = some server) :
    PoolCapacity.Inv server ∧ State.ReadyIf { s with server := server } p := by
  induction es generalizing s with
  | nil =>
      obtain rfl := Option.some.inj run
      exact ⟨inv, ready⟩
  | cons e es ih =>
      obtain ⟨u, taken, rest⟩ := Option.bind_eq_some_iff.mp run
      have taken' : PoolCapacity.step addr s.server e = some u := taken
      have heard : s.heard e = s.notified ∧ ∀ c, e ≠ .opened c := by
        rcases own e (List.mem_cons_self ..) with rfl | rfl
        · exact ⟨rfl, nofun⟩
        · exact ⟨rfl, nofun⟩
      have served : s.serve addr e = some { s with server := u } := by
        rw [State.serve, taken', heard.1]
        rfl
      exact ih (fun e mem => own e (List.mem_cons_of_mem _ mem)) (s := { s with server := u })
        (inv.step taken') (ready.serve inv.nodup served heard.2) rest

/-- **The first join**, when nobody sleeps: the handlers return one after the other. -/
theorem finishes_of_awake (n : ℕ) {s : State Conn Addr} (count : s.server.pool.length = n)
    (inv : PoolCapacity.Inv s.server) (place : s.destructor = .stopped)
    (awake : s.ReadyIf False) : Finishes addr s := by
  induction n generalizing s with
  | zero =>
      have empty := List.length_eq_zero_iff.mp count
      have next : Finishes addr { s with destructor := .joined } := finishes_of_joined rfl
      refine next.destruct ?_
      rw [State.destruct, place]
      exact if_pos empty
  | succ n ih =>
      -- once `c` does not wait it returns, and one thread fewer is left
      have returns : ∀ {u : State Conn Addr} {c : Conn}, u.server.pool.length = n + 1 →
          PoolCapacity.Inv u.server → u.destructor = .stopped → u.ReadyIf False →
          c ∈ u.server.pool → (u.server.handler c).place ≠ .waiting → Finishes addr u := by
        intro u c count inv place awake mem runs
        obtain ⟨es, server, own, run, pool⟩ : Returns addr u.server c :=
          returns_of_leaving (awake c mem).1 runs
        obtain ⟨inv', awake'⟩ := ReadyIf.run own inv awake run
        have fewer : server.pool.length = n := by
          rw [pool, List.length_erase_of_mem mem, count]
          rfl
        have rest : Finishes addr { u with server := server } := ih fewer inv' place awake'
        exact rest.of_leads (leads_of_returns own run)
      have nonempty : 0 < s.server.pool.length := by omega
      obtain ⟨c, mem⟩ := List.exists_mem_of_length_pos nonempty
      by_cases waiting : (s.server.handler c).place = .waiting
      · have heard : c ∈ s.notified := by
          by_contra unheard
          exact (awake c mem).2 ⟨waiting, unheard⟩
        have woken : PoolCapacity.step addr s.server (.woken c .null) =
            some ⟨s.server.admission.moveTo c .leaving, s.server.pool⟩ :=
          woken_of_leaving (awake c mem).1 waiting .null
        have served : s.serve addr (.woken c .null) =
            some { s with
              server := ⟨s.server.admission.moveTo c .leaving, s.server.pool⟩
              notified := s.notified.erase c } := by
          rw [State.serve, woken]
          rfl
        have awake' := State.ReadyIf.serve (e := .woken c .null) awake inv.nodup served nofun
        have runs : ((s.server.admission.moveTo c .leaving).handler c).place ≠ .waiting := by
          rw [moveTo_handler]
          exact nofun
        have rest := returns (u := { s with
            server := ⟨s.server.admission.moveTo c .leaving, s.server.pool⟩
            notified := s.notified.erase c }) count (inv.step woken) place awake' mem runs
        refine rest.head (e := .handler (.woken c .null)) ?_ trivial
        rw [step, if_pos (show s.allows (.woken c .null) = true from decide_eq_true heard)]
        exact served
      · exact returns count inv place awake mem waiting

/-- The image thread notifies first, if a handler sleeps. -/
theorem finishes_of_ready {s : State Conn Addr} (inv : PoolCapacity.Inv s.server)
    (place : s.destructor = .stopped) (ready : s.Ready) : Finishes addr s := by
  have notifying : ∀ u : State Conn Addr, PoolCapacity.Inv u.server → u.destructor = .stopped →
      u.Ready → u.imageThread = .notifying → Finishes addr u := by
    intro u inv place ready image
    have next : Finishes addr { u.notifySocket with imageThread := .testing } := by
      refine finishes_of_awake _ rfl inv place fun c mem => ⟨(ready c mem).1, fun asleep => ?_⟩
      exact not_asleep_notifySocket mem asleep
    exact next.head (e := .imageNotifies) (if_pos image) trivial
  by_cases may : s.MayNotify
  · rcases may with woken | image
    · have next : Finishes addr { s with imageThread := .notifying } :=
        notifying _ inv place (ready.mono rfl rfl fun _ => Or.inr rfl) rfl
      exact next.head (e := .imagePasses true) (if_pos woken) trivial
    · exact notifying s inv place ready image
  · refine finishes_of_awake _ rfl inv place fun c mem => ⟨(ready c mem).1, fun asleep => ?_⟩
    exact may ((ready c mem).2 asleep)

/-- **A good state leads to the end of the destructor**: the handlers leave, the server
thread is joined, the image thread sees the flag, and the second join returns. -/
theorem finishes_of_good {s : State Conn Addr} (inv : Inv s) (good : Good s)
    (called : s.destructor ≠ .outside) : Finishes addr s := by
  cases place : s.destructor with
  | outside => exact absurd place called
  | stopped => exact finishes_of_ready inv.server place (good.serverThread place)
  | joined => exact finishes_of_joined place
  | cleared =>
      refine finishes_of_cleared place ?_
      rw [inv.flag, place]
      rfl
  | imageNotified =>
      exact finishes_of_imageNotified place (inv.flag_of_notified (Or.inl place))
        (good.imageThread (Or.inl place))
  | socketNotified =>
      exact finishes_of_socketNotified place (inv.flag_of_notified (Or.inr place))
        (good.imageThread (Or.inr place))
  | finished => exact ⟨s, Leads.refl s, place⟩

/-! ## Doomed states -/

/-- A join that will not return: of the server thread, for a handler that is held or that
sleeps with no notification to come; or of the image thread, for its own wait. -/
inductive Doomed (s : State Conn Addr) : Prop
  | held (c : Conn) (place : s.destructor = .stopped) (mem : c ∈ s.server.pool)
      (held : (s.server.handler c).Held)
  | asleep (c : Conn) (place : s.destructor = .stopped) (mem : c ∈ s.server.pool)
      (asleep : s.Asleep c) (quiet : ¬ s.MayNotify)
  | image (place : s.destructor = .imageNotified ∨ s.destructor = .socketNotified)
      (waits : s.imageThread = .locking ∨ s.imageThread = .waiting)

omit [DecidableEq Conn] [DecidableEq Addr] in
/-- A step of the destructor that is doomed only leads to the other join. -/
theorem Doomed.destruct {s t : State Conn Addr} (doomed : Doomed s) (h : DestructOutcome s t) :
    Doomed t ∧ s.destructor = .imageNotified := by
  cases doomed with
  | held c place mem _ | asleep c place mem _ _ =>
      exfalso
      cases h with
      | join _ empty =>
          rw [empty] at mem
          cases mem
      | stop other | clear other | notifyImage other | notifySocket other | finish other _ =>
          rw [place] at other
          cases other
  | image place waits =>
      cases h with
      | notifySocket here => exact ⟨.image (Or.inr rfl) waits, here⟩
      | finish _ ended =>
          rw [ended] at waits
          exact absurd waits (by decide)
      | stop other | clear other | notifyImage other | join other _ =>
          rw [other] at place
          exact absurd place (by decide)

/-- A handler that stays in the pool keeps the destructor in the first join. -/
theorem Doomed.handler {s : State Conn Addr} (doomed : Doomed s)
    (nodup : s.server.pool.Nodup) {e : Admission.Event Conn} (allowed : s.allows e = true)
    {server : PoolCapacity.State Conn Addr}
    (taken : PoolCapacity.step addr s.server e = some server) :
    Doomed { s with server := server, notified := s.heard e } := by
  have closed : s.destructor = .stopped →
      (∀ c, e ≠ .opened c) ∧ ∀ c ok, e ≠ .completed c ok := by
    intro place
    refine ⟨?_, ?_⟩
    · rintro c rfl
      have outside := of_decide_eq_true allowed
      rw [place] at outside
      cases outside
    · rintro c ok rfl
      have outside := of_decide_eq_true allowed
      rw [place] at outside
      cases outside
  have step := step_admission taken
  cases doomed with
  | held c place mem held =>
      obtain ⟨opens, completes⟩ := closed place
      obtain ⟨held', stays⟩ := held_step step held opens completes
      exact .held c place ((mem_pool_of_step nodup taken opens c).mpr ⟨mem, stays⟩) held'
  | asleep c place mem asleep quiet =>
      obtain ⟨opens, completes⟩ := closed place
      obtain ⟨waiting, unheard⟩ := asleep
      have wakes : ∀ sample_json, e ≠ .woken c sample_json := by
        rintro sample_json rfl
        exact unheard (of_decide_eq_true allowed)
      have same := handler_of_waiting step waiting wakes (completes c)
      have waiting' : (server.handler c).place = .waiting := by
        show (server.admission.handler c).place = .waiting
        rw [same]
        exact waiting
      refine .asleep c place ((mem_pool_of_step nodup taken opens c).mpr ⟨mem, ?_⟩)
        ⟨waiting', ?_⟩ quiet
      · rintro rfl
        -- a handler that returns is not waiting
        have gone : ¬ (server.handler c).Running := (running_step step c).not.mpr (by simp)
        refine gone ?_
        rw [Handler.Running, waiting']
        decide
      · intro heard
        refine unheard ?_
        change c ∈ s.heard e at heard
        cases e with
        | woken d sample_json => exact List.mem_of_mem_erase heard
        | opened d | test d | poll d | completed d ok | released d => exact heard
  | image place waits => exact .image place waits

omit [DecidableEq Conn] [DecidableEq Addr] in
/-- A step of the image thread, if no notification is to come of it and it stays where the
destructor waits for it. -/
theorem Doomed.imageMoves {s t : State Conn Addr} (doomed : Doomed s)
    (destructor : t.destructor = s.destructor) (server : t.server = s.server)
    (notified : ¬ s.MayNotify → t.notified = s.notified) (quiet : ¬ s.MayNotify → ¬ t.MayNotify)
    (waits : s.imageThread = .locking ∨ s.imageThread = .waiting →
      t.imageThread = .locking ∨ t.imageThread = .waiting) : Doomed t := by
  cases doomed with
  | held c place mem held =>
      rw [← destructor] at place
      rw [← server] at mem held
      exact .held c place mem held
  | asleep c place mem asleep silent =>
      obtain ⟨waiting, unheard⟩ := asleep
      rw [← destructor] at place
      rw [← server] at mem waiting
      rw [← notified silent] at unheard
      exact .asleep c place mem ⟨waiting, unheard⟩ (quiet silent)
  | image place image =>
      rw [← destructor] at place
      exact .image place (waits image)

/-- **What is doomed stays doomed** without a spurious wake-up, in the same join. -/
theorem doomed_step {s t : State Conn Addr} {e : Event Conn} (inv : Inv s) (doomed : Doomed s)
    (h : step addr s e = some t) (genuine : e.Genuine) :
    Doomed t ∧ (t.destructor = s.destructor ∨ s.destructor = .imageNotified) := by
  cases step_cases h with
  | handler e allowed server taken =>
      exact ⟨doomed.handler inv.server.nodup allowed taken, Or.inl rfl⟩
  | handlerWakes c sample_json server taken => exact genuine.elim
  | writeToBuffer outside =>
      exfalso
      cases doomed with
      | held c place _ _ | asleep c place _ _ _ =>
          rw [outside] at place
          cases place
      | image place _ =>
          rw [outside] at place
          exact absurd place (by decide)
  | imageTests testing =>
      refine ⟨doomed.imageMoves rfl rfl (fun _ => rfl) (fun _ => ?_) fun waits => ?_, Or.inl rfl⟩
      · show ¬ ((if s.runImageThread = true then ImagePlace.locking else .ended) = .woken ∨
          (if s.runImageThread = true then ImagePlace.locking else .ended) = .notifying)
        split_ifs <;> decide
      · rw [testing] at waits
        exact absurd waits (by decide)
  | imageWaits locking =>
      refine ⟨doomed.imageMoves rfl rfl (fun _ => rfl) (fun _ => ?_) fun _ => ?_, Or.inl rfl⟩
      · exact not_mayNotify_of_place rfl nofun nofun
      · exact Or.inr rfl
  | imageWakes waiting => exact genuine.elim
  | imagePasses closes woken =>
      have notifies : s.MayNotify := Or.inl woken
      refine ⟨doomed.imageMoves rfl rfl (absurd notifies) (absurd notifies) fun waits => ?_,
        Or.inl rfl⟩
      rw [woken] at waits
      exact absurd waits (by decide)
  | imageNotifies notifying =>
      have notifies : s.MayNotify := Or.inr notifying
      refine ⟨doomed.imageMoves rfl rfl (absurd notifies) (absurd notifies) fun waits => ?_,
        Or.inl rfl⟩
      rw [notifying] at waits
      exact absurd waits (by decide)
  | destruct t outcome =>
      obtain ⟨doomed', here⟩ := doomed.destruct outcome
      exact ⟨doomed', Or.inr here⟩

/-- The same for every way on. -/
theorem doomed_of_leads {s t : State Conn Addr} (inv : Inv s) (doomed : Doomed s)
    (leads : Leads addr s t) :
    Doomed t ∧ (t.destructor = s.destructor ∨ s.destructor = .imageNotified) := by
  obtain ⟨es, genuine, run⟩ := leads
  induction es generalizing s with
  | nil =>
      obtain rfl := Option.some.inj run
      exact ⟨doomed, Or.inl rfl⟩
  | cons e es ih =>
      obtain ⟨u, taken, rest⟩ := Option.bind_eq_some_iff.mp run
      have here : step addr s e = some u := taken
      obtain ⟨doomed', kept⟩ := doomed_step inv doomed here (genuine e (List.mem_cons_self ..))
      obtain ⟨doomed'', kept'⟩ := ih (inv.step here) doomed'
        (fun e mem => genuine e (List.mem_cons_of_mem _ mem)) rest
      refine ⟨doomed'', ?_⟩
      rcases kept with same | first
      · rw [← same]
        exact kept'
      · exact Or.inr first

omit [DecidableEq Conn] [DecidableEq Addr] in
/-- A doomed destructor has been called and has not returned. -/
theorem Doomed.not_finished {s : State Conn Addr} (doomed : Doomed s) :
    s.destructor ≠ .finished ∧ s.destructor ≠ .outside := by
  cases doomed with
  | held c place _ _ | asleep c place _ _ _ =>
      rw [place]
      exact ⟨nofun, nofun⟩
  | image place _ => rcases place with here | here <;> rw [here] <;> exact ⟨nofun, nofun⟩

/-- A doomed destructor that is in a join is blocked there. -/
theorem blocked_of_doomed {s : State Conn Addr} (inv : Inv s) (doomed : Doomed s)
    (joining : s.destructor = .stopped ∨ s.destructor = .socketNotified) : Blocked addr s := by
  refine ⟨joining, fun t leads => ?_⟩
  rcases (doomed_of_leads inv doomed leads).2 with same | other
  · exact same
  · rw [other] at joining
    exact absurd joining (by decide)

/-- A destructor that can return is not blocked. -/
theorem not_blocked_of_returning {s : State Conn Addr} (returning : Returning addr s) :
    ¬ Blocked addr s := by
  rintro ⟨joining, blocked⟩
  have called : s.destructor ≠ .outside := by
    intro outside
    rw [outside] at joining
    exact absurd joining (by decide)
  obtain ⟨t, leads, finished⟩ := returning called
  have same := blocked t leads
  rw [← same, finished] at joining
  exact absurd joining (by decide)

/-- **The destructor can return exactly in the good states**: from these there is a way
on, and the others are doomed. -/
theorem returning_iff_good {s : State Conn Addr} (inv : Inv s) : Returning addr s ↔ Good s := by
  constructor
  · intro returning
    have saved : ¬ Doomed s := by
      intro doomed
      obtain ⟨t, leads, finished⟩ := returning doomed.not_finished.2
      exact (doomed_of_leads inv doomed leads).1.not_finished.1 finished
    refine ⟨fun place c mem => ?_, fun place => ⟨?_, ?_⟩⟩
    · have either := (leaving_or_held_iff _).mpr
        ⟨(inv.server.running c).mp mem, inv.server.settled c⟩
      refine ⟨either.resolve_right fun held => saved (.held c place mem held), fun asleep => ?_⟩
      by_contra quiet
      exact saved (.asleep c place mem asleep quiet)
    · exact fun locking => saved (.image place (Or.inl locking))
    · exact fun waiting => saved (.image place (Or.inr waiting))
  · intro good called
    exact finishes_of_good inv good called

/-! ## Every run -/

omit [DecidableEq Conn] [DecidableEq Addr] in
theorem good_start : Good (start : State Conn Addr) := by
  refine ⟨nofun, ?_⟩
  rintro (place | place) <;> cases place

/-- **The destructor can return from every state exactly in the orderly runs**, and in
those it is blocked in neither of its joins.  The equivalence is over all interleavings of
the handlers, the image thread and the destructor, with a spurious wake-up at any point of
the run; only the way on from a state has none. -/
theorem returning_iff_orderly (addr : Conn → Addr) (es : List (Event Conn)) :
    ((shutdown addr).Throughout (Returning addr) start es ↔
      (shutdown addr).Along Orderly start es) ∧
    ((shutdown addr).Along Orderly start es →
      (shutdown addr).Throughout (fun s => ¬ Blocked addr s) start es) := by
  have exactly : (shutdown addr).Throughout (Returning addr) start es ↔
      (shutdown addr).Along Orderly start es := by
    refine (shutdown addr).throughout_iff_along Inv (fun s e t inv _ h _ => inv.step h) ?_
      inv_start ?_
    · intro s e t inv returning h
      rw [returning_iff_good (inv.step h)]
      exact good_step_iff inv ((returning_iff_good inv).mp returning) h
    · exact (returning_iff_good inv_start).mpr good_start
  refine ⟨exactly, fun orderly => ?_⟩
  exact (exactly.mpr orderly).mono _ fun s returning => not_blocked_of_returning returning

/-- The destructor is called while a client whose send has failed waits on `socket_cv`, and
the image thread is about to close a file. -/
def leavingClient : List (Event ℕ) :=
  (serve 0).map .handler ++
    [.handler (.completed 0 false), .imageTests, .imageWaits, .writeToBuffer, .destruct,
      .imagePasses true, .imageNotifies, .handler (.woken 0 .null), .handler (.released 0),
      .destruct, .destruct, .destruct, .imageTests, .destruct, .destruct]

/-- The client is woken by the closing, and the destructor returns. -/
theorem returning_leavingClient :
    (∃ t, (shutdown fun c : ℕ => c).run start leavingClient = some t ∧
      t.destructor = .finished) ∧
    (shutdown fun c : ℕ => c).Throughout (fun s => ¬ Blocked (fun c : ℕ => c) s) start
      leavingClient :=
  ⟨⟨_, rfl, rfl⟩, (returning_iff_orderly (fun c : ℕ => c) leavingClient).2 (by decide)⟩

/-- The destructor is called while one client is served. -/
def servedClient : List (Event ℕ) := (serve 0).map .handler ++ [.destruct]

/-- The destructor notifies the image thread just before it waits. -/
def lostWakeUp : List (Event ℕ) :=
  [.imageTests, .destruct, .destruct, .destruct, .destruct, .destruct, .imageWaits]

/-- Either join can be blocked: the first with one client that is being served, the second
with none, by a notification that is lost. -/
theorem blocked_destructor :
    (∃ s, (shutdown fun c : ℕ => c).run start servedClient = some s ∧
      s.destructor = .stopped ∧ Blocked (fun c : ℕ => c) s) ∧
    ∃ s, (shutdown fun c : ℕ => c).run start lostWakeUp = some s ∧
      s.destructor = .socketNotified ∧ Blocked (fun c : ℕ => c) s := by
  have inv : ∀ es s, (shutdown fun c : ℕ => c).run start es = some s → Inv s :=
    fun _ _ => (shutdown fun c : ℕ => c).inv_of_run Inv (fun _ _ _ inv h => inv.step h) inv_start
  refine ⟨⟨_, rfl, rfl, ?_⟩, ⟨_, rfl, rfl, ?_⟩⟩
  · exact blocked_of_doomed (inv servedClient _ rfl) (.held 0 rfl (by decide) (by decide))
      (Or.inl rfl)
  · exact blocked_of_doomed (inv lostWakeUp _ rfl) (.image (Or.inr rfl) (Or.inr rfl)) (Or.inr rfl)

end SpectrogramServers.MyServer.Shutdown
