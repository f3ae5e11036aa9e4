import SpectrogramServers.CloudServer.Delivery
import SpectrogramServers.CloudServer.Pool

/-!
# When the pool is stuck

The server runs its `on_close` handlers on three pool threads, and a handler waits in
`join` for the notify thread of its entry.  Where a notify thread has not been told that
its connection is gone, it does not end, and the handler holds its pool thread.  With all
three held there is no thread left for `on_open` or for the callbacks that would tell it:
`Pool.Stuck`.

## One kind of step leads there

A step that leads to a stuck state is always a call of `join`, because everything else
either leaves the handlers and what they wait for as they are, or needs or makes a pool
thread that is not blocked (`stuck_step_iff`).  The call fixes the thread it waits for, so
what decides is the state in which it is made: it must not be the third to wait for a
thread that has not been told (`Spares`).  `unstuck_iff_spares` carries this equivalence
over runs.

## No way out

For the same reason nothing leads out of a stuck state (`stuck_forever`).  The notify
threads may still run and send, but a thread leaves its loop only when it has been told
(`Told`), only a callback tells it (`untold_step`), and a callback needs the pool.

The proofs never look into the registry's vector: which thread a handler waits for is
recorded in its stage, and erasing an entry, even a wrong one, changes no stage of
another.
-/

namespace SpectrogramServers.CloudServer.Pool

open Announcements (NotifyThread ThreadMove StepOutcome)
open Registry (OnClose Entry Stage handler?_eq_some act_cases)

universe u

variable {C : Type u} [DecidableEq C] {grow : ℕ → ℕ} {put_time : ℤ → String}

/-! ## Notify threads -/

/-- Where the notify thread of `c` comes from: it is started, it has moved, it has been
notified, or it is as it was. -/
inductive ThreadOrigin (server : Announcements.State C) (e : Announcements.Event C) (c : C) :
    NotifyThread → Prop
  | fresh (started : e = .opened c) : ThreadOrigin server e c .fresh
  | moved (before after : NotifyThread) (present : server.notifyThreads c = some before)
      (move : ThreadMove server c before e after) : ThreadOrigin server e c after
  | notified (before : NotifyThread) (present : server.notifyThreads c = some before) :
      ThreadOrigin server e c before.notified
  | kept (thread : NotifyThread) (present : server.notifyThreads c = some thread) :
      ThreadOrigin server e c thread

/-- Every notify thread after a step has come about in one of these four ways. -/
theorem threadOrigin_of_step {server server' : Announcements.State C}
    {e : Announcements.Event C} (h : Announcements.step put_time server e = some server') {c : C}
    {thread : NotifyThread} (found : server'.notifyThreads c = some thread) :
    ThreadOrigin server e c thread := by
  cases Announcements.step_cases h with
  | opened d _ =>
      rcases Announcements.setThread_found found with ⟨rfl, rfl⟩ | found
      · exact .fresh rfl
      · exact .kept thread found
  | moved d before after e present move =>
      rcases Announcements.setThread_found found with ⟨rfl, rfl⟩ | found
      · exact .moved before after present move
      · exact .kept thread found
  | announce i scheduleTime => exact .kept thread found
  | notify_all i =>
      change (server.notifyThreads c).map NotifyThread.notified = some thread at found
      obtain ⟨before, present, rfl⟩ := Option.map_eq_some_iff.mp found
      exact .notified before present

theorem notified_status (thread : NotifyThread) : thread.notified.status_ = thread.status_ := by
  rw [NotifyThread.notified]
  split
  next => rfl
  next => rfl

omit [DecidableEq C] in
/-- Only a callback changes `status_`, and never to 0. -/
theorem threadMove_status {server : Announcements.State C} {c : C}
    {thread thread' : NotifyThread} {e : Announcements.Event C}
    (move : ThreadMove server c thread e thread') :
    thread'.status_ = thread.status_ ∨ e = .sendFailed c ∧ thread'.status_ ≠ 0 := by
  cases move with
  | wait _ =>
      left
      rw [NotifyThread.wait]
      split
      next => rfl
      next => rfl
  | wake _ => exact Or.inl rfl
  | send _ =>
      left
      rw [NotifyThread.send]
      split
      next => rfl
      next => rfl
  | sendFailed _ => exact Or.inr ⟨rfl, fun zero => by cases zero⟩

/-- Only `on_open` makes a thread that has not been told. -/
theorem untold_of_step {server server' : Announcements.State C} {e : Announcements.Event C}
    (h : Announcements.step put_time server e = some server') (running : ∀ c, e ≠ .opened c)
    {c : C} (untold : ∃ thread, server'.notifyThreads c = some thread ∧ thread.status_ = 0) :
    ∃ thread, server.notifyThreads c = some thread ∧ thread.status_ = 0 := by
  obtain ⟨thread, found, zero⟩ := untold
  cases threadOrigin_of_step h found with
  | fresh started => exact absurd started (running c)
  | moved before after present move =>
      refine ⟨before, present, ?_⟩
      rcases threadMove_status move with same | ⟨-, told⟩
      · exact same.symm.trans zero
      · exact absurd zero told
  | notified before present => exact ⟨before, present, (notified_status before).symm.trans zero⟩
  | kept thread present => exact ⟨thread, present, zero⟩

/-! ## Handlers -/

omit [DecidableEq C] in
/-- Fewer running threads that have not been told block no more handlers.  This is the
form in which all steps that are no `join` are dealt with. -/
theorem State.Blocked.of_le {s t : State C} {handler : OnClose C} (blocked : t.Blocked handler)
    (looping : ∀ c ∈ t.registry.looping, c ∈ s.registry.looping)
    (untold : ∀ c, t.Untold c → s.Untold c) : s.Blocked handler := by
  obtain ⟨thread, waits, runs, status⟩ := blocked
  exact ⟨thread, waits, looping _ runs, untold _ status⟩

omit [DecidableEq C] in
theorem Stuck.of_le {s t : State C} (stuck : Stuck t)
    (handlers : t.registry.handlers = s.registry.handlers)
    (looping : ∀ c ∈ t.registry.looping, c ∈ s.registry.looping)
    (untold : ∀ c, t.Untold c → s.Untold c) : Stuck s := by
  obtain ⟨three, blocked⟩ := stuck
  rw [handlers] at three blocked
  exact ⟨three, fun handler member => (blocked handler member).of_le looping untold⟩

omit [DecidableEq C] in
/-- A handler that does not wait for a thread is not blocked. -/
theorem not_stuck_of_stage {s : State C} {handler : OnClose C}
    (member : handler ∈ s.registry.handlers)
    (elsewhere : ∀ thread, handler.stage ≠ .joining thread) : ¬ Stuck s := by
  intro stuck
  obtain ⟨thread, waits, -⟩ := stuck.2 handler member
  exact elsewhere thread waits

omit [DecidableEq C] in
theorem not_stuck_of_free {s : State C} (free : s.registry.handlers.length < 3) : ¬ Stuck s :=
  fun stuck => Nat.ne_of_lt free stuck.1

/-- The handler that has come to `stage`, among the others. -/
theorem mem_moveTo {registry : Registry.State C} {handler : OnClose C}
    (member : handler ∈ registry.handlers) (stage : Stage C) :
    { handler with stage := stage } ∈ (registry.moveTo handler stage).handlers :=
  List.mem_map.mpr ⟨handler, member, if_pos rfl⟩

omit [DecidableEq C] in
theorem on_open_handlers_length (registry : Registry.State C) (c : C) :
    (registry.on_open grow c).handlers.length = registry.handlers.length := by
  show (registry.push_back grow c).handlers.length = _
  rw [Registry.State.push_back]
  split
  · exact List.length_map _
  · rfl

/-- A handler that returns makes room. -/
theorem erased_handlers_length {registry : Registry.State C} {handler : OnClose C}
    (member : handler ∈ registry.handlers) :
    (registry.erased handler).handlers.length < registry.handlers.length := by
  show (List.map _ (registry.handlers.filter _)).length < _
  rw [List.length_map]
  refine List.length_filter_lt_length_iff_exists.mpr ⟨handler, member, ?_⟩
  simp

/-! ## What a step can do -/

theorem actRegistry_eq_some {s t : State C} {e : Registry.Event C}
    (h : s.actRegistry grow e = some t) :
    ∃ registry, s.registry.act grow e = some registry ∧ t = { s with registry := registry } := by
  obtain ⟨registry, act, rest⟩ := Option.bind_eq_some_iff.mp h
  exact ⟨registry, act, (Option.some.inj rest).symm⟩

theorem actServer_eq_some {s t : State C} {e : Announcements.Event C}
    (h : s.actServer put_time e = some t) :
    ∃ server, Announcements.step put_time s.server e = some server ∧
      t = { s with server := server } := by
  obtain ⟨server, act, rest⟩ := Option.bind_eq_some_iff.mp h
  exact ⟨server, act, (Option.some.inj rest).symm⟩

/-- A step that starts no connection and is no callback: what the notify threads and the
capture thread do by themselves, without the pool. -/
def Quiet (e : Announcements.Event C) : Prop :=
  (∀ c, e ≠ .opened c) ∧ ∀ c, e ≠ .sendFailed c

/-- A step is one of the registry, one of the notify and capture threads, which may
send, or both; or it is a callback. -/
inductive Outcome (grow : ℕ → ℕ) (put_time : ℤ → String) (s : State C) :
    Event C → State C → Prop
  | opened (c : C) (registry : Registry.State C) (server : Announcements.State C)
      (act : s.registry.act grow (.opened c) = some registry)
      (taken : Announcements.step put_time s.server (.opened c) = some server) :
      Outcome grow put_time s (.opened c) { s with registry := registry, server := server }
  | search (c : C) (registry : Registry.State C)
      (act : s.registry.act grow (.search c) = some registry) :
      Outcome grow put_time s (.search c) { s with registry := registry }
  | join (c : C) (registry : Registry.State C)
      (act : s.registry.act grow (.join c) = some registry) :
      Outcome grow put_time s (.join c) { s with registry := registry }
  | joined (c : C) (registry : Registry.State C)
      (act : s.registry.act grow (.joined c) = some registry) :
      Outcome grow put_time s (.joined c) { s with registry := registry }
  | erase (c : C) (registry : Registry.State C)
      (act : s.registry.act grow (.erase c) = some registry) :
      Outcome grow put_time s (.erase c) { s with registry := registry }
  | ended (c : C) (registry : Registry.State C)
      (left : s.At c (· = .left) (fun _ => true) = true)
      (act : s.registry.act grow (.ended c) = some registry) :
      Outcome grow put_time s (.ended c) { s with registry := registry }
  | server (e : Event C) (other : ∀ c, e ≠ .join c) (e' : Announcements.Event C)
      (quiet : Quiet e') (server : Announcements.State C) (pending : List C)
      (taken : Announcements.step put_time s.server e' = some server) :
      Outcome grow put_time s e { s with server := server, pending := pending }
  | completed (c : C) (free : s.registry.Free) :
      Outcome grow put_time s (.completed c false) { s with pending := s.pending.erase c }
  | failed (c : C) (free : s.registry.Free) (server : Announcements.State C)
      (taken : Announcements.step put_time s.server (.sendFailed c) = some server) :
      Outcome grow put_time s (.completed c true)
        { s with server := server, pending := s.pending.erase c }

theorem step_cases {s t : State C} {e : Event C} (h : step grow put_time s e = some t) :
    Outcome grow put_time s e t := by
  rw [step, Option.ite_none_right_eq_some] at h
  obtain ⟨-, h⟩ := h
  have alone : ∀ {e' : Announcements.Event C}, s.actServer put_time e' = some t →
      (∀ c, e ≠ .join c) → Quiet e' → Outcome grow put_time s e t := by
    intro e' act other quiet
    obtain ⟨server, taken, rfl⟩ := actServer_eq_some act
    exact .server e other e' quiet server s.pending taken
  cases e with
  | opened c =>
      obtain ⟨u, first, second⟩ := Option.bind_eq_some_iff.mp h
      obtain ⟨registry, act, rfl⟩ := actRegistry_eq_some first
      obtain ⟨server, taken, rfl⟩ := actServer_eq_some second
      exact .opened c registry server act taken
  | search c =>
      obtain ⟨registry, act, rfl⟩ := actRegistry_eq_some h
      exact .search c registry act
  | join c =>
      obtain ⟨registry, act, rfl⟩ := actRegistry_eq_some h
      exact .join c registry act
  | joined c =>
      obtain ⟨registry, act, rfl⟩ := actRegistry_eq_some h
      exact .joined c registry act
  | erase c =>
      obtain ⟨registry, act, rfl⟩ := actRegistry_eq_some h
      exact .erase c registry act
  | wait c => exact alone h (by simp) ⟨by simp, by simp⟩
  | wake c => exact alone h (by simp) ⟨by simp, by simp⟩
  | send c =>
      obtain ⟨u, sent, rest⟩ := Option.bind_eq_some_iff.mp h
      obtain ⟨server, taken, rfl⟩ := actServer_eq_some sent
      obtain rfl := Option.some.inj rest
      exact .server (.send c) (by simp) (.send c) ⟨by simp, by simp⟩ server _ taken
  | ended c =>
      rw [State.act, Option.ite_none_right_eq_some] at h
      obtain ⟨left, h⟩ := h
      obtain ⟨registry, act, rfl⟩ := actRegistry_eq_some h
      exact .ended c registry left act
  | completed c failed =>
      rw [State.act, Option.ite_none_right_eq_some] at h
      obtain ⟨⟨-, free, -⟩, h⟩ := h
      cases failed with
      | false =>
          obtain rfl := Option.some.inj h
          exact .completed c free
      | true =>
          obtain ⟨server, taken, rfl⟩ := actServer_eq_some h
          exact .failed c free server taken
  | announce i scheduleTime => exact alone h (by simp) ⟨by simp, by simp⟩
  | notify_all i => exact alone h (by simp) ⟨by simp, by simp⟩

/-- An `on_close` that has come as far as its entry does not wait yet. -/
theorem not_stuck_search {s : State C} {c : C} (free : s.registry.Free) :
    ¬ Stuck { s with registry := s.registry.search c } := by
  unfold Registry.State.search
  split
  next position _ =>
      have last : (⟨c, s.registry.storage, position, .found, true⟩ : OnClose C) ∈
          s.registry.handlers ++ [⟨c, s.registry.storage, position, .found, true⟩] :=
        List.mem_append_right _ (List.mem_singleton_self _)
      refine not_stuck_of_stage last fun thread waits => ?_
      cases waits
  next => exact not_stuck_of_free free

/-- When `join` returns, the handler goes on to its erase or has run out of the vector. -/
theorem not_stuck_returned {s : State C} {handler : OnClose C} {thread : C}
    (member : handler ∈ s.registry.handlers) (waits : handler.stage = .joining thread)
    (ended : thread ∉ s.registry.looping) :
    ¬ Stuck { s with registry := s.registry.returned handler } := by
  rw [Registry.State.returned]
  cases inside : s.registry.at? handler with
  | none =>
      rintro ⟨-, blocked⟩
      obtain ⟨other, same, runs, -⟩ := blocked handler member
      obtain rfl := Stage.joining.inj (waits.symm.trans same)
      exact ended runs
  | some entry =>
      refine not_stuck_of_stage (mem_moveTo member .joined) fun other waits => ?_
      cases waits

theorem not_stuck_erase {s : State C} {handler : OnClose C}
    (few : s.registry.handlers.length ≤ 3) (member : handler ∈ s.registry.handlers)
    (joined : handler.stage = .joined) :
    ¬ Stuck { s with registry := s.registry.erase handler } := by
  have elsewhere : ∀ thread, handler.stage ≠ .joining thread := by
    intro thread waits
    rw [joined] at waits
    cases waits
  rw [Registry.State.erase]
  cases s.registry.at? handler with
  | none => exact not_stuck_of_stage member elsewhere
  | some entry =>
      dsimp only
      split
      next => exact not_stuck_of_stage member elsewhere
      next => exact not_stuck_of_free (Nat.lt_of_lt_of_le (erased_handlers_length member) few)

/-- Whom a call of `join` blocks: the handler that makes it, if the thread at its
iterator holds it, and whoever was blocked before. -/
theorem blocked_moveTo_iff {s : State C} {handler other : OnClose C} {thread : C}
    (joins : List C) (holds : thread ∈ s.registry.looping ∧ s.Untold thread) :
    State.Blocked { s with registry :=
        { s.registry.moveTo handler (.joining thread) with joins := joins } }
      (if other.connection = handler.connection then { other with stage := .joining thread }
        else other) ↔
      (other.connection ≠ handler.connection → s.Blocked other) := by
  split
  next same =>
      refine iff_of_true ?_ fun different => absurd same different
      exact ⟨thread, rfl, holds⟩
  next different =>
      constructor
      · intro blocked _
        exact blocked
      · intro blocked
        exact blocked different

/-- **The last pool thread**: a call of `join` makes the state stuck exactly when it waits
for a thread that has not been told and the two other handlers are blocked.  It fixes the
thread, so later steps do not matter. -/
theorem stuck_join_iff {s : State C} {handler : OnClose C}
    (member : handler ∈ s.registry.handlers) (begins : handler.stage = .found) :
    Stuck { s with registry := s.registry.join handler } ↔
      (∃ entry, s.registry.at? handler = some entry ∧ s.Holds entry) ∧
        s.registry.handlers.length = 3 ∧
        ∀ other ∈ s.registry.handlers, other.connection ≠ handler.connection →
          s.Blocked other := by
  rcases Registry.join_cases s.registry handler with
    ⟨bad, h⟩ | ⟨entry, inside, joinable, once, h⟩ | ⟨entry, inside, unjoinable, h⟩
  · rw [h]
    refine iff_of_false (not_stuck_of_stage member fun thread waits => ?_) ?_
    · rw [begins] at waits
      cases waits
    · rintro ⟨⟨entry, inside, -, once, -⟩, -⟩
      exact bad ⟨entry, inside, fun _ => once⟩
  · rw [h]
    have moved := mem_moveTo member (.joining entry.connection)
    constructor
    · rintro ⟨three, blocked⟩
      obtain ⟨thread, waits, runs, untold⟩ := blocked _ moved
      obtain rfl := Stage.joining.inj waits
      refine ⟨⟨entry, inside, joinable, once, runs, untold⟩, ?_, fun other present => ?_⟩
      · exact (List.length_map _).symm.trans three
      · have holds : entry.connection ∈ s.registry.looping ∧ s.Untold entry.connection :=
          ⟨runs, untold⟩
        exact (blocked_moveTo_iff (entry.connection :: s.registry.joins) holds).mp
          (blocked _ (List.mem_map_of_mem present))
    · rintro ⟨⟨other, present, -, -, holds⟩, three, blocked⟩
      obtain rfl := Option.some.inj (inside.symm.trans present)
      refine ⟨(List.length_map _).trans three, fun other present => ?_⟩
      obtain ⟨before, earlier, rfl⟩ := List.mem_map.mp present
      exact (blocked_moveTo_iff _ holds).mpr (blocked before earlier)
  · rw [h]
    refine iff_of_false (not_stuck_of_stage (mem_moveTo member .joined) fun thread waits => ?_) ?_
    · cases waits
    · rintro ⟨⟨other, present, joinable, -⟩, -⟩
      obtain rfl := Option.some.inj (inside.symm.trans present)
      rw [unjoinable] at joinable
      cases joinable

theorem spares_of_ne {s : State C} {e : Event C} (other : ∀ c, e ≠ .join c) : Spares s e := by
  cases e with
  | join c => exact absurd rfl (other c)
  | opened c | search c | joined c | erase c | wait c | wake c | send c | ended c
  | completed c failed | announce i scheduleTime | notify_all i => trivial

/-- **One step leads to a stuck state exactly when it does not spare the pool.**  Only a
call of `join` can, and for it the two conditions are the same. -/
theorem stuck_step_iff {s t : State C} {e : Event C} (few : s.registry.handlers.length ≤ 3)
    (good : ¬ Stuck s) (h : step grow put_time s e = some t) :
    ¬ Stuck t ↔ Spares s e := by
  cases step_cases h with
  | opened c registry server act taken =>
      refine iff_of_true ?_ trivial
      cases act_cases act with
      | opened c new free =>
          refine not_stuck_of_free ?_
          show (s.registry.on_open grow c).handlers.length < 3
          rw [on_open_handlers_length]
          exact free
  | search c registry act =>
      cases act_cases act with
      | search c opened new free => exact iff_of_true (not_stuck_search free) trivial
  | join c registry act =>
      cases act_cases act with
      | join c handler found begins =>
          obtain ⟨member, rfl⟩ := handler?_eq_some found
          rw [stuck_join_iff member begins]
          constructor
          · rintro apart ⟨other, found', holds⟩ three
            obtain rfl := Option.some.inj (found.symm.trans found')
            by_contra all
            exact apart ⟨holds, three, fun other present different => by_contra fun free =>
              all ⟨other, present, different, free⟩⟩
          · rintro spares ⟨holds, three, blocked⟩
            obtain ⟨other, present, different, free⟩ := spares ⟨handler, found, holds⟩ three
            exact free (blocked other present different)
  | joined c registry act =>
      cases act_cases act with
      | joined c handler thread found waits ended =>
          exact iff_of_true (not_stuck_returned (handler?_eq_some found).1 waits ended) trivial
  | erase c registry act =>
      cases act_cases act with
      | erase c handler found joined =>
          exact iff_of_true (not_stuck_erase few (handler?_eq_some found).1 joined) trivial
  | ended c registry left act =>
      refine iff_of_true (fun stuck => good ?_) trivial
      cases act_cases act with
      | ended c runs =>
          exact stuck.of_le rfl (fun _ member => List.mem_of_mem_erase member)
            fun _ untold => untold
  | server e other e' quiet server pending taken =>
      refine iff_of_true (fun stuck => good ?_) (spares_of_ne other)
      exact stuck.of_le rfl (fun _ member => member) fun c untold =>
        untold_of_step taken quiet.1 untold
  | completed c free => exact iff_of_true (not_stuck_of_free free) trivial
  | failed c free server taken => exact iff_of_true (not_stuck_of_free free) trivial

/-! ## Runs -/

/-- A step leaves the registry alone or is one of its own. -/
theorem registry_cases {s t : State C} {e : Event C} (h : step grow put_time s e = some t) :
    t.registry = s.registry ∨ ∃ e', s.registry.act grow e' = some t.registry := by
  cases step_cases h with
  | opened _ _ _ act _ => exact Or.inr ⟨_, act⟩
  | search _ _ act | join _ _ act | joined _ _ act | erase _ _ act | ended _ _ _ act =>
      exact Or.inr ⟨_, act⟩
  | server _ _ _ _ _ _ _ | completed _ _ | failed _ _ _ _ => exact Or.inl rfl

/-- There are three pool threads. -/
theorem handlers_le_three {registry registry' : Registry.State C} {e : Registry.Event C}
    (few : registry.handlers.length ≤ 3) (h : registry.act grow e = some registry') :
    registry'.handlers.length ≤ 3 := by
  cases act_cases h with
  | opened c new free =>
      rw [on_open_handlers_length]
      exact few
  | ended c runs => exact few
  | search c opened new free =>
      rw [Registry.State.search]
      split
      next =>
        show (registry.handlers ++ [_]).length ≤ 3
        rw [List.length_append]
        exact free
      next => exact few
  | join c handler found begins =>
      rcases Registry.join_cases registry handler with
        ⟨-, h⟩ | ⟨entry, -, -, -, h⟩ | ⟨entry, -, -, h⟩
      · rw [h]
        exact few
      · rw [h]
        exact (List.length_map _).trans_le few
      · rw [h]
        exact (List.length_map _).trans_le few
  | joined c handler thread found waits ended =>
      rw [Registry.State.returned]
      split
      next => exact few
      next => exact (List.length_map _).trans_le few
  | erase c handler found joined =>
      rw [Registry.State.erase]
      split
      next => exact few
      next =>
        split
        next => exact few
        next =>
          have member := (handler?_eq_some found).1
          exact (Nat.le_of_lt (erased_handlers_length member)).trans few

/-- **The pool is never stuck exactly as long as the closings spare it**, on every run and
for every way in which the vector grows. -/
theorem unstuck_iff_spares (grow : ℕ → ℕ) (put_time : ℤ → String) (events : List (Event C)) :
    (pool grow put_time).Throughout (fun s => ¬ Stuck s) (start : State C) events ↔
      (pool grow put_time).Along Spares start events := by
  have few : ∀ (s t : State C) e, s.registry.handlers.length ≤ 3 → step grow put_time s e = some t →
      t.registry.handlers.length ≤ 3 := by
    intro s t e few h
    rcases registry_cases h with same | ⟨e', act⟩
    · rw [same]
      exact few
    · exact handlers_le_three few act
  refine (pool grow put_time).throughout_iff_along
    (fun s => s.registry.handlers.length ≤ 3) (fun s e t hs _ h _ => few s t e hs h)
    (fun s e t hs good h => stuck_step_iff hs good h) (Nat.zero_le 3) ?_
  exact not_stuck_of_free (Nat.zero_lt_succ 2)

/-! ## No way out -/

/-- A notify thread that has left its loop has been told.  So one that has not been told
is still running, and whoever joins it waits. -/
def Told (server : Announcements.State C) : Prop :=
  ∀ c thread, server.notifyThreads c = some thread → thread.place = .left → thread.status_ ≠ 0

omit [DecidableEq C] in
/-- A move that leaves the loop finds `status_` set. -/
theorem threadMove_left {server : Announcements.State C} {c : C} {thread thread' : NotifyThread}
    {e : Announcements.Event C} (move : ThreadMove server c thread e thread')
    (left : thread'.place = .left) : thread'.status_ ≠ 0 := by
  cases move with
  | wait _ =>
      rw [NotifyThread.wait] at left ⊢
      split at left
      next => cases left
      next running =>
        rw [if_neg running]
        exact running
  | wake _ => cases left
  | send _ =>
      rw [NotifyThread.send] at left ⊢
      split at left
      next running =>
        rw [if_pos running]
        exact running
      next => cases left
  | sendFailed _ =>
      intro zero
      cases zero

theorem Told.step {server server' : Announcements.State C} {e : Announcements.Event C}
    (told : Told server) (h : Announcements.step put_time server e = some server') :
    Told server' := by
  intro c thread found left
  cases threadOrigin_of_step h found with
  | fresh _ => cases left
  | moved before after present move => exact threadMove_left move left
  | notified before present =>
      rw [notified_status]
      rw [NotifyThread.notified] at left
      split at left
      next => cases left
      next => exact told c before present left
  | kept thread present => exact told c thread present left

/-- Without a callback nobody is told. -/
theorem untold_step {server server' : Announcements.State C} {e : Announcements.Event C}
    (h : Announcements.step put_time server e = some server') (quiet : ∀ c, e ≠ .sendFailed c)
    {c : C} (untold : ∃ thread, server.notifyThreads c = some thread ∧ thread.status_ = 0) :
    ∃ thread, server'.notifyThreads c = some thread ∧ thread.status_ = 0 := by
  obtain ⟨thread, found, zero⟩ := untold
  cases Announcements.step_cases h with
  | opened d absent =>
      refine ⟨thread, ?_, zero⟩
      show Function.update server.notifyThreads d (some .fresh) c = some thread
      rw [Function.update_of_ne, found]
      rintro rfl
      rw [absent] at found
      cases found
  | moved d before after e present move =>
      by_cases same : c = d
      · subst same
        obtain rfl := Option.some.inj (found.symm.trans present)
        refine ⟨after, Function.update_self _ _ _, ?_⟩
        rcases threadMove_status move with same | ⟨failed, -⟩
        · exact same.trans zero
        · exact absurd failed (quiet c)
      · refine ⟨thread, ?_, zero⟩
        exact (Function.update_of_ne same _ _).trans found
  | announce i scheduleTime => exact ⟨thread, found, zero⟩
  | notify_all i =>
      refine ⟨thread.notified, ?_, (notified_status thread).trans zero⟩
      show (server.notifyThreads c).map NotifyThread.notified = _
      rw [found]
      rfl

/-- **No step leads out of a stuck state.**  Whoever could tell a notify thread needs a
pool thread, and there is none. -/
theorem Stuck.step {s t : State C} {e : Event C} (stuck : Stuck s) (told : Told s.server)
    (h : step grow put_time s e = some t) : Stuck t := by
  have full : ¬ s.registry.Free := by
    intro free
    exact not_stuck_of_free free stuck
  cases step_cases h with
  | opened c registry server act taken =>
      cases act_cases act with
      | opened c new free => exact absurd free full
  | search c registry act =>
      cases act_cases act with
      | search c opened new free => exact absurd free full
  | join c registry act =>
      cases act_cases act with
      | join c handler found begins =>
          refine absurd stuck (not_stuck_of_stage (handler?_eq_some found).1 fun thread waits => ?_)
          rw [begins] at waits
          cases waits
  | joined c registry act =>
      cases act_cases act with
      | joined c handler thread found waits ended =>
          obtain ⟨other, same, runs, -⟩ := stuck.2 handler (handler?_eq_some found).1
          obtain rfl := Stage.joining.inj (waits.symm.trans same)
          exact absurd runs ended
  | erase c registry act =>
      cases act_cases act with
      | erase c handler found joined =>
          refine absurd stuck (not_stuck_of_stage (handler?_eq_some found).1 fun thread waits => ?_)
          rw [joined] at waits
          cases waits
  | ended c registry left act =>
      cases act_cases act with
      | ended c runs =>
          refine ⟨stuck.1, fun handler member => ?_⟩
          obtain ⟨thread', waits, runs, thread, found, zero⟩ := stuck.2 handler member
          refine ⟨thread', waits, ?_, thread, found, zero⟩
          refine (List.mem_erase_of_ne ?_).mpr runs
          rintro rfl
          rw [State.At, found] at left
          have place : thread.place = .left := by simpa using left
          exact told _ thread found place zero
  | server e other e' quiet server pending taken =>
      exact stuck.of_le rfl (fun _ member => member) fun c untold =>
        untold_step taken quiet.2 untold
  | completed c free => exact absurd free full
  | failed c free server taken => exact absurd free full

/-- A step of the pool leaves the notify threads alone or is one of theirs. -/
theorem server_cases {s t : State C} {e : Event C} (h : step grow put_time s e = some t) :
    t.server = s.server ∨ ∃ e', Announcements.step put_time s.server e' = some t.server := by
  cases step_cases h with
  | opened _ _ _ _ taken | server _ _ _ _ _ _ taken | failed _ _ _ taken =>
      exact Or.inr ⟨_, taken⟩
  | search _ _ _ | join _ _ _ | joined _ _ _ | erase _ _ _ | ended _ _ _ _ | completed _ _ =>
      exact Or.inl rfl

/-- **A stuck server stays stuck**, whatever the notify threads and the capture thread do. -/
theorem stuck_forever {events more : List (Event C)} {s : State C}
    (h : (pool grow put_time).run start events = some s) (stuck : Stuck s) :
    (pool grow put_time).Throughout Stuck s more := by
  have told : ∀ (u : State C) e v, Told u.server → step grow put_time u e = some v →
      Told v.server := by
    intro u e v told taken
    rcases server_cases taken with same | ⟨e', act⟩
    · rw [same]
      exact told
    · exact told.step act
  have reached : Told s.server :=
    (pool grow put_time).inv_of_run (fun u => Told u.server) told
      (fun c thread found => by cases found) h
  refine ((pool grow put_time).throughout_of_step (fun u => Stuck u ∧ Told u.server)
    (fun u e v hu taken => ?_) ⟨stuck, reached⟩ more).mono _ fun u hu => hu.1
  exact ⟨hu.1.step hu.2 taken, told u e v hu.2 taken⟩

/-- Three connections close before the next announcement. -/
def threeCloses : List (Event ℕ) :=
  [.opened 0, .opened 1, .opened 2, .wait 0, .wait 1, .wait 2, .search 0, .search 1, .search 2,
    .join 0, .join 1, .join 2]

/-- Their handlers take the whole pool, and no announcement, no connection and no callback
changes that. -/
theorem stuck_threeCloses :
    ∃ s, (pool (fun n => 2 * n) fun _ => "").run (start : State ℕ) threeCloses = some s ∧
      Stuck s := by
  refine ⟨_, rfl, rfl, fun handler member => ?_⟩
  change handler ∈ ([⟨0, 3, 0, .joining 0, true⟩, ⟨1, 3, 1, .joining 1, true⟩,
    ⟨2, 3, 2, .joining 2, true⟩] : List (OnClose ℕ)) at member
  simp only [List.mem_cons, List.not_mem_nil, or_false] at member
  rcases member with rfl | rfl | rfl
  all_goals exact ⟨_, rfl, by decide, _, rfl, rfl⟩

end SpectrogramServers.CloudServer.Pool
