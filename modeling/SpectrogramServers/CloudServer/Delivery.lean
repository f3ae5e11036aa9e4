import Mathlib.Data.List.Infix
import SpectrogramServers.CloudServer.Announcements

/-!
# What the connections are sent

The notify threads of `cloudServer` wait on one condition variable without a predicate and
send whatever `sample_json` holds when they have been woken.  Three things can go wrong:
an announcement is made while a thread has not read the last one, which is lost to it; a
thread sends without having been notified, and repeats or invents a message; and a thread
goes to wait after the notification it should have heard.  `InStep` says of a step that it
is none of the three, and `delivered_iff_inStep` that the connections are served
throughout a run exactly when all its steps are in step.

## Counting

The invariant `Consistent` counts, whatever the schedule: a thread that has sent something
has sent, last, the message numbered just below `heard`.  In a state in which every
connection is served this pins `heard` down to the position the thread has reached in the
announcements (`Served.heard_eq`), so that whether the next step loses, repeats or invents
a message can be read off the counters before it.

## From one thread to the server

A step moves one notify thread, or it is a capture thread's and concerns all.
`ThreadMove.served_iff` does the first, `delivered_announced_iff` the second, and
`Delivered.step_iff` puts them together.  Every lemma of the last two sections is an
equivalence, since the main theorem is one: where a step is not in step, some connection
is no longer served right after it.
-/

namespace SpectrogramServers.CloudServer.Announcements

universe u

variable {C : Type u} {put_time : ℤ → String}

/-! ## The invariant -/

/-- The number `sample_json` carries after `n` announcements. -/
def lastNumber : ℕ → Option ℕ
  | 0 => none
  | n + 1 => some n

/-- What a thread's history says about it after `n` announcements: it has not sent before
it first waited, `heard` lies between then and now, and its last message is the one below
`heard`. -/
structure NotifyThread.Counted (n : ℕ) (thread : NotifyThread) : Prop where
  unjoined : thread.joined = none →
    thread.sent = [] ∧ thread.place = .top ∧ thread.status_ = 0
  bounds : ∀ k, thread.joined = some k → k ≤ thread.heard ∧ thread.heard ≤ n
  silent : ∀ k, thread.joined = some k → thread.sent = [] → thread.heard = k
  lastSent : ∀ m, thread.sent.getLast? = some m → m.1 = lastNumber thread.heard

/-- What holds whatever the schedule: announcements are numbered in order,
`sample_json` is the last of them, and every thread knows how far it has read. -/
structure Consistent (s : State C) : Prop where
  numbered : ∀ (i : ℕ) m, s.announcements[i]? = some m → m.1 = some i
  number : s.sample_json.1 = lastNumber s.announcements.length
  current : ∀ n, s.announcements.length = n + 1 → s.announcements[n]? = some s.sample_json
  threads : ∀ c thread, s.notifyThreads c = some thread →
    thread.Counted s.announcements.length

/-- Before the first announcement and the first connection. -/
theorem consistent_start : Consistent (start : State C) := by
  refine ⟨fun i m found => ?_, rfl, fun n length => ?_, fun c thread found => ?_⟩
  · cases found
  · cases length
  · cases found

theorem NotifyThread.counted_fresh (n : ℕ) : NotifyThread.fresh.Counted n := by
  refine ⟨fun _ => ⟨rfl, rfl, rfl⟩, ?_, ?_, ?_⟩
  · rintro k ⟨⟩
  · rintro k ⟨⟩
  · rintro m ⟨⟩

/-- A thread that has joined stays consistent when it moves without reading
`sample_json`. -/
theorem NotifyThread.Counted.moved {n : ℕ} {thread : NotifyThread}
    (h : thread.Counted n) (joined : thread.joined ≠ none) (place : Place) (status_ : ℤ) :
    { thread with place := place, status_ := status_ }.Counted n :=
  ⟨fun absurdity => absurd absurdity joined, h.bounds, h.silent, h.lastSent⟩

theorem NotifyThread.Counted.joined_of_place {n : ℕ} {thread : NotifyThread}
    (h : thread.Counted n) (place : thread.place ≠ .top) : thread.joined ≠ none :=
  fun joined => place (h.unjoined joined).2.1

theorem NotifyThread.Counted.wait {n : ℕ} {thread : NotifyThread}
    (h : thread.Counted n) : (thread.wait n).Counted n := by
  rw [NotifyThread.wait]
  by_cases running : thread.status_ = 0
  · rw [if_pos running]
    cases joined : thread.joined with
    | none =>
        obtain ⟨nothing, -⟩ := h.unjoined joined
        refine ⟨fun absurdity => (by cases absurdity), ?_, ?_, ?_⟩
        · rintro k ⟨⟩
          exact ⟨Nat.le_refl n, Nat.le_refl n⟩
        · rintro k ⟨⟩ _
          rfl
        · intro m last
          dsimp only at last
          rw [nothing] at last
          cases last
    | some k =>
        refine ⟨fun absurdity => (by cases absurdity), ?_, ?_, h.lastSent⟩
        · rintro _ ⟨⟩
          exact h.bounds k joined
        · rintro _ ⟨⟩ nothing
          exact h.silent k joined nothing
  · rw [if_neg running]
    exact h.moved (fun joined => running (h.unjoined joined).2.2) .left thread.status_

theorem NotifyThread.Counted.send {n : ℕ} {thread : NotifyThread} {message : Message}
    (h : thread.Counted n) (woken : thread.place = .woken)
    (number : message.1 = lastNumber n) : (thread.send n message).Counted n := by
  have joined : thread.joined ≠ none := h.joined_of_place (by rw [woken]; decide)
  rw [NotifyThread.send]
  split
  next => exact h.moved joined .left thread.status_
  next =>
      refine ⟨fun absurdity => absurd absurdity joined, ?_, ?_, ?_⟩
      · intro k hk
        exact ⟨(h.bounds k hk).1.trans (h.bounds k hk).2, Nat.le_refl n⟩
      · intro k hk nothing
        simp at nothing
      · intro m last
        dsimp only at last
        rw [List.getLast?_concat] at last
        rw [← Option.some.inj last]
        exact number

theorem NotifyThread.Counted.notified {n : ℕ} {thread : NotifyThread}
    (h : thread.Counted n) : thread.notified.Counted n := by
  rw [NotifyThread.notified]
  split
  next waiting =>
      exact h.moved (h.joined_of_place (by rw [waiting]; decide)) .woken thread.status_
  next => exact h

theorem NotifyThread.Counted.succ {n : ℕ} {thread : NotifyThread}
    (h : thread.Counted n) : thread.Counted (n + 1) :=
  ⟨h.unjoined, fun k hk => ⟨(h.bounds k hk).1, Nat.le_succ_of_le (h.bounds k hk).2⟩,
    h.silent, h.lastSent⟩

/-! ## What a step can do -/

section Steps

variable [DecidableEq C]

/-- The moves of one notify thread. -/
inductive ThreadMove (s : State C) (c : C) (thread : NotifyThread) :
    Event C → NotifyThread → Prop
  | wait : thread.place = .top →
      ThreadMove s c thread (.wait c) (thread.wait s.announcements.length)
  | wake : thread.place = .waiting →
      ThreadMove s c thread (.wake c) { thread with place := .woken }
  | send : thread.place = .woken →
      ThreadMove s c thread (.send c) (thread.send s.announcements.length s.sample_json)
  | sendFailed : thread.sent ≠ [] →
      ThreadMove s c thread (.sendFailed c) { thread with status_ := -1 }

/-- A step starts a thread, moves a thread, or is a capture thread's. -/
inductive StepOutcome (put_time : ℤ → String) (s : State C) : Event C → State C → Prop
  | opened (c : C) : s.notifyThreads c = none →
      StepOutcome put_time s (.opened c) (s.setThread c .fresh)
  | moved (c : C) (thread thread' : NotifyThread) (e : Event C) :
      s.notifyThreads c = some thread → ThreadMove s c thread e thread' →
      StepOutcome put_time s e (s.setThread c thread')
  | announce (i : Fin 10) (scheduleTime : ℤ) :
      StepOutcome put_time s (.announce i scheduleTime) (s.announced put_time i scheduleTime)
  | notify_all (i : Fin 10) : StepOutcome put_time s (.notify_all i) (s.notified i)

theorem moveThread_eq_some {s t : State C} {c : C} {enabled : NotifyThread → Bool}
    {move : NotifyThread → NotifyThread} (h : s.moveThread c enabled move = some t) :
    ∃ thread, s.notifyThreads c = some thread ∧ enabled thread = true ∧
      t = s.setThread c (move thread) := by
  obtain ⟨thread, found, taken⟩ := Option.bind_eq_some_iff.mp h
  rw [Option.ite_none_right_eq_some] at taken
  obtain ⟨enabled, taken⟩ := taken
  exact ⟨thread, found, enabled, (Option.some.inj taken).symm⟩

theorem step_cases {s t : State C} {e : Event C} (h : step put_time s e = some t) :
    StepOutcome put_time s e t := by
  cases e with
  | opened c =>
      obtain ⟨absent, rfl⟩ := guarded_eq_some h
      exact .opened c absent
  | wait c =>
      obtain ⟨thread, found, place, rfl⟩ := moveThread_eq_some h
      exact .moved c thread _ _ found (.wait (of_decide_eq_true place))
  | wake c =>
      obtain ⟨thread, found, place, rfl⟩ := moveThread_eq_some h
      exact .moved c thread _ _ found (.wake (of_decide_eq_true place))
  | send c =>
      obtain ⟨thread, found, place, rfl⟩ := moveThread_eq_some h
      exact .moved c thread _ _ found (.send (of_decide_eq_true place))
  | sendFailed c =>
      obtain ⟨thread, found, sent, rfl⟩ := moveThread_eq_some h
      exact .moved c thread _ _ found (.sendFailed (of_decide_eq_true sent))
  | announce i scheduleTime =>
      obtain ⟨-, rfl⟩ := guarded_eq_some h
      exact .announce i scheduleTime
  | notify_all i =>
      obtain ⟨-, rfl⟩ := guarded_eq_some h
      exact .notify_all i

omit [DecidableEq C] in
theorem ThreadMove.counted {s : State C} {c : C} {thread thread' : NotifyThread}
    {e : Event C} (move : ThreadMove s c thread e thread')
    (h : thread.Counted s.announcements.length)
    (number : s.sample_json.1 = lastNumber s.announcements.length) :
    thread'.Counted s.announcements.length := by
  cases move with
  | wait top => exact h.wait
  | wake waiting =>
      exact h.moved (h.joined_of_place (by rw [waiting]; decide)) .woken thread.status_
  | send woken => exact h.send woken number
  | sendFailed sent =>
      exact h.moved (fun joined => sent (h.unjoined joined).1) thread.place (-1)

/-- A thread after one has moved is that one or has not moved. -/
theorem setThread_found {s : State C} {c d : C} {thread other : NotifyThread}
    (found : (s.setThread c thread).notifyThreads d = some other) :
    d = c ∧ thread = other ∨ s.notifyThreads d = some other := by
  change Function.update s.notifyThreads c (some thread) d = some other at found
  by_cases same : d = c
  · rw [same, Function.update_self] at found
    exact Or.inl ⟨same, Option.some.inj found⟩
  · rw [Function.update_of_ne same] at found
    exact Or.inr found

theorem Consistent.setThread {s : State C} (h : Consistent s) (c : C)
    {thread : NotifyThread} (new : thread.Counted s.announcements.length) :
    Consistent (s.setThread c thread) := by
  refine ⟨h.numbered, h.number, h.current, fun d other found => ?_⟩
  rcases setThread_found found with ⟨rfl, rfl⟩ | found
  · exact new
  · exact h.threads d other found

/-- **The step lemma**, for every schedule and every wake-up. -/
theorem Consistent.step {s t : State C} {e : Event C} (h : Consistent s)
    (hstep : step put_time s e = some t) : Consistent t := by
  cases step_cases hstep with
  | opened c _ => exact h.setThread c (NotifyThread.counted_fresh _)
  | moved c thread thread' e found move =>
      exact h.setThread c (move.counted (h.threads c thread found) h.number)
  | announce i scheduleTime =>
      have length : (s.announced put_time i scheduleTime).announcements.length =
          s.announcements.length + 1 := List.length_append
      refine ⟨fun j m found => ?_, ?_, fun n last => ?_, fun c thread found => ?_⟩
      · change (s.announcements ++ [_])[j]? = some m at found
        rw [List.getElem?_append] at found
        split at found
        next => exact h.numbered j m found
        next out =>
            obtain ⟨position, rfl⟩ := List.getElem?_eq_some_iff.mp found
            rw [List.length_singleton] at position
            obtain rfl : j = s.announcements.length := by omega
            rw [List.getElem_singleton]
      · rw [length]
        rfl
      · rw [length] at last
        obtain rfl : s.announcements.length = n := by omega
        show (s.announcements ++ [_])[s.announcements.length]? = _
        rw [List.getElem?_concat_length]
        rfl
      · rw [length]
        exact (h.threads c thread found).succ
  | notify_all i =>
      refine ⟨h.numbered, h.number, h.current, fun c thread found => ?_⟩
      change (s.notifyThreads c).map NotifyThread.notified = some thread at found
      obtain ⟨before, present, rfl⟩ := Option.map_eq_some_iff.mp found
      exact (h.threads c before present).notified

end Steps

/-! ## Counting what has been sent -/

/-- **Where a served thread stands.**  It has sent a beginning of what it is due, so the
number of its messages says how far it has read. -/
theorem NotifyThread.Served.heard_eq {s : State C} {thread : NotifyThread} {k : ℕ}
    (served : thread.Served s k) (counted : thread.Counted s.announcements.length)
    (h : Consistent s) (joined : thread.joined = some k) :
    thread.heard = k + thread.sent.length := by
  cases last : thread.sent.getLast? with
  | none =>
      have nothing := List.getLast?_eq_none_iff.mp last
      rw [nothing]
      exact counted.silent k joined nothing
  | some m =>
      -- the last message sent carries the number of its announcement
      have number := counted.lastSent m last
      rw [List.getLast?_eq_getElem?] at last
      obtain ⟨position, rfl⟩ := List.getElem?_eq_some_iff.mp last
      have announced : s.announcements[k + (thread.sent.length - 1)]? =
          some thread.sent[thread.sent.length - 1] := by
        rw [← List.getElem?_drop, served.inOrder.getElem position]
        exact List.getElem?_eq_getElem _
      rw [h.numbered _ _ announced] at number
      cases heard : thread.heard with
      | zero =>
          rw [heard] at number
          cases number
      | succ n =>
          rw [heard] at number
          obtain rfl := Option.some.inj number
          omega

/-- A loop that has left or is leaving is only held to what it has sent. -/
theorem NotifyThread.Served.failed {s : State C} {thread thread' : NotifyThread} {k : ℕ}
    (served : thread.Served s k) (sent : thread'.sent = thread.sent)
    (failed : thread'.status_ ≠ 0) : thread'.Served s k where
  inOrder := by
    rw [sent]
    exact served.inOrder
  upToOne := fun running => absurd running failed
  complete := fun running => absurd running failed

/-- Nothing is due to a loop that waits for the first time. -/
theorem NotifyThread.served_of_nothing {s : State C} {thread : NotifyThread}
    (nothing : thread.sent = []) : thread.Served s s.announcements.length := by
  have due : s.due s.announcements.length = [] := List.drop_length
  refine ⟨?_, fun _ => ?_, fun _ _ _ => ?_⟩
  · rw [nothing]
    exact List.nil_prefix
  · rw [due]
    exact Nat.zero_le _
  · rw [nothing, due]

theorem length_due (s : State C) (k : ℕ) :
    (s.due k).length = s.announcements.length - k := List.length_drop

/-- What a thread that is behind reads is the next message it is due. -/
theorem NotifyThread.Served.concat {s : State C} {thread : NotifyThread} {k : ℕ}
    (served : thread.Served s k) (h : Consistent s)
    (next : s.announcements.length = k + thread.sent.length + 1) :
    thread.sent ++ [s.sample_json] <+: s.due k := by
  obtain ⟨rest, split⟩ := served.inOrder
  have current := h.current _ next
  rw [← List.getElem?_drop, show s.announcements.drop k = _ from split.symm,
    List.getElem?_append_right (Nat.le_refl _), Nat.sub_self] at current
  cases rest with
  | nil => cases current
  | cons message rest =>
      obtain rfl := Option.some.inj current
      exact ⟨rest, by rw [← split, List.append_assoc]; rfl⟩

/-! ## The condition, step by step -/

theorem State.behind_iff {s : State C} {c : C} {thread : NotifyThread}
    (found : s.notifyThreads c = some thread) :
    s.Behind c ↔ thread.status_ = 0 ∧ thread.joined.isSome ∧
      thread.heard < s.announcements.length := by
  constructor
  · rintro ⟨other, present, behind⟩
    obtain rfl := Option.some.inj (found.symm.trans present)
    exact behind
  · intro behind
    exact ⟨thread, found, behind⟩

/-- Where the loop of a served thread waits next. -/
theorem NotifyThread.Served.wait_iff {s : State C} {c : C} {thread : NotifyThread} {k : ℕ}
    (served : thread.Served s k) (found : s.notifyThreads c = some thread)
    (h : Consistent s) (joined : thread.joined = some k) (running : thread.status_ = 0) :
    { thread with place := .waiting }.Served s k ↔ (s.Behind c → s.Notifying) := by
  have heard := served.heard_eq (h.threads c thread found) h joined
  have length := length_due s k
  rw [s.behind_iff found]
  constructor
  · rintro waiting ⟨-, -, behind⟩
    by_contra quiet
    have all := congrArg List.length (waiting.complete running rfl quiet)
    dsimp only at all
    omega
  · intro guarded
    refine ⟨served.inOrder, served.upToOne, fun _ _ quiet => ?_⟩
    apply served.inOrder.eq_of_length_le
    by_contra short
    refine quiet (guarded ⟨running, ?_, ?_⟩)
    · rw [joined]
      rfl
    · omega

/-- A running thread sends what it is due exactly when it is behind. -/
theorem NotifyThread.Served.send_iff {s : State C} {c : C} {thread : NotifyThread} {k : ℕ}
    (served : thread.Served s k) (found : s.notifyThreads c = some thread)
    (h : Consistent s) (joined : thread.joined = some k) (running : thread.status_ = 0) :
    { thread with
        place := .top
        heard := s.announcements.length
        sent := thread.sent ++ [s.sample_json] }.Served s k ↔ s.Behind c := by
  have heard := served.heard_eq (h.threads c thread found) h joined
  have length := length_due s k
  have bound := served.upToOne running
  rw [s.behind_iff found]
  constructor
  · intro sending
    have grown := sending.inOrder.length_le
    dsimp only at grown
    rw [List.length_append, List.length_singleton] at grown
    refine ⟨running, ?_, ?_⟩
    · rw [joined]
      rfl
    · omega
  · rintro ⟨-, -, behind⟩
    refine ⟨served.concat h (by omega), fun _ => ?_, fun _ top => by cases top⟩
    dsimp only
    rw [List.length_append]
    omega

section Steps

variable [DecidableEq C]

theorem delivered_setThread_iff {s : State C} (good : Delivered s) (c : C)
    (thread : NotifyThread) :
    Delivered (s.setThread c thread) ↔
      ∀ k, thread.joined = some k → thread.Served s k := by
  constructor
  · intro all k joined
    have served := all c thread k (Function.update_self ..) joined
    exact ⟨served.inOrder, served.upToOne, served.complete⟩
  · intro own d other k found joined
    have served : other.Served s k := by
      rcases setThread_found found with ⟨rfl, rfl⟩ | found
      · exact own k joined
      · exact good d other k found joined
    exact ⟨served.inOrder, served.upToOne, served.complete⟩

omit [DecidableEq C] in
/-- A loop that goes to wait. -/
theorem served_wait_iff {s : State C} {c : C} {thread : NotifyThread} (good : Delivered s)
    (h : Consistent s) (found : s.notifyThreads c = some thread) :
    (∀ k, (thread.wait s.announcements.length).joined = some k →
        (thread.wait s.announcements.length).Served s k) ↔ (s.Behind c → s.Notifying) := by
  rw [NotifyThread.wait]
  by_cases running : thread.status_ = 0
  · rw [if_pos running]
    cases joined : thread.joined with
    | none =>
        refine iff_of_true ?_ fun behind => ?_
        · rintro k ⟨⟩
          exact NotifyThread.served_of_nothing ((h.threads c thread found).unjoined joined).1
        · rw [s.behind_iff found, joined] at behind
          cases behind.2.1
    | some k =>
        rw [← (good c thread k found joined).wait_iff found h joined running]
        constructor
        · intro all
          have served := all k rfl
          exact ⟨served.inOrder, served.upToOne, served.complete⟩
        · rintro served _ ⟨⟩
          exact ⟨served.inOrder, served.upToOne, served.complete⟩
  · rw [if_neg running]
    refine iff_of_true (fun k joined => ?_) fun behind => ?_
    · exact (good c thread k found joined).failed rfl running
    · exact absurd ((s.behind_iff found).mp behind).1 running

omit [DecidableEq C] in
/-- A loop that sends. -/
theorem served_send_iff {s : State C} {c : C} {thread : NotifyThread} (good : Delivered s)
    (h : Consistent s) (found : s.notifyThreads c = some thread)
    (woken : thread.place = .woken) :
    (∀ k, (thread.send s.announcements.length s.sample_json).joined = some k →
        (thread.send s.announcements.length s.sample_json).Served s k) ↔
      s.Behind c ∨ s.Ending c := by
  have place : thread.place ≠ .top := by
    rw [woken]
    decide
  obtain ⟨k, joined⟩ :=
    Option.ne_none_iff_exists'.mp ((h.threads c thread found).joined_of_place place)
  have served := good c thread k found joined
  rw [NotifyThread.send]
  by_cases running : thread.status_ = 0
  · have notEnding : ¬ s.Ending c := by
      rintro ⟨other, present, failed⟩
      obtain rfl := Option.some.inj (found.symm.trans present)
      exact failed running
    rw [if_neg (not_not_intro running), or_iff_left notEnding,
      ← served.send_iff found h joined running]
    constructor
    · intro all
      exact all k joined
    · intro sending other same
      obtain rfl := Option.some.inj (joined.symm.trans same)
      exact sending
  · rw [if_pos running]
    refine iff_of_true (fun other same => ?_) (Or.inr ⟨thread, found, running⟩)
    obtain rfl := Option.some.inj (joined.symm.trans same)
    exact served.failed rfl running

omit [DecidableEq C] in
/-- **One move of a notify thread keeps its connection served exactly when it is
in step.** -/
theorem ThreadMove.served_iff {s : State C} {c : C} {thread thread' : NotifyThread}
    {e : Event C} (move : ThreadMove s c thread e thread') (good : Delivered s)
    (h : Consistent s) (found : s.notifyThreads c = some thread) :
    (∀ k, thread'.joined = some k → thread'.Served s k) ↔ InStep s e := by
  cases move with
  | wait top => exact served_wait_iff good h found
  | wake waiting =>
      refine iff_of_true (fun k joined => ?_) trivial
      have served := good c thread k found joined
      exact ⟨served.inOrder, served.upToOne, fun _ place => by cases place⟩
  | send woken => exact served_send_iff good h found woken
  | sendFailed sent =>
      refine iff_of_true (fun k joined => ?_) trivial
      exact (good c thread k found joined).failed rfl fun zero => by cases zero

omit [DecidableEq C] in
/-- An announcement keeps the connections served exactly when nobody is behind. -/
theorem delivered_announced_iff {s : State C} (good : Delivered s) (h : Consistent s)
    (i : Fin 10) (scheduleTime : ℤ) :
    Delivered (s.announced put_time i scheduleTime) ↔ ∀ c, ¬ s.Behind c := by
  have length : (s.announced put_time i scheduleTime).announcements.length =
      s.announcements.length + 1 := List.length_append
  constructor
  · rintro all c ⟨thread, found, running, hasJoined, behind⟩
    obtain ⟨k, joined⟩ := Option.isSome_iff_exists.mp hasJoined
    have heard := (good c thread k found joined).heard_eq (h.threads c thread found) h joined
    have bound := (all c thread k found joined).upToOne running
    rw [length_due, length] at bound
    omega
  · intro nobody c thread k found joined
    have served := good c thread k found joined
    have heard := served.heard_eq (h.threads c thread found) h joined
    have bounds := (h.threads c thread found).bounds k joined
    refine ⟨?_, fun running => ?_, fun _ _ quiet => ?_⟩
    · refine served.inOrder.trans ?_
      rw [State.due, State.due, State.announced, List.drop_append_of_le_length (by omega)]
      exact List.prefix_append _ _
    · have behind : ¬ thread.heard < s.announcements.length := fun behind =>
        nobody c ((s.behind_iff found).mpr ⟨running, by rw [joined]; rfl, behind⟩)
      rw [length_due, length]
      omega
    · exact absurd ⟨i, Function.update_self ..⟩ quiet

omit [DecidableEq C] in
theorem delivered_notified {s : State C} (good : Delivered s) (i : Fin 10) :
    Delivered (s.notified i) := by
  intro c thread k found joined
  change (s.notifyThreads c).map NotifyThread.notified = some thread at found
  obtain ⟨before, present, rfl⟩ := Option.map_eq_some_iff.mp found
  rw [NotifyThread.notified] at joined ⊢
  by_cases waiting : before.place = .waiting
  · rw [if_pos waiting] at joined ⊢
    have served := good c before k present joined
    exact ⟨served.inOrder, served.upToOne, fun _ place => by cases place⟩
  · rw [if_neg waiting] at joined ⊢
    have served := good c before k present joined
    exact ⟨served.inOrder, served.upToOne, fun _ place => absurd place waiting⟩

/-- **One step keeps every connection served exactly when it is in step.**  Only
announcements, sends and waits can go wrong; a start, a wake-up and a notification cannot. -/
theorem Delivered.step_iff {s t : State C} {e : Event C} (good : Delivered s)
    (h : Consistent s) (hstep : step put_time s e = some t) :
    Delivered t ↔ InStep s e := by
  cases step_cases hstep with
  | opened c absent =>
      rw [delivered_setThread_iff good]
      exact iff_of_true (fun k joined => by cases joined) trivial
  | moved c thread thread' e found move =>
      rw [delivered_setThread_iff good]
      exact move.served_iff good h found
  | announce i scheduleTime => exact delivered_announced_iff good h i scheduleTime
  | notify_all i => exact iff_of_true (delivered_notified good i) trivial

/-- **Every connection is sent exactly the announcements made after it first waits, in
order, as long as the threads are in step, and no longer.**  The run may have any number
of connections and of announcements, and wake-ups that nobody caused. -/
theorem delivered_iff_inStep (put_time : ℤ → String) (events : List (Event C)) :
    (announcing put_time).Throughout Delivered (start : State C) events ↔
      (announcing put_time).Along InStep start events :=
  (announcing put_time).throughout_iff_along Consistent
    (fun _ _ _ hs _ hstep _ => hs.step hstep)
    (fun _ _ _ hs good hstep => good.step_iff hs hstep)
    consistent_start (fun _ _ _ found => by cases found)

/-- The only connection wakes up spuriously before the first announcement; then
two captures are announced before it has reacquired the mutex. -/
def outOfStep : List (Event ℕ) :=
  [.opened 0, .wait 0, .wake 0, .send 0, .wait 0, .announce 0 5, .announce 1 6,
    .notify_all 0, .send 0]

/-- It is sent the initial `null`, and never the first announcement. -/
theorem not_delivered_outOfStep :
    ∃ s thread, (announcing fun _ => "").run (start : State ℕ) outOfStep = some s ∧
      s.notifyThreads 0 = some thread ∧ thread.status_ = 0 ∧
      s.announcements.map Prod.fst = [some 0, some 1] ∧
      thread.sent.map Prod.fst = [none, some 1] ∧ ¬ Delivered s := by
  refine ⟨_, _, rfl, rfl, rfl, rfl, rfl, fun good => ?_⟩
  obtain ⟨rest, same⟩ := (good 0 _ 0 rfl rfl).inOrder
  have first := congrArg (fun sent => sent.head?.map Prod.fst) same
  cases first

end Steps

end SpectrogramServers.CloudServer.Announcements
