import Mathlib.Data.List.Perm.Subperm
import SpectrogramServers.MyServer.AdmissionInvariant

/-!
# The waiting queue

`connection_queue` holds the addresses of the connections that wait for a place, in the
order in which they arrived. Entries are pushed by the waiter itself, but they are taken
by *address*, and only on one of the two ways out of the waiting loop: a waiter whose send
has failed leaves without its entry.  Two results say what this costs.

* `queueIntact_iff_keepsQueue` — over a run the queue is the list of the waiters'
  addresses in every state if and only if no waiter leaves the loop because its send
  failed, and a waiter that takes the front entry shares its address with everybody who
  has been waiting longer.
* `noOvertaking_of_takesTurn` — nobody overtakes an earlier waiter, and admissions follow
  the `push_back` calls, on every run on which a newcomer finds a free place only while
  nobody waits and a waiter takes its own entry.

## Why the second is no equivalence

A waiter may take a stale entry of its address that somebody else has left, while nobody
has been waiting longer; nobody is overtaken by that, although the entry is not its own.
The condition asks more than such a run needs, but it is the condition of one step: who is
admitted, and through which entry.

Both are proved from `Consistent` of `AdmissionInvariant`.  The first needs no invariant
besides; the second keeps `Orderly`, in which the history of pushes is what joins the
waiters to the entries.
-/

namespace SpectrogramServers

namespace MyServer

namespace Admission

universe u v

variable {Conn : Type u} {Addr : Type v} [DecidableEq Conn] [DecidableEq Addr]

/-- Everybody who is waiting and began to wait before `c`; for a newcomer this
is everybody who is waiting. -/
def waitingBefore (s : State Conn Addr) (c : Conn) : List Conn :=
  s.waiting.takeWhile (· ≠ c)

/-! ## Queue integrity -/

/-- The property of the first result: `connection_queue` is the list of the addresses of
the waiting connections in arrival order, and its front entry belongs to a waiter that can
take it. -/
structure QueueIntact (addr : Conn → Addr) (s : State Conn Addr) : Prop where
  nodup : s.waiting.Nodup
  mem_waiting : ∀ c, c ∈ s.waiting ↔
    (s.handler c).place.inFirstLoop = true ∧ (s.handler c).queued = true
  entries : s.connection_queue = s.waiting.map addr
  front : ∀ a, s.connection_queue.head? = some a → ∃ c ∈ s.waiting, addr c = a ∧
    (s.socket_counter ≤ 21 → ((pollStep addr s c).handler c).status_ = 0)

/-- The two ways to spoil the queue are not taken: no waiter leaves the first
loop, and who takes the front entry shares its address with all who have been
waiting longer. -/
def KeepsQueue (addr : Conn → Addr) (s : State Conn Addr) : Event Conn → Prop
  | .test c =>
      ¬ ((s.handler c).place = .polling ∧ (s.handler c).status_ ≠ 1 ∧
        (s.handler c).queued = true)
  | .poll c =>
      s.socket_counter ≤ 21 → (s.handler c).queued = true →
        s.connection_queue.head? = some (addr c) →
          ∀ d ∈ waitingBefore s c, addr d = addr c
  | _ => True

/-- A waiter whose address is at the front takes the entry when a place is
free. -/
theorem pollStep_status_of_front {addr : Conn → Addr} {s : State Conn Addr} {c : Conn}
    (free : s.socket_counter ≤ 21) {rest : List Addr}
    (front : s.connection_queue = addr c :: rest) :
    ((pollStep addr s c).handler c).status_ = 0 := by
  have outcome := pollStep_cases addr s c
  generalize pollStep addr s c = t at outcome ⊢
  cases outcome with
  | fromQueue | newcomer => simp [State.answer]
  | enqueued full | reported full => omega
  | blocked _ _ front_ip rest' front' other =>
      rw [front] at front'
      exact absurd (List.cons.inj front').1.symm other
  | undefined _ _ empty =>
      rw [front] at empty
      cases empty

/-- With the handlers consistent, integrity is the equation between the lists. -/
theorem Consistent.queueIntact_iff {addr : Conn → Addr} {s : State Conn Addr}
    (hs : Consistent s) : QueueIntact addr s ↔ s.connection_queue = s.waiting.map addr := by
  constructor
  · exact QueueIntact.entries
  · intro entries
    refine ⟨hs.waiting_nodup, fun c => (hs.handler c).waiting_iff, entries, fun a head => ?_⟩
    cases waiting : s.waiting with
    | nil =>
        rw [entries, waiting] at head
        cases head
    | cons c cs =>
        have front : s.connection_queue = addr c :: cs.map addr := by
          rw [entries, waiting, List.map_cons]
        rw [front, List.head?_cons, Option.some.injEq] at head
        exact ⟨c, by simp, head, fun free => pollStep_status_of_front free front⟩

/-- A pass through the critical section. -/
theorem Consistent.polled_entries_iff {addr : Conn → Addr} {s t : State Conn Addr} {c : Conn}
    (hs : Consistent s) (entries : s.connection_queue = s.waiting.map addr)
    (place : (s.handler c).place = .entering) (outcome : PollOutcome addr s c t) :
    t.connection_queue = t.waiting.map addr ↔ KeepsQueue addr s (.poll c) := by
  cases outcome with
  | enqueued full newcomer =>
      have appended : s.connection_queue ++ [addr c] = (s.waiting ++ [c]).map addr := by
        rw [entries, List.map_append, List.map_singleton]
      exact iff_of_true appended fun free => absurd free (Nat.not_le.mpr full)
  | reported full waiter =>
      exact iff_of_true entries fun free => absurd free (Nat.not_le.mpr full)
  | fromQueue free waiter rest front =>
      have mem : c ∈ s.waiting := (hs.mem_waiting place).mpr waiter
      change rest = (s.waiting.erase c).map addr ↔ _
      have taken : rest = (s.waiting.erase c).map addr ↔
          s.waiting.map addr = addr c :: (s.waiting.erase c).map addr := by
        rw [← entries, front, List.cons.injEq]
        simp
      rw [taken, map_eq_cons_erase_iff addr mem]
      simp [KeepsQueue, free, waiter, front, waitingBefore]
  | blocked free waiter front_ip rest front other =>
      refine iff_of_true entries fun _ _ head => ?_
      rw [front, List.head?_cons, Option.some.injEq] at head
      exact absurd head other
  | newcomer free newcomer =>
      exact iff_of_true entries fun _ waiter => by simp [newcomer] at waiter
  | undefined free waiter empty =>
      refine iff_of_true entries fun _ _ head => ?_
      rw [empty] at head
      cases head

/-- **The step lemma.**  From an intact queue, a step leads to an intact queue
if and only if it meets `KeepsQueue`. -/
theorem queueIntact_step_iff {addr : Conn → Addr} {s t : State Conn Addr}
    {e : Event Conn} (hs : Consistent s) (intact : QueueIntact addr s)
    (h : step addr s e = some t) : QueueIntact addr t ↔ KeepsQueue addr s e := by
  have entries := intact.entries
  rw [(hs.step h).queueIntact_iff]
  cases step_cases h with
  | leftFirstLoop c place status =>
      have mem_iff : c ∈ s.waiting ↔ (s.handler c).queued = true := by
        rw [(hs.handler c).waiting_iff, place]
        simp [Place.inFirstLoop]
      -- the waiter is erased and its entry is not
      change s.connection_queue = (s.waiting.erase c).map addr ↔ _
      rw [entries, map_eq_map_erase_iff, KeepsQueue, ← mem_iff]
      simp [place, status]
  | polled c place t outcome => exact hs.polled_entries_iff entries place outcome
  | entered c place status =>
      exact iff_of_true entries fun leaves => leaves.2.1 status
  | waited c place status =>
      exact iff_of_true entries fun leaves => by simp [place] at leaves
  | leftSecondLoop c place status =>
      exact iff_of_true entries fun leaves => by simp [place] at leaves
  | released c place =>
      have queue : (releasedStep s c).connection_queue = s.connection_queue := by
        unfold releasedStep; rfl
      rw [queue, releasedStep_waiting]
      exact iff_of_true entries trivial
  | opened | completed | brokeOff | forwarded => exact iff_of_true entries trivial

/-- **Waiting-queue integrity.**  Over every run, `connection_queue` lists the
addresses of the waiting connections in arrival order in every state if and
only if every step meets `KeepsQueue`. -/
theorem queueIntact_iff_keepsQueue (addr : Conn → Addr) (es : List (Event Conn)) :
    (admission addr).Throughout (QueueIntact addr) start es ↔
      (admission addr).Along (KeepsQueue addr) start es := by
  have hstart : Consistent (start : State Conn Addr) := consistent_start
  have hintact : QueueIntact addr (start : State Conn Addr) :=
    hstart.queueIntact_iff.mpr rfl
  exact (admission addr).throughout_iff_along Consistent (fun _ _ _ hs _ h _ => hs.step h)
    (fun _ _ _ hs hP h => queueIntact_step_iff hs hP h) hstart hintact

/-- **A stale entry.**  With all places taken, a waiter whose send fails leaves
its address in the queue although nobody is waiting any more. -/
theorem not_queueIntact_after_failed_waiter :
    ¬ (admission (id : ℕ → ℕ)).Throughout (QueueIntact id) start
        (fillPlaces ++ arrive 22 ++ disconnect 22) := by
  intro h
  have lists : ((admission (id : ℕ → ℕ)).run start
      (fillPlaces ++ arrive 22 ++ disconnect 22)).map
        (fun t => (t.connection_queue, t.waiting)) = some ([22], []) := by
    decide
  obtain ⟨t, hrun, ht⟩ := Option.map_eq_some_iff.mp lists
  have entries := (h.last _ hrun).entries
  rw [Prod.mk.injEq] at ht
  rw [ht.1, ht.2] at entries
  cases entries

/-! ## First come, first served -/

/-- The critical section of `c` admits it. -/
def Admits (addr : Conn → Addr) (s : State Conn Addr) (c : Conn) : Prop :=
  ((pollStep addr s c).handler c).status_ = 0 ∧
    (pollStep addr s c).socket_counter = s.socket_counter + 1

/-- Nobody is admitted while somebody waits who began to wait earlier. -/
def NoOvertaking (addr : Conn → Addr) (s : State Conn Addr) : Event Conn → Prop
  | .poll c => Admits addr s c → waitingBefore s c = []
  | _ => True

/-- Nobody pushed two entries, and the admissions from the queue happened in
the order of the `push_back` calls. -/
structure InPushOrder (s : State Conn Addr) : Prop where
  nodup : s.pushes.Nodup
  sublist : s.fromQueue.Sublist s.pushes

/-- A free place is found by a newcomer only while nobody waits, and taken by a
waiter only through the entry it pushed itself. -/
def TakesTurn (addr : Conn → Addr) (s : State Conn Addr) : Event Conn → Prop
  | .poll c =>
      s.socket_counter ≤ 21 →
        ((s.handler c).queued = false → s.waiting = []) ∧
        ((s.handler c).queued = true →
          s.connection_queue.head? = some (addr c) → s.pushedBy.head? = some c)
  | _ => True

/-- A connection that may still call `push_back`. -/
def MayPush (h : Handler) : Prop :=
  h.place = .absent ∨ (h.place = .polling ∧ h.status_ = 1 ∧ h.queued = false) ∨
    (h.place = .entering ∧ h.queued = false)

/-- Who may still push could push before. -/
theorem mayPush_of_step {addr : Conn → Addr} {s t : State Conn Addr} {e : Event Conn}
    (h : step addr s e = some t) {d : Conn} (may : MayPush (t.handler d)) :
    MayPush (s.handler d) := by
  -- one handler changes; it is enough to look at that one
  have update : ∀ (c : Conn) (g : Handler), t.handler = Function.update s.handler c g →
      (MayPush g → MayPush (s.handler c)) → MayPush (s.handler d) := fun c g handler own => by
    rw [handler] at may
    by_cases same : d = c
    · subst same
      rw [Function.update_self] at may
      exact own may
    · rwa [Function.update_of_ne same] at may
  cases step_cases h with
  | opened c place => exact update c _ rfl fun _ => .inl place
  | entered c place status =>
      refine update c _ rfl fun may => ?_
      simp only [MayPush, reduceCtorEq, false_and, false_or, true_and] at may
      exact .inr (.inl ⟨place, status, may⟩)
  | leftFirstLoop c | waited c | leftSecondLoop c =>
      exact update c _ rfl (by simp [MayPush])
  | polled c place t outcome =>
      cases outcome with
      | enqueued | reported | fromQueue | blocked | newcomer =>
          exact update c _ rfl (by simp [MayPush])
      | undefined => exact may
  | completed c ok pending =>
      refine update c _ rfl ?_
      rintro (absent | ⟨polling, status, newcomer⟩ | entering)
      · exact .inl absent
      · refine .inr (.inl ⟨polling, ?_, newcomer⟩)
        cases ok with
        | false => cases status
        | true => exact status
      · exact .inr (.inr entering)
  | brokeOff c | forwarded c => exact update c _ rfl (by simp [MayPush])
  | released c place => exact update c _ (releasedStep_handler s c) (by simp [MayPush])

omit [DecidableEq Conn] [DecidableEq Addr] in
/-- Who waits has pushed. -/
theorem Consistent.not_mayPush {s : State Conn Addr} (hs : Consistent s) {c : Conn}
    (waits : c ∈ s.waiting) : ¬ MayPush (s.handler c) := by
  obtain ⟨inside, waiter⟩ := (hs.handler c).waiting_iff.mp waits
  rintro (absent | ⟨-, -, newcomer⟩ | ⟨-, newcomer⟩)
  · rw [absent] at inside
    cases inside
  · rw [newcomer] at waiter
    cases waiter
  · rw [newcomer] at waiter
    cases waiter

/-- What holds while everybody takes its turn: the waiters are among those
whose entries are left, in the same order, and the entries that are gone were
taken by those who pushed them. -/
structure Orderly (addr : Conn → Addr) (s : State Conn Addr) : Prop where
  consistent : Consistent s
  entries : s.connection_queue = s.pushedBy.map addr
  waiting_sublist : s.waiting.Sublist s.pushedBy
  pushes_eq : s.fromQueue ++ s.pushedBy = s.pushes
  nodup : s.pushes.Nodup
  fresh : ∀ c, MayPush (s.handler c) → c ∉ s.pushes

/-- A step that pushes and takes no entry keeps `Orderly`. -/
theorem Orderly.of_step {addr : Conn → Addr} {s t : State Conn Addr} {e : Event Conn}
    (hs : Orderly addr s) (h : step addr s e = some t)
    (queue : t.connection_queue = s.connection_queue) (pushedBy : t.pushedBy = s.pushedBy)
    (waiting : t.waiting.Sublist s.waiting) (pushes : t.pushes = s.pushes)
    (fromQueue : t.fromQueue = s.fromQueue) : Orderly addr t where
  consistent := hs.consistent.step h
  entries := by rw [queue, pushedBy, hs.entries]
  waiting_sublist := pushedBy ▸ waiting.trans hs.waiting_sublist
  pushes_eq := by rw [fromQueue, pushedBy, pushes, hs.pushes_eq]
  nodup := pushes ▸ hs.nodup
  fresh d may := by
    rw [pushes]
    exact hs.fresh d (mayPush_of_step h may)

/-- The newcomer's own entry goes to the end of every list. -/
theorem Orderly.enqueued {addr : Conn → Addr} {s t : State Conn Addr} {e : Event Conn}
    (hs : Orderly addr s) (h : step addr s e = some t) {c : Conn}
    (place : (s.handler c).place = .entering) (newcomer : (s.handler c).queued = false)
    (queue : t.connection_queue = s.connection_queue ++ [addr c])
    (waiting : t.waiting = s.waiting ++ [c]) (pushedBy : t.pushedBy = s.pushedBy ++ [c])
    (pushes : t.pushes = s.pushes ++ [c]) (fromQueue : t.fromQueue = s.fromQueue) :
    Orderly addr t where
  consistent := hs.consistent.step h
  entries := by rw [queue, pushedBy, hs.entries, List.map_append, List.map_singleton]
  waiting_sublist := by
    rw [waiting, pushedBy]
    exact hs.waiting_sublist.append (List.Sublist.refl [c])
  pushes_eq := by rw [fromQueue, pushedBy, pushes, ← List.append_assoc, hs.pushes_eq]
  nodup := by
    have fresh : c ∉ s.pushes := hs.fresh c (.inr (.inr ⟨place, newcomer⟩))
    rw [pushes]
    exact nodup_append_singleton hs.nodup fresh
  fresh d may := by
    have waits : c ∈ t.waiting := by
      rw [waiting]
      exact List.mem_append_right s.waiting (List.mem_singleton_self c)
    have other : d ≠ c := by
      rintro rfl
      exact (hs.consistent.step h).not_mayPush waits may
    rw [pushes, mem_append_singleton_of_ne other]
    exact hs.fresh d (mayPush_of_step h may)

omit [DecidableEq Addr] in
/-- The entry a waiter takes in its turn is the oldest one left, and the waiter
has been waiting longest. -/
theorem Orderly.taken {addr : Conn → Addr} {s : State Conn Addr} (hs : Orderly addr s)
    {c : Conn} {owners : List Conn} (own : s.pushedBy = c :: owners)
    (mem : c ∈ s.waiting) :
    (s.waiting.erase c).Sublist owners ∧ waitingBefore s c = [] := by
  have sublist : s.waiting.Sublist (c :: owners) := own ▸ hs.waiting_sublist
  have nodup : (c :: owners).Nodup := by
    have parts := hs.pushes_eq ▸ hs.nodup
    exact own ▸ (List.nodup_append.mp parts).2.1
  -- `c` owns the first entry and no other, so it is the first waiter
  have notLater : c ∉ owners := (List.nodup_cons.mp nodup).1
  refine ⟨by simpa using sublist.erase c, ?_⟩
  rw [waitingBefore]
  generalize s.waiting = waiting at sublist mem
  cases sublist with
  | cons _ later => exact absurd (later.subset mem) notLater
  | cons_cons _ later => simp

/-- **The step lemma.**  A step in turn keeps `Orderly` and overtakes nobody. -/
theorem Orderly.step {addr : Conn → Addr} {s t : State Conn Addr} {e : Event Conn}
    (hs : Orderly addr s) (turn : TakesTurn addr s e) (h : step addr s e = some t) :
    Orderly addr t := by
  cases step_cases h with
  | polled c place t outcome =>
      cases outcome with
      | enqueued full newcomer => exact hs.enqueued h place newcomer rfl rfl rfl rfl rfl
      | fromQueue free waiter rest front =>
          have own : s.pushedBy.head? = some c :=
            (turn free).2 waiter (by rw [front, List.head?_cons])
          obtain ⟨owners, howners⟩ := List.head?_eq_some_iff.mp own
          have mem : c ∈ s.waiting := (hs.consistent.mem_waiting place).mpr waiter
          have entries := hs.entries
          rw [front, howners, List.map_cons, List.cons.injEq] at entries
          refine ⟨hs.consistent.step h, ?_, ?_, ?_, hs.nodup, fun d may => ?_⟩
          · simpa [howners] using entries.2
          · simpa [howners] using (hs.taken howners mem).1
          · have pushes_eq := hs.pushes_eq
            change s.fromQueue ++ [c] ++ s.pushedBy.tail = s.pushes
            rw [howners] at pushes_eq ⊢
            simpa using pushes_eq
          · exact hs.fresh d (mayPush_of_step h may)
      | reported | blocked | newcomer | undefined =>
          exact hs.of_step h rfl rfl (.refl _) rfl rfl
  | leftFirstLoop c place status => exact hs.of_step h rfl rfl List.erase_sublist rfl rfl
  | released c place =>
      refine hs.of_step h ?_ ?_ ?_ ?_ ?_
      · unfold releasedStep; rfl
      · unfold releasedStep; rfl
      · rw [releasedStep_waiting]
      · unfold releasedStep; rfl
      · unfold releasedStep; rfl
  | opened | entered | waited | leftSecondLoop | completed | brokeOff | forwarded =>
      exact hs.of_step h rfl rfl (.refl _) rfl rfl

/-- A step in turn overtakes nobody. -/
theorem Orderly.noOvertaking {addr : Conn → Addr} {s t : State Conn Addr}
    {e : Event Conn} (hs : Orderly addr s) (turn : TakesTurn addr s e)
    (h : Admission.step addr s e = some t) : NoOvertaking addr s e := by
  cases e with
  | poll c =>
      rintro ⟨status, counter⟩
      have place : (s.handler c).place = .entering := by
        simp only [Admission.step, Option.ite_none_right_eq_some] at h
        exact h.1
      have outcome := pollStep_cases addr s c
      generalize pollStep addr s c = u at outcome counter
      cases outcome with
      | enqueued | reported | blocked | undefined => simp [State.answer] at counter
      | fromQueue free waiter rest front =>
          have own : s.pushedBy.head? = some c :=
            (turn free).2 waiter (by rw [front, List.head?_cons])
          obtain ⟨owners, howners⟩ := List.head?_eq_some_iff.mp own
          exact (hs.taken howners ((hs.consistent.mem_waiting place).mpr waiter)).2
      | newcomer free newcomer =>
          rw [waitingBefore, (turn free).1 newcomer, List.takeWhile_nil]
  | opened | test | completed | woken | released => trivial

omit [DecidableEq Conn] [DecidableEq Addr] in
/-- Before anybody has connected. -/
theorem orderly_start (addr : Conn → Addr) : Orderly addr start where
  consistent := consistent_start
  entries := rfl
  waiting_sublist := .refl _
  pushes_eq := rfl
  nodup := List.nodup_nil
  fresh c _ := by simp [start]

omit [DecidableEq Conn] [DecidableEq Addr] in
theorem Orderly.inPushOrder {addr : Conn → Addr} {s : State Conn Addr}
    (hs : Orderly addr s) : InPushOrder s where
  nodup := hs.nodup
  sublist := hs.pushes_eq ▸ List.sublist_append_left s.fromQueue s.pushedBy

/-- **First come, first served.**  On every run in which newcomers find a free
place only while nobody waits and waiters take their own entry, nobody is
admitted while an earlier waiter is still waiting, and the admissions from the
queue happen in the order of the `push_back` calls. -/
theorem noOvertaking_of_takesTurn (addr : Conn → Addr) (es : List (Event Conn))
    (turn : (admission addr).Along (TakesTurn addr) start es) :
    (admission addr).Along (NoOvertaking addr) start es ∧
      (admission addr).Throughout InPushOrder start es := by
  constructor
  · exact (admission addr).along_of_along (Orderly addr)
      (fun _ _ _ hs hturn h => ⟨hs.step hturn h, hs.noOvertaking hturn h⟩)
      (orderly_start addr) turn
  · have orderly : (admission addr).Throughout (Orderly addr) start es :=
      (admission addr).throughout_of_along (Orderly addr)
        (fun _ _ _ hs hturn h => hs.step hturn h) (orderly_start addr) turn
    exact orderly.mono _ fun s hs => hs.inPushOrder

instance (addr : Conn → Addr) (s : State Conn Addr) (c : Conn) :
    Decidable (Admits addr s c) :=
  inferInstanceAs (Decidable (_ ∧ _))

instance (addr : Conn → Addr) (s : State Conn Addr) (e : Event Conn) :
    Decidable (NoOvertaking addr s e) :=
  match e with
  | .poll c => inferInstanceAs (Decidable (Admits addr s c → waitingBefore s c = []))
  | .opened _ | .test _ | .completed _ _ | .woken _ _ | .released _ => isTrue trivial

instance (addr : Conn → Addr) (s : State Conn Addr) (e : Event Conn) :
    Decidable (TakesTurn addr s e) :=
  match e with
  | .poll c =>
      inferInstanceAs (Decidable (s.socket_counter ≤ 21 →
        ((s.handler c).queued = false → s.waiting = []) ∧
          ((s.handler c).queued = true →
            s.connection_queue.head? = some (addr c) → s.pushedBy.head? = some c)))
  | .opened _ | .test _ | .completed _ _ | .woken _ _ | .released _ => isTrue trivial

/-- Two waiters with different addresses are admitted one after the other as
places become free. -/
theorem noOvertaking_two_waiters :
    (admission (id : ℕ → ℕ)).Along (NoOvertaking id) start
        (fillPlaces ++ arrive 22 ++ arrive 23 ++ disconnect 0 ++ [.test 22, .poll 22] ++
          disconnect 1 ++ [.test 23, .poll 23]) ∧
      (admission (id : ℕ → ℕ)).Throughout InPushOrder start
        (fillPlaces ++ arrive 22 ++ arrive 23 ++ disconnect 0 ++ [.test 22, .poll 22] ++
          disconnect 1 ++ [.test 23, .poll 23]) :=
  noOvertaking_of_takesTurn id _ (by decide +kernel)

/-- **Overtaking.**  A place becomes free between two polls of the only waiter,
and a newcomer takes it. -/
theorem overtaken_by_newcomer :
    ¬ (admission (id : ℕ → ℕ)).Along (NoOvertaking id) start
        (fillPlaces ++ arrive 22 ++ disconnect 0 ++ arrive 23) := by
  decide +kernel

end Admission

end MyServer

end SpectrogramServers
