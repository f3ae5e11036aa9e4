import Mathlib.Data.List.Perm.Subperm
import SpectrogramServers.MyServer.AdmissionInvariant

/-!
# What the waiting queue can be relied on for

Entries of `connection_queue` are anonymous: a waiter takes the front entry if it carries
its address, whoever pushed it, and a waiter whose send failed leaves its entry behind.
In runs in which that happens the queue no longer says who waits.  This module asks what
remains true of every run, with no condition at all.

## Safety

`Covered` is the invariant: the addresses of the waiters are among the entries, each as
often as it has waiters. Stale entries only add to it, and an entry that is taken by
somebody else with the same address leaves one for the other.  So `front` and `erase`
never meet an empty queue and `find` never fails, and nothing undefined happens.  The
counting is with multisets of addresses (`List.Subperm`).

## Positions

What a waiter is told is another matter.  The position is computed when no place is free;
a waiter that polls while a place is free for somebody else is sent the variable `j` of
its last poll once more, and by then the queue can be shorter.
`queueSafe_and_positions_iff` has both: safety on every run, and exactly when no position
that is told is beyond the end of the queue.
-/

namespace SpectrogramServers

namespace MyServer

namespace Admission

universe u v

variable {Conn : Type u} {Addr : Type v} [DecidableEq Conn] [DecidableEq Addr]

/-! ## The message of a poll -/

/-- The message that the critical section of `c` ends with. -/
def pollMessage (addr : Conn → Addr) (s : State Conn Addr) (c : Conn) : Option Json :=
  ((pollStep addr s c).sent.drop s.sent.length).head?.map Prod.snd

/-- The message of an admitted connection. -/
def notDuplicate : Json := .object [("Duplicate", .bool false)]

theorem duplicateFalse_eq (j : Json) : duplicateFalse j = notDuplicate :=
  Json.set_clear j "Duplicate" (.bool false)

/-- The Queue Position in a message. -/
def position (j : Json) : Option ℕ :=
  match j.get? "Queue Position" with
  | some (.number p) => some p
  | _ => none

theorem queuePosition_eq (p : ℕ) :
    queuePosition p = .object [("Queue Position", .number p), ("Served", .bool false)] := rfl

theorem position_queuePosition (p : ℕ) : position (queuePosition p) = some p := rfl

theorem position_notDuplicate : position notDuplicate = none := rfl

/-- **What each way through the critical section sends.** -/
theorem pollMessage_cases (addr : Conn → Addr) (s : State Conn Addr) (c : Conn) :
    (21 < s.socket_counter ∧ (s.handler c).queued = false ∧
        pollMessage addr s c = some (queuePosition (s.connection_queue.length + 1)) ∧
        (pollStep addr s c).connection_queue = s.connection_queue ++ [addr c]) ∨
      (21 < s.socket_counter ∧ (s.handler c).queued = true ∧
        pollMessage addr s c =
          some (queuePosition (s.connection_queue.idxOf (addr c) + 1)) ∧
        (pollStep addr s c).connection_queue = s.connection_queue) ∨
      (s.socket_counter ≤ 21 ∧
        ((s.handler c).queued = true → s.connection_queue.head? = some (addr c)) ∧
        pollMessage addr s c = some notDuplicate) ∨
      (s.socket_counter ≤ 21 ∧ (s.handler c).queued = true ∧ s.connection_queue ≠ [] ∧
        s.connection_queue.head? ≠ some (addr c) ∧
        pollMessage addr s c = some (s.handler c).j ∧
        (pollStep addr s c).connection_queue = s.connection_queue) ∨
      (s.socket_counter ≤ 21 ∧ (s.handler c).queued = true ∧ s.connection_queue = [] ∧
        pollMessage addr s c = none) := by
  have outcome := pollStep_cases addr s c
  unfold pollMessage
  generalize pollStep addr s c = t at outcome ⊢
  cases outcome with
  | enqueued full newcomer =>
      refine Or.inl ⟨full, newcomer, ?_, rfl⟩
      simp [State.answer]
  | reported full waiter =>
      refine Or.inr (Or.inl ⟨full, waiter, ?_, rfl⟩)
      simp [State.answer]
  | fromQueue free waiter rest front =>
      refine Or.inr (Or.inr (Or.inl ⟨free, fun _ => ?_, ?_⟩))
      · rw [front, List.head?_cons]
      · simp [State.answer, duplicateFalse_eq]
  | blocked free waiter front_ip rest front other =>
      refine Or.inr (Or.inr (Or.inr (Or.inl ⟨free, waiter, ?_, ?_, ?_, rfl⟩)))
      · rw [front]
        exact List.cons_ne_nil _ _
      · rw [front, List.head?_cons]
        exact fun same => other (Option.some.inj same)
      · simp [State.answer]
  | newcomer free newcomer =>
      refine Or.inr (Or.inr (Or.inl ⟨free, fun waiter => ?_, ?_⟩))
      · rw [newcomer] at waiter
        cases waiter
      · simp [State.answer, duplicateFalse_eq]
  | undefined free waiter empty =>
      refine Or.inr (Or.inr (Or.inr (Or.inr ⟨free, waiter, empty, ?_⟩)))
      simp

/-! ## The invariant -/

/-- The addresses of the waiters are among the entries, each as often as it has waiters;
nothing undefined has happened; and what a waiter was last told is a position. -/
structure Covered (addr : Conn → Addr) (s : State Conn Addr) : Prop where
  consistent : Consistent s
  entries : (s.waiting.map addr).Subperm s.connection_queue
  defined : s.undefinedBehaviour = false
  told : ∀ c ∈ s.waiting, ∃ p, 0 < p ∧ (s.handler c).j = queuePosition p

omit [DecidableEq Conn] [DecidableEq Addr] in
theorem covered_start (addr : Conn → Addr) : Covered addr start where
  consistent := consistent_start
  entries := List.nil_subperm
  defined := rfl
  told _ mem := by cases mem

omit [DecidableEq Conn] [DecidableEq Addr] in
/-- A waiter finds its address. -/
theorem Covered.mem_queue {addr : Conn → Addr} {s : State Conn Addr} (h : Covered addr s)
    {c : Conn} (waits : c ∈ s.waiting) : addr c ∈ s.connection_queue :=
  h.entries.subset (List.mem_map_of_mem waits)

omit [DecidableEq Conn] [DecidableEq Addr] in
/-- While anybody waits the queue is not empty. -/
theorem Covered.queue_ne_nil {addr : Conn → Addr} {s : State Conn Addr} (h : Covered addr s)
    {c : Conn} (waits : c ∈ s.waiting) : s.connection_queue ≠ [] :=
  List.ne_nil_of_mem (h.mem_queue waits)

omit [DecidableEq Addr] in
/-- A step of `c` only has to be checked at `c`. -/
theorem Covered.of_update {addr : Conn → Addr} {s t : State Conn Addr} (hs : Covered addr s)
    (consistent : Consistent t) (c : Conn) {h : Handler}
    (handler : t.handler = Function.update s.handler c h)
    (entries : (t.waiting.map addr).Subperm t.connection_queue)
    (defined : t.undefinedBehaviour = s.undefinedBehaviour)
    (waits : ∀ d ∈ t.waiting, d ≠ c → d ∈ s.waiting)
    (own : c ∈ t.waiting → ∃ p, 0 < p ∧ h.j = queuePosition p) : Covered addr t where
  consistent := consistent
  entries := entries
  defined := defined.trans hs.defined
  told d mem := by
    rw [handler]
    by_cases same : d = c
    · subst same
      rw [Function.update_self]
      exact own mem
    · rw [Function.update_of_ne same]
      exact hs.told d (waits d mem same)

omit [DecidableEq Addr] in
/-- The same when neither the waiters nor the queue changes. -/
theorem Covered.of_handler {addr : Conn → Addr} {s t : State Conn Addr} (hs : Covered addr s)
    (consistent : Consistent t) (c : Conn) {h : Handler}
    (handler : t.handler = Function.update s.handler c h) (waiting : t.waiting = s.waiting)
    (queue : t.connection_queue = s.connection_queue)
    (defined : t.undefinedBehaviour = s.undefinedBehaviour)
    (own : c ∈ s.waiting → h.j = (s.handler c).j) : Covered addr t := by
  refine hs.of_update consistent c handler ?_ defined (fun d mem _ => waiting ▸ mem) fun mem => ?_
  · rw [waiting, queue]
    exact hs.entries
  · rw [waiting] at mem
    rw [own mem]
    exact hs.told c mem

theorem Covered.polled {addr : Conn → Addr} {s t : State Conn Addr} (hs : Covered addr s)
    (consistent : Consistent t) {c : Conn} (place : (s.handler c).place = .entering)
    (outcome : PollOutcome addr s c t) : Covered addr t := by
  cases outcome with
  | enqueued full newcomer =>
      refine hs.of_update consistent c rfl ?_ rfl
        (fun d mem other => (mem_append_singleton_of_ne other _).mp mem)
        fun _ => ⟨_, Nat.succ_pos _, rfl⟩
      show ((s.waiting ++ [c]).map addr).Subperm (s.connection_queue ++ [addr c])
      rw [List.map_append, List.map_singleton]
      exact (List.subperm_append_right [addr c]).mpr hs.entries
  | reported full waiter =>
      exact hs.of_update consistent c rfl hs.entries rfl (fun d mem _ => mem)
        fun _ => ⟨_, Nat.succ_pos _, rfl⟩
  | fromQueue free waiter rest front =>
      have waits : c ∈ s.waiting := (hs.consistent.mem_waiting place).mpr waiter
      refine hs.of_update consistent c rfl ?_ rfl
        (fun d mem other => (List.mem_erase_of_ne other).mp mem) fun mem => ?_
      · -- one waiter and one entry with its address go
        have without : (s.waiting.map addr).Perm (addr c :: (s.waiting.erase c).map addr) :=
          (List.perm_cons_erase waits).map addr
        have entries := hs.entries
        rw [front] at entries
        exact (List.subperm_cons (addr c)).mp (without.symm.subperm.trans entries)
      · exact absurd mem hs.consistent.waiting_nodup.not_mem_erase
  | blocked free waiter front_ip rest front other =>
      exact hs.of_handler consistent c rfl rfl rfl rfl fun _ => rfl
  | newcomer free newcomer =>
      have notWaiting := hs.consistent.not_mem_waiting place newcomer
      exact hs.of_handler consistent c rfl rfl rfl rfl fun mem => absurd mem notWaiting
  | undefined free waiter empty =>
      have waits : c ∈ s.waiting := (hs.consistent.mem_waiting place).mpr waiter
      exact absurd empty (hs.queue_ne_nil waits)

/-- **`Covered` is a step invariant**, whatever the interleaving and whatever sends fail. -/
theorem Covered.step {addr : Conn → Addr} {s t : State Conn Addr} {e : Event Conn}
    (hs : Covered addr s) (h : step addr s e = some t) : Covered addr t := by
  have consistent := hs.consistent.step h
  cases step_cases h with
  | opened c place =>
      have notWaiting := hs.consistent.not_mem_waiting_of_outside place rfl
      exact hs.of_handler consistent c rfl rfl rfl rfl fun mem => absurd mem notWaiting
  | entered c place status => exact hs.of_handler consistent c rfl rfl rfl rfl fun _ => rfl
  | leftFirstLoop c place status =>
      refine hs.of_update consistent c rfl ?_ rfl
        (fun d mem other => (List.mem_erase_of_ne other).mp mem)
        fun mem => absurd mem hs.consistent.waiting_nodup.not_mem_erase
      exact ((List.erase_sublist.map addr).subperm).trans hs.entries
  | waited c place status =>
      have notWaiting := hs.consistent.not_mem_waiting_of_outside place rfl
      exact hs.of_handler consistent c rfl rfl rfl rfl fun mem => absurd mem notWaiting
  | leftSecondLoop c place status => exact hs.of_handler consistent c rfl rfl rfl rfl fun _ => rfl
  | polled c place t outcome => exact hs.polled consistent place outcome
  | completed c ok pending => exact hs.of_handler consistent c rfl rfl rfl rfl fun _ => rfl
  | brokeOff c sample_json place status =>
      exact hs.of_handler consistent c rfl rfl rfl rfl fun _ => rfl
  | forwarded c sample_json place status =>
      exact hs.of_handler consistent c rfl rfl rfl rfl fun _ => rfl
  | released c place =>
      exact hs.of_handler consistent c (releasedStep_handler s c) (releasedStep_waiting s c)
        (by unfold releasedStep; rfl) (by unfold releasedStep; rfl) fun _ => rfl

/-! ## Safety -/

/-- Every address has at least as many entries as waiters, and `front` has not been
applied to an empty queue. -/
structure QueueSafe (addr : Conn → Addr) (s : State Conn Addr) : Prop where
  entries : ∀ (a : Addr) (cs : List Conn), cs.Nodup →
    (∀ c ∈ cs, (s.handler c).place.inFirstLoop = true ∧ (s.handler c).queued = true ∧
      addr c = a) → cs.length ≤ s.connection_queue.count a
  defined : s.undefinedBehaviour = false

/-- A waiter that polls finds entries in the queue and its address among them, and
whoever polls is sent `Duplicate = false` or `Served = false` and a position. -/
def PollSafe (addr : Conn → Addr) (s : State Conn Addr) : Event Conn → Prop
  | .poll c =>
      ((s.handler c).queued = true → s.connection_queue ≠ [] ∧
          s.connection_queue.idxOf (addr c) < s.connection_queue.length) ∧
        ∃ j, pollMessage addr s c = some j ∧
          (j = .object [("Duplicate", .bool false)] ∨
            ∃ p, 0 < p ∧ j = .object [("Queue Position", .number p), ("Served", .bool false)])
  | _ => True

/-- A position that is sent is not beyond the end of the queue. -/
def PositionInQueue (addr : Conn → Addr) (s : State Conn Addr) : Event Conn → Prop
  | .poll c =>
      ∀ p ∈ (pollMessage addr s c).bind position,
        p ≤ (pollStep addr s c).connection_queue.length
  | _ => True

/-- When a waiter polls while a place is free for somebody else, the queue is still as
long as the position it was last told. -/
def KeepsLength (addr : Conn → Addr) (s : State Conn Addr) : Event Conn → Prop
  | .poll c =>
      s.socket_counter ≤ 21 → (s.handler c).queued = true →
        s.connection_queue.head? ≠ some (addr c) →
          ∀ p ∈ position (s.handler c).j, p ≤ s.connection_queue.length
  | _ => True

omit [DecidableEq Conn] in
theorem Covered.queueSafe {addr : Conn → Addr} {s : State Conn Addr} (h : Covered addr s) :
    QueueSafe addr s where
  entries a cs nodup waiters := by
    obtain ⟨l, perm, sub⟩ : cs.Subperm s.waiting := nodup.subperm fun c mem =>
      (h.consistent.handler c).waiting_iff.mpr ⟨(waiters c mem).1, (waiters c mem).2.1⟩
    have among : (cs.map addr).Subperm (s.waiting.map addr) :=
      ⟨l.map addr, perm.map addr, sub.map addr⟩
    have same : cs.map addr = List.replicate cs.length a := by
      refine List.eq_replicate_iff.mpr ⟨List.length_map addr, fun b mem => ?_⟩
      obtain ⟨c, inside, rfl⟩ := List.mem_map.mp mem
      exact (waiters c inside).2.2
    calc cs.length = (cs.map addr).count a := by rw [same, List.count_replicate_self]
      _ ≤ s.connection_queue.count a := (among.trans h.entries).count_le a
  defined := h.defined

theorem Covered.pollSafe {addr : Conn → Addr} {s t : State Conn Addr} {e : Event Conn}
    (hs : Covered addr s) (h : Admission.step addr s e = some t) : PollSafe addr s e := by
  cases step_cases h with
  | polled c place t outcome =>
      have waits := hs.consistent.mem_waiting place
      refine ⟨fun waiter => ?_, ?_⟩
      · have mem := waits.mpr waiter
        exact ⟨hs.queue_ne_nil mem, List.idxOf_lt_length_of_mem (hs.mem_queue mem)⟩
      · rcases pollMessage_cases addr s c with ⟨-, -, sent, -⟩ | ⟨-, -, sent, -⟩ |
          ⟨-, -, sent⟩ | ⟨-, waiter, -, -, sent, -⟩ | ⟨-, waiter, empty, -⟩
        · exact ⟨_, sent, Or.inr ⟨_, Nat.succ_pos _, queuePosition_eq _⟩⟩
        · exact ⟨_, sent, Or.inr ⟨_, Nat.succ_pos _, queuePosition_eq _⟩⟩
        · exact ⟨_, sent, Or.inl rfl⟩
        · obtain ⟨p, positive, told⟩ := hs.told c (waits.mpr waiter)
          exact ⟨_, sent, Or.inr ⟨p, positive, told.trans (queuePosition_eq p)⟩⟩
        · exact absurd empty (hs.queue_ne_nil (waits.mpr waiter))
  | opened | entered | leftFirstLoop | waited | leftSecondLoop | completed | brokeOff
  | forwarded | released => trivial

/-- **The step lemma.**  Only the repeated message can name a position that is not there. -/
theorem Covered.positionInQueue_iff {addr : Conn → Addr} {s t : State Conn Addr}
    {e : Event Conn} (hs : Covered addr s) (h : Admission.step addr s e = some t) :
    PositionInQueue addr s e ↔ KeepsLength addr s e := by
  cases step_cases h with
  | polled c place t outcome =>
      have waits := hs.consistent.mem_waiting place
      dsimp only [PositionInQueue, KeepsLength]
      rcases pollMessage_cases addr s c with ⟨full, -, sent, queue⟩ |
        ⟨full, waiter, sent, queue⟩ | ⟨-, front, sent⟩ |
        ⟨free, waiter, -, other, sent, queue⟩ | ⟨-, waiter, empty, sent⟩
      · refine iff_of_true (fun p told => ?_) fun free => absurd free (Nat.not_le.mpr full)
        rw [sent, Option.bind_some, position_queuePosition] at told
        obtain rfl := Option.some.inj told
        have grown : (s.connection_queue ++ [addr c]).length = s.connection_queue.length + 1 := by
          rw [List.length_append, List.length_singleton]
        exact Nat.le_of_eq (grown ▸ congrArg List.length queue.symm)
      · refine iff_of_true (fun p told => ?_) fun free => absurd free (Nat.not_le.mpr full)
        rw [sent, Option.bind_some, position_queuePosition] at told
        obtain rfl := Option.some.inj told
        rw [queue]
        exact List.idxOf_lt_length_of_mem (hs.mem_queue (waits.mpr waiter))
      · refine iff_of_true (fun p told => ?_) fun _ waiter other => absurd (front waiter) other
        rw [sent, Option.bind_some, position_notDuplicate] at told
        cases told
      · rw [sent, queue]
        exact ⟨fun told _ _ _ => told, fun keeps => keeps free waiter other⟩
      · exact absurd empty (hs.queue_ne_nil (waits.mpr waiter))
  | opened | entered | leftFirstLoop | waited | leftSecondLoop | completed | brokeOff
  | forwarded | released => exact Iff.rfl

/-- **The safety of the waiting queue.**  On every run every address has its entries,
`front`, `erase` and `find` meet what they need, and messages have one of two forms; the
positions are within the queue exactly where no message is repeated that the queue has
become too short for. -/
theorem queueSafe_and_positions_iff (addr : Conn → Addr) (es : List (Event Conn)) :
    (admission addr).Throughout (QueueSafe addr) start es ∧
      (admission addr).Along (PollSafe addr) start es ∧
        ((admission addr).Along (PositionInQueue addr) start es ↔
          (admission addr).Along (KeepsLength addr) start es) := by
  have always : (admission addr).Throughout (Covered addr) start es :=
    (admission addr).throughout_of_step (Covered addr) (fun _ _ _ hs h => hs.step h)
      (covered_start addr) es
  have anyStep : (admission addr).Along (fun _ _ => True) start es :=
    (admission addr).along_of_forall (fun _ _ => trivial) start es
  refine ⟨always.mono (admission addr) fun s h => h.queueSafe, ?_, ?_, ?_⟩
  · exact (admission addr).along_of_along (Covered addr)
      (fun s e t hs _ h => ⟨hs.step h, hs.pollSafe h⟩) (covered_start addr) anyStep
  · exact (admission addr).along_of_along (Covered addr)
      (fun s e t hs inQueue h => ⟨hs.step h, (hs.positionInQueue_iff h).mp inQueue⟩)
      (covered_start addr)
  · exact (admission addr).along_of_along (Covered addr)
      (fun s e t hs keeps h => ⟨hs.step h, (hs.positionInQueue_iff h).mpr keeps⟩)
      (covered_start addr)

instance (addr : Conn → Addr) (s : State Conn Addr) :
    ∀ e, Decidable (PositionInQueue addr s e)
  | .poll c => inferInstanceAs (Decidable (∀ p ∈ (pollMessage addr s c).bind position, _))
  | .opened _ | .test _ | .completed _ _ | .woken _ _ | .released _ => isTrue trivial

/-- Three connections wait and two places become free; the first waiter takes one, and the
last, which is now the second of two, is told position 3 again. -/
def staleRun : List (Event ℕ) :=
  fillPlaces ++ arrive 22 ++ arrive 23 ++ arrive 24 ++ disconnect 0 ++ disconnect 1 ++
    [.test 22, .poll 22, .test 24, .poll 24]

/-- Position 3 is beyond the end of the queue by then. -/
theorem not_positionInQueue_staleRun :
    ¬ (admission (id : ℕ → ℕ)).Along (PositionInQueue id) start staleRun := by
  decide +kernel

end Admission

end MyServer

end SpectrogramServers
