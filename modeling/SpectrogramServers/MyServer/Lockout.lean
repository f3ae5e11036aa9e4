import Mathlib.Data.ZMod.Basic
import SpectrogramServers.MyServer.AdmissionCount

/-!
# What a lost count costs

A waiter whose send fails gives back a place that it never had (`excessRelease`).  This
module says what becomes of the server then.

`Books s n` is the account after `n` such releases: the counter is behind the number of
admitted connections by `n`, modulo the 2^16 of its type, and the limit has risen by `n`.
It is an invariant of every run (`books_run`), and two things follow from it.  As long
as somebody is served for each excess release, the server serves up to `22 + n`
connections.  As soon as there are fewer, the counter has passed below zero and stands
near 65536, and nobody is admitted any more (`locked_out`): those who are served leave,
and the queue does not move.

`stranded_behind_front` is about the other thing such a waiter leaves behind, its entry
in `connection_queue`.  Once that is the front entry, only a handler of the same address
can take it away, and as long as none comes, nobody who waits is admitted.
-/

namespace SpectrogramServers

namespace MyServer

namespace Admission

universe u v

variable {Conn : Type u} {Addr : Type v} [DecidableEq Conn] [DecidableEq Addr]

/-! ## The account -/

/-- A connection that gives back a place that it does not have. -/
def excessRelease (s : State Conn Addr) : Event Conn → List Conn
  | .released c => if c ∈ s.admitted then [] else [c]
  | _ => []

omit [DecidableEq Addr] in
theorem excessRelease_of_mem {s : State Conn Addr} {c : Conn} (mem : c ∈ s.admitted) :
    excessRelease s (.released c) = [] := if_pos mem

omit [DecidableEq Addr] in
theorem excessRelease_of_not_mem {s : State Conn Addr} {c : Conn} (never : c ∉ s.admitted) :
    excessRelease s (.released c) = [c] := if_neg never

/-- The excess releases of a run. -/
def excess (addr : Conn → Addr) (s : State Conn Addr) (es : List (Event Conn)) : ℕ :=
  ((admission addr).collect excessRelease s es).length

theorem excess_nil (addr : Conn → Addr) (s : State Conn Addr) : excess addr s [] = 0 := rfl

theorem excess_cons {addr : Conn → Addr} {s t : State Conn Addr} {e : Event Conn}
    (hstep : step addr s e = some t) (es : List (Event Conn)) :
    excess addr s (e :: es) = (excessRelease s e).length + excess addr t es := by
  rw [excess, (admission addr).collect_cons_of_step hstep, List.length_append]
  rfl

theorem excess_append {addr : Conn → Addr} {s t : State Conn Addr} {es : List (Event Conn)}
    (hrun : (admission addr).run s es = some t) (es' : List (Event Conn)) :
    excess addr s (es ++ es') = excess addr s es + excess addr t es' := by
  induction es generalizing s with
  | nil =>
      obtain rfl : s = t := Option.some.inj hrun
      rw [List.nil_append, excess_nil, Nat.zero_add]
  | cons e es ih =>
      obtain ⟨u, hstep, hrest⟩ := Option.bind_eq_some_iff.mp hrun
      rw [List.cons_append, excess_cons hstep, excess_cons hstep, ih hrest, Nat.add_assoc]

/-- The account after `n` excess releases. -/
structure Books (s : State Conn Addr) (n : ℕ) : Prop where
  behind : (s.socket_counter + n) % 65536 = s.admitted.length % 65536
  uint16 : s.socket_counter < 65536
  limit : s.admitted.length ≤ 22 + n

omit [DecidableEq Conn] [DecidableEq Addr] in
theorem books_start : Books (start : State Conn Addr) 0 := by
  constructor <;> simp [start]

omit [DecidableEq Addr] in
/-- A release: of an admitted connection, or in excess. -/
theorem Books.released {s : State Conn Addr} {n : ℕ} (books : Books s n) (c : Conn) :
    Books (releasedStep s c) (n + (excessRelease s (.released c)).length) := by
  obtain ⟨behind, uint16, limit⟩ := books
  have counter : (releasedStep s c).socket_counter = (s.socket_counter + 65535) % 65536 := by
    unfold releasedStep; rfl
  by_cases mem : c ∈ s.admitted
  · have positive := List.length_pos_of_mem mem
    rw [excessRelease_of_mem mem]
    constructor
    · rw [counter, releasedStep_admitted, List.length_erase_of_mem mem, List.length_nil]
      omega
    · rw [counter]
      exact Nat.mod_lt _ (by decide)
    · rw [releasedStep_admitted, List.length_erase_of_mem mem, List.length_nil]
      omega
  · rw [excessRelease_of_not_mem mem]
    constructor
    · rw [counter, releasedStep_admitted, List.erase_of_not_mem mem, List.length_singleton]
      omega
    · rw [counter]
      exact Nat.mod_lt _ (by decide)
    · rw [releasedStep_admitted, List.erase_of_not_mem mem, List.length_singleton]
      omega

/-- **The step lemma.** -/
theorem Books.step {addr : Conn → Addr} {s t : State Conn Addr} {e : Event Conn} {n : ℕ}
    (books : Books s n) (hstep : step addr s e = some t) :
    Books t (n + (excessRelease s e).length) := by
  cases e with
  | released c =>
      obtain ⟨-, rfl⟩ := guarded_eq_some hstep
      exact books.released c
  | opened | test | poll | completed | woken =>
      change Books t (n + 0)
      obtain ⟨behind, uint16, limit⟩ := books
      obtain ⟨counter, admitted⟩ | ⟨d, free, counter, admitted⟩ := step_count hstep (by simp)
      · constructor
        · rw [counter, admitted]
          exact behind
        · rw [counter]
          exact uint16
        · rw [admitted]
          exact limit
      · -- with `22 + n` connections admitted the counter would be 22
        constructor
        · rw [counter, admitted, List.length_append, List.length_singleton]
          omega
        · omega
        · rw [admitted, List.length_append, List.length_singleton]
          omega

/-- **The run lemma.** -/
theorem Books.run {addr : Conn → Addr} {s t : State Conn Addr} {es : List (Event Conn)} {n : ℕ}
    (books : Books s n) (hrun : (admission addr).run s es = some t) :
    Books t (n + excess addr s es) := by
  induction es generalizing s n with
  | nil =>
      obtain rfl : s = t := Option.some.inj hrun
      exact books
  | cons e es ih =>
      obtain ⟨u, hstep, hrest⟩ := Option.bind_eq_some_iff.mp hrun
      rw [excess_cons hstep, ← Nat.add_assoc]
      exact ih (books.step hstep) hrest

theorem books_run {addr : Conn → Addr} {t : State Conn Addr} {es : List (Event Conn)}
    (hrun : (admission addr).run start es = some t) : Books t (excess addr start es) := by
  have books := books_start.run hrun
  rwa [Nat.zero_add] at books

theorem consistent_run {addr : Conn → Addr} {s t : State Conn Addr} {es : List (Event Conn)}
    (hs : Consistent s) (hrun : (admission addr).run s es = some t) : Consistent t := by
  induction es generalizing s with
  | nil =>
      obtain rfl : s = t := Option.some.inj hrun
      exact hs
  | cons e es ih =>
      obtain ⟨u, hstep, hrest⟩ := Option.bind_eq_some_iff.mp hrun
      exact ih (hs.step hstep) hrest

/-- **The limit rises with every excess release.**  After every run of the server the
counter is the number of admitted connections less the number of excess releases, in
16 bits, and no more connections are served than 22 and one for each of these. -/
theorem served_le_excess (addr : Conn → Addr) (es : List (Event Conn)) (t : State Conn Addr)
    (hrun : (admission addr).run start es = some t) :
    (t.socket_counter : ZMod 65536) = t.admitted.length - excess addr start es ∧
      ∀ cs : List Conn, cs.Nodup → (∀ c ∈ cs, (t.handler c).served) →
        cs.length ≤ 22 + excess addr start es := by
  have books := books_run hrun
  have consistent := consistent_run consistent_start hrun
  refine ⟨?_, fun cs nodup served => ?_⟩
  · have behind : ((t.socket_counter + excess addr start es : ℕ) : ZMod 65536) =
        (t.admitted.length : ℕ) := (ZMod.natCast_eq_natCast_iff _ _ _).mpr books.behind
    rw [eq_sub_iff_add_eq]
    exact_mod_cast behind
  · have sub : cs ⊆ t.admitted := fun c mem => consistent.mem_admitted_of_served (served c mem)
    exact ((nodup.subperm sub).length_le).trans books.limit

/-- Twenty-three connections are admitted, after the failure of a waiter. -/
theorem served_le_excess_failedWaiter :
    ∃ t, (admission (id : ℕ → ℕ)).run start
        (fillPlaces ++ arrive 22 ++ disconnect 22 ++ arrive 23) = some t ∧
      t.admitted.length = 23 ∧
      (t.socket_counter : ZMod 65536) = t.admitted.length -
        excess id start (fillPlaces ++ arrive 22 ++ disconnect 22 ++ arrive 23) := by
  have counts : ((admission (id : ℕ → ℕ)).run start
      (fillPlaces ++ arrive 22 ++ disconnect 22 ++ arrive 23)).map
        (fun t => t.admitted.length) = some 23 := by decide
  obtain ⟨t, hrun, ht⟩ := Option.map_eq_some_iff.mp counts
  exact ⟨t, hrun, ht, (served_le_excess id _ t hrun).1⟩

/-! ## The lockout -/

/-- Without a free place nobody is admitted, and the queue does not move. -/
theorem step_of_full {addr : Conn → Addr} {s t : State Conn Addr} {e : Event Conn}
    (full : 21 < s.socket_counter) (hstep : step addr s e = some t) :
    t.admitted.Sublist s.admitted ∧ t.fromQueue = s.fromQueue ∧
      s.connection_queue <+: t.connection_queue := by
  cases step_cases hstep with
  | polled c place t outcome =>
      cases outcome with
      | enqueued => exact ⟨List.Sublist.refl _, rfl, List.prefix_append _ _⟩
      | reported => exact ⟨List.Sublist.refl _, rfl, List.prefix_refl _⟩
      | fromQueue free | blocked free | newcomer free | undefined free =>
          exact absurd full (Nat.not_lt.mpr free)
  | released c place =>
      rw [releasedStep_admitted, releasedStep_connection_queue, releasedStep_fromQueue]
      exact ⟨List.erase_sublist, rfl, List.prefix_refl _⟩
  | opened | entered | leftFirstLoop | waited | leftSecondLoop | completed | brokeOff
  | forwarded => exact ⟨List.Sublist.refl _, rfl, List.prefix_refl _⟩

omit [DecidableEq Conn] [DecidableEq Addr] in
/-- A counter that has passed below zero is above the limit. -/
theorem Books.full {s : State Conn Addr} {n : ℕ} (books : Books s n)
    (lost : s.admitted.length < n) (few : n ≤ 65514) : 21 < s.socket_counter := by
  obtain ⟨behind, uint16, -⟩ := books
  omega

/-- Once it has passed below zero the counter stays above the limit. -/
theorem Books.full_along {addr : Conn → Addr} {s : State Conn Addr} {es : List (Event Conn)}
    {n : ℕ} (books : Books s n) (lost : s.admitted.length < n)
    (few : n + excess addr s es ≤ 65514) :
    (admission addr).Along (fun s _ => 21 < s.socket_counter) s es := by
  induction es generalizing s n with
  | nil => trivial
  | cons e es ih =>
      intro t hstep
      rw [excess_cons hstep] at few
      have full := books.full lost (by omega)
      have fewer := (step_of_full full hstep).1.length_le
      exact ⟨full, ih (books.step hstep) (by omega) (by omega)⟩

/-- A run of a full server. -/
theorem run_of_full {addr : Conn → Addr} {s t : State Conn Addr} {es : List (Event Conn)}
    (full : (admission addr).Along (fun s _ => 21 < s.socket_counter) s es)
    (hrun : (admission addr).run s es = some t) :
    t.admitted.Sublist s.admitted ∧ t.fromQueue = s.fromQueue ∧
      s.connection_queue <+: t.connection_queue := by
  induction es generalizing s with
  | nil =>
      obtain rfl : s = t := Option.some.inj hrun
      exact ⟨List.Sublist.refl _, rfl, List.prefix_refl _⟩
  | cons e es ih =>
      obtain ⟨u, hstep, hrest⟩ := Option.bind_eq_some_iff.mp hrun
      obtain ⟨now, later⟩ := full u hstep
      obtain ⟨admitted, fromQueue, queue⟩ := step_of_full now hstep
      obtain ⟨admitted', fromQueue', queue'⟩ := ih later hrest
      exact ⟨admitted'.trans admitted, fromQueue'.trans fromQueue, queue.trans queue'⟩

/-- **The lockout.**  When after some run fewer connections are served than there have
been excess releases, then whatever happens from there, as long as there are no more than
65514 of these in all, nobody is admitted: those who are served become fewer, and the
queue only gets longer. -/
theorem locked_out (addr : Conn → Addr) (es es' : List (Event Conn)) (s t : State Conn Addr)
    (before : (admission addr).run start es = some s)
    (lost : s.admitted.length < excess addr start es)
    (after : (admission addr).run s es' = some t)
    (few : excess addr start (es ++ es') ≤ 65514) :
    t.admitted.Sublist s.admitted ∧ t.fromQueue = s.fromQueue ∧
      s.connection_queue <+: t.connection_queue := by
  rw [excess_append before] at few
  exact run_of_full ((books_run before).full_along lost few) after

/-- A waiter fails, and everybody who is served leaves. -/
def emptied : List (Event ℕ) :=
  fillPlaces ++ arrive 22 ++ disconnect 22 ++ (List.range 22).flatMap disconnect

/-- A newcomer has to wait in front of the empty server. -/
theorem locked_out_emptied :
    ∃ s t, (admission (id : ℕ → ℕ)).run start emptied = some s ∧ s.admitted = [] ∧
      (admission (id : ℕ → ℕ)).run s (arrive 23) = some t ∧ t.admitted.Sublist s.admitted := by
  have both : (((admission (id : ℕ → ℕ)).run start emptied).bind fun s =>
      ((admission (id : ℕ → ℕ)).run s (arrive 23)).map fun _ => s.admitted) = some [] := by
    decide +kernel
  obtain ⟨s, before, both⟩ := Option.bind_eq_some_iff.mp both
  obtain ⟨t, after, nobody⟩ := Option.map_eq_some_iff.mp both
  have once : excess (id : ℕ → ℕ) start emptied = 1 := by decide +kernel
  have still : excess (id : ℕ → ℕ) start (emptied ++ arrive 23) = 1 := by decide +kernel
  refine ⟨s, t, before, nobody, after, (locked_out id emptied (arrive 23) s t before ?_ after ?_).1⟩
  · rw [nobody, once]
    decide
  · rw [still]
    decide

/-! ## The front entry -/

/-- A connection that waits and will not be admitted. -/
structure Stranded (s : State Conn Addr) (c : Conn) : Prop where
  place : (s.handler c).place ≠ .absent
  queued : (s.handler c).queued = true
  notAdmitted : c ∉ s.admitted

omit [DecidableEq Conn] [DecidableEq Addr] in
theorem Consistent.stranded {s : State Conn Addr} (hs : Consistent s) {c : Conn}
    (waiting : c ∈ s.waiting) : Stranded s c := by
  obtain ⟨inside, queued⟩ := (hs.handler c).waiting_iff.mp waiting
  refine ⟨fun absent => ?_, queued, fun admitted => ?_⟩
  · rw [absent] at inside
    cases inside
  · rw [((hs.handler c).of_admitted admitted).2.1] at queued
    cases queued

omit [DecidableEq Addr] in
/-- A step of `d`, seen by `c`. -/
theorem Stranded.of_update {s t : State Conn Addr} {c d : Conn} (hc : Stranded s c) {h : Handler}
    (handler : t.handler = Function.update s.handler d h)
    (own : c = d → h.place ≠ .absent ∧ h.queued = true ∧ d ∉ t.admitted)
    (frame : c ≠ d → (c ∈ t.admitted → c ∈ s.admitted)) : Stranded t c := by
  by_cases same : c = d
  · subst same
    obtain ⟨place, queued, notAdmitted⟩ := own rfl
    refine ⟨?_, ?_, notAdmitted⟩
    · rw [handler, Function.update_self]
      exact place
    · rw [handler, Function.update_self]
      exact queued
  · refine ⟨?_, ?_, fun admitted => hc.notAdmitted (frame same admitted)⟩
    · rw [handler, Function.update_of_ne same]
      exact hc.place
    · rw [handler, Function.update_of_ne same]
      exact hc.queued

omit [DecidableEq Addr] in
/-- A step that admits nobody and leaves `queued` alone. -/
theorem Stranded.moved {s t : State Conn Addr} {c d : Conn} (hc : Stranded s c) {h : Handler}
    (handler : t.handler = Function.update s.handler d h) (admitted : t.admitted ⊆ s.admitted)
    (place : (s.handler d).place ≠ .absent → h.place ≠ .absent)
    (queued : h.queued = (s.handler d).queued) : Stranded t c := by
  refine hc.of_update handler (fun same => ?_) fun _ mem => admitted mem
  subst same
  exact ⟨place hc.place, queued.trans hc.queued, fun mem => hc.notAdmitted (admitted mem)⟩

/-- Only a handler of the front entry's address could take that entry. -/
def Away (addr : Conn → Addr) (a : Addr) : Event Conn → Prop
  | .poll c => addr c ≠ a
  | _ => True

/-- **The step lemma.** -/
theorem step_behind_front {addr : Conn → Addr} {s t : State Conn Addr} {e : Event Conn} {a : Addr}
    (front : s.connection_queue.head? = some a) (away : Away addr a e)
    (hstep : step addr s e = some t) :
    t.fromQueue = s.fromQueue ∧ s.connection_queue <+: t.connection_queue ∧
      ∀ c, Stranded s c → Stranded t c := by
  have same : s.admitted ⊆ s.admitted := List.Subset.refl _
  cases step_cases hstep with
  | opened d place =>
      refine ⟨rfl, List.prefix_refl _, fun c hc => hc.of_update rfl (fun own => ?_) fun _ => id⟩
      subst own
      exact absurd place hc.place
  | entered d | leftFirstLoop d | waited d | leftSecondLoop d | brokeOff d | forwarded d =>
      exact ⟨rfl, List.prefix_refl _, fun c hc => hc.moved rfl same (fun _ => nofun) rfl⟩
  | completed d ok pending =>
      exact ⟨rfl, List.prefix_refl _, fun c hc => hc.moved rfl same id rfl⟩
  | released d place =>
      rw [releasedStep_connection_queue, releasedStep_fromQueue]
      refine ⟨rfl, List.prefix_refl _, fun c hc => ?_⟩
      refine hc.moved (releasedStep_handler s d) ?_ (fun _ => nofun) rfl
      rw [releasedStep_admitted]
      exact List.erase_subset
  | polled d place t outcome =>
      cases outcome with
      | enqueued full newcomer =>
          refine ⟨rfl, List.prefix_append _ _, fun c hc => hc.of_update rfl (fun own => ?_)
            fun _ => id⟩
          rw [← own, hc.queued] at newcomer
          cases newcomer
      | reported full waiter =>
          exact ⟨rfl, List.prefix_refl _, fun c hc =>
            hc.moved rfl same (fun _ => nofun) waiter.symm⟩
      | blocked free waiter front_ip rest first other =>
          exact ⟨rfl, List.prefix_refl _, fun c hc =>
            hc.moved rfl same (fun _ => nofun) waiter.symm⟩
      | fromQueue free waiter rest first =>
          rw [first] at front
          exact absurd (Option.some.inj front) away
      | newcomer free newcomer =>
          refine ⟨rfl, List.prefix_refl _, fun c hc => hc.of_update rfl (fun own => ?_)
            fun other => (mem_append_singleton_of_ne other _).mp⟩
          rw [← own, hc.queued] at newcomer
          cases newcomer
      | undefined free waiter empty =>
          rw [empty] at front
          cases front

/-- **Nobody passes the front entry.**  From every state that a run reaches, as long as no
handler of the front entry's address goes through the critical section (its connections
are gone, say), whatever else happens: the queue keeps its entries, nobody is admitted
from it, and none of those who wait is ever admitted. -/
theorem stranded_behind_front (addr : Conn → Addr) (es es' : List (Event Conn))
    (s t : State Conn Addr) (a : Addr) (before : (admission addr).run start es = some s)
    (front : s.connection_queue.head? = some a)
    (away : ∀ c, .poll c ∈ es' → addr c ≠ a) (after : (admission addr).run s es' = some t) :
    t.fromQueue = s.fromQueue ∧ s.connection_queue <+: t.connection_queue ∧
      ∀ c ∈ s.waiting, c ∉ t.admitted := by
  have consistent := consistent_run consistent_start before
  suffices behind : t.fromQueue = s.fromQueue ∧ s.connection_queue <+: t.connection_queue ∧
      ∀ c, Stranded s c → Stranded t c from
    ⟨behind.1, behind.2.1, fun c waiting =>
      (behind.2.2 c (consistent.stranded waiting)).notAdmitted⟩
  clear before consistent
  induction es' generalizing s with
  | nil =>
      obtain rfl : s = t := Option.some.inj after
      exact ⟨rfl, List.prefix_refl _, fun c => id⟩
  | cons e es' ih =>
      obtain ⟨u, hstep, hrest⟩ := Option.bind_eq_some_iff.mp after
      have first : Away addr a e := by
        cases e with
        | poll c => exact away c List.mem_cons_self
        | opened | test | completed | woken | released => trivial
      obtain ⟨fromQueue, queue, stranded⟩ := step_behind_front front first hstep
      have kept : u.connection_queue.head? = some a := by
        obtain ⟨later, grown⟩ := queue
        rw [← grown, List.head?_append, front]
        rfl
      obtain ⟨fromQueue', queue', stranded'⟩ :=
        ih u kept (fun c mem => away c (List.mem_cons_of_mem e mem)) hrest
      exact ⟨fromQueue'.trans fromQueue, queue.trans queue',
        fun c hc => stranded' c (stranded c hc)⟩

/-- Two waiters, of whom the first fails; then a place becomes free, and it is a newcomer
who gets it. -/
theorem stranded_behind_front_overtaken :
    ∃ s t, (admission (id : ℕ → ℕ)).run start
        (fillPlaces ++ arrive 22 ++ arrive 23 ++ disconnect 22) = some s ∧ 23 ∈ s.waiting ∧
      (admission (id : ℕ → ℕ)).run s (disconnect 0 ++ [.test 23, .poll 23] ++ arrive 24) =
        some t ∧ 24 ∈ t.admitted ∧ 23 ∉ t.admitted := by
  have both : (((admission (id : ℕ → ℕ)).run start
      (fillPlaces ++ arrive 22 ++ arrive 23 ++ disconnect 22)).bind fun s =>
      ((admission (id : ℕ → ℕ)).run s (disconnect 0 ++ [.test 23, .poll 23] ++ arrive 24)).map
        fun t => (s.connection_queue, s.waiting, decide (24 ∈ t.admitted))) =
      some ([22, 23], [23], true) := by decide +kernel
  obtain ⟨s, before, both⟩ := Option.bind_eq_some_iff.mp both
  obtain ⟨t, after, seen⟩ := Option.map_eq_some_iff.mp both
  simp only [Prod.mk.injEq] at seen
  obtain ⟨queue, waiting, overtaken⟩ := seen
  have waits : 23 ∈ s.waiting := by
    rw [waiting]
    exact List.mem_singleton_self 23
  refine ⟨s, t, before, waits, after, of_decide_eq_true overtaken, ?_⟩
  refine (stranded_behind_front id _ _ s t 22 before (by rw [queue]; rfl) (fun c mem => ?_)
    after).2.2 23 waits
  simp only [disconnect, arrive, List.mem_append, List.mem_cons, List.not_mem_nil, reduceCtorEq,
    Event.poll.injEq, false_or, or_false] at mem
  change c ≠ 22
  omega

end Admission

end MyServer

end SpectrogramServers
