import SpectrogramServers.MyServer.QueueSafety
import SpectrogramServers.MyServer.WaitingQueue

/-!
# Whether a waiter is told its position

A connection that finds no free place is told a Queue Position, and told again each time
it polls. The position should be one more than the number of connections that have been
waiting longer, and it should never increase.

## Three ways to compute it

The Queue Position of a newcomer is the length of the queue, that of a waiter is where
`find` meets its address, and a waiter that polls while a place is free for somebody else
is told again what it was told last, since `j` is sent as it is.  Each is right under a
condition of its own: the first always, the second if the waiter has its address to itself
among those ahead, and the third if nobody ahead has left since.  `TellsPosition` is the
three together, and on runs that keep the queue intact it is exactly what the truth of the
messages costs (`truthful_iff_tellsPosition`).

## What has been told

`reporting` is the admission machine with the positions that each connection has been
told, and how many were ahead of it at the time.  Its invariant, `Heard`, ties the two
together: whoever waits has been told something, `j` says it again, and of those who were
ahead then nobody has been added since. That positions do not increase then follows from
their being right: the waiters ahead only become fewer (`WaitingMoves.length_le`).
-/

namespace SpectrogramServers

namespace MyServer

namespace Admission

universe u v

variable {Conn : Type u} {Addr : Type v} [DecidableEq Conn] [DecidableEq Addr]

/-! ## Messages and the waiters ahead -/

/-- A message with a Queue Position: the position, and how many connections had been
waiting longer than its recipient when it was sent. -/
structure Told where
  position : ℕ
  ahead : ℕ
  deriving DecidableEq

/-- The server, with what every connection has been told, oldest first. -/
structure Reporting (Conn : Type u) (Addr : Type v) where
  server : State Conn Addr
  told : Conn → List Told

/-- What a step tells a connection. -/
def tells (addr : Conn → Addr) (s : State Conn Addr) : Event Conn → Option (Conn × Told)
  | .poll c =>
      ((pollMessage addr s c).bind position).map fun p =>
        (c, { position := p, ahead := (waitingBefore s c).length })
  | _ => none

/-- One more message. -/
def hear (told : Conn → List Told) : Option (Conn × Told) → Conn → List Told
  | none => told
  | some (c, m) => Function.update told c (told c ++ [m])

/-- The server with its messages. -/
def reporting (addr : Conn → Addr) : Machine (Reporting Conn Addr) (Event Conn) where
  init r := r.server = start ∧ r.told = fun _ => []
  step r e :=
    (Admission.step addr r.server e).bind fun t =>
      some { server := t, told := hear r.told (tells addr r.server e) }

/-- Before anybody has connected. -/
def quiet : Reporting Conn Addr where
  server := start
  told := fun _ => []

/-- Every position was 1 plus the number of connections waiting longer, and no waiter has
seen its position increase. -/
def Truthful (r : Reporting Conn Addr) : Prop :=
  ∀ c, (∀ m ∈ r.told c, m.position = m.ahead + 1) ∧
    (r.told c).Pairwise fun m later => later.position ≤ m.position

/-- The queue stays intact: an entry is removed only for the connection that it was made
for. -/
def KeepsIntact (addr : Conn → Addr) (r : Reporting Conn Addr) (e : Event Conn) : Prop :=
  KeepsQueue addr r.server e

/-- A waiter that looks for its address has it to itself among those who have been waiting
longer, and where a message is repeated nobody ahead has left since it was sent. -/
def TellsPosition (addr : Conn → Addr) (r : Reporting Conn Addr) : Event Conn → Prop
  | .poll c =>
      (r.server.handler c).queued = true →
        (21 < r.server.socket_counter → ∀ d ∈ waitingBefore r.server c, addr d ≠ addr c) ∧
          (r.server.socket_counter ≤ 21 →
            r.server.connection_queue.head? ≠ some (addr c) →
              ∀ m ∈ (r.told c).getLast?, m.ahead = (waitingBefore r.server c).length)
  | _ => True

/-! ## The waiters ahead only become fewer -/

/-- What becomes of the waiters in a step: they stay, one is added or one goes. -/
inductive WaitingMoves (waiting : List Conn) : List Conn → Prop
  | stays : WaitingMoves waiting waiting
  | joins (c : Conn) : WaitingMoves waiting (waiting ++ [c])
  | goes (c : Conn) : WaitingMoves waiting (waiting.erase c)

theorem WaitingMoves.length_le {waiting after : List Conn} (moves : WaitingMoves waiting after)
    (nodup : waiting.Nodup) {d : Conn} (before : d ∈ waiting) (still : d ∈ after) :
    (after.takeWhile (· ≠ d)).length ≤ (waiting.takeWhile (· ≠ d)).length := by
  cases moves with
  | stays => exact Nat.le_refl _
  | joins c =>
      exact (congrArg List.length (takeWhile_append_of_mem before [c])).le
  | goes c =>
      have other : c ≠ d := by
        rintro rfl
        exact nodup.not_mem_erase still
      exact length_takeWhile_erase_le waiting other

/-! ## What a step tells -/

/-- Every step moves the list of waiters in one of these ways. -/
theorem step_waiting {addr : Conn → Addr} {s t : State Conn Addr} {e : Event Conn}
    (h : step addr s e = some t) : WaitingMoves s.waiting t.waiting := by
  cases step_cases h with
  | leftFirstLoop c place status => exact .goes c
  | polled c place t outcome =>
      cases outcome with
      | enqueued full newcomer => exact .joins c
      | fromQueue free waiter rest front => exact .goes c
      | reported | blocked | newcomer | undefined => exact .stays
  | released c place =>
      rw [releasedStep_waiting]
      exact .stays
  | opened | entered | waited | leftSecondLoop | completed | brokeOff | forwarded => exact .stays

/-- In the step from `s` to `t`, `c` is sent `m`. -/
structure Receives (s t : State Conn Addr) (c : Conn) (m : Told) : Prop where
  waits : c ∈ t.waiting
  j : (t.handler c).j = queuePosition m.position
  ahead : m.ahead = (waitingBefore s c).length
  kept : waitingBefore t c = waitingBefore s c
  before : c ∈ s.waiting ∨ MayPush (s.handler c)

/-- `d` has been waiting, and what it was told last has not changed. -/
def Unmoved (s t : State Conn Addr) (d : Conn) : Prop :=
  d ∈ s.waiting ∧ (t.handler d).j = (s.handler d).j

omit [DecidableEq Addr] in
theorem unmoved_of_update {s t : State Conn Addr} (c : Conn) {g : Handler}
    (handler : t.handler = Function.update s.handler c g)
    (waits : ∀ d ∈ t.waiting, d ∈ s.waiting) (own : c ∈ t.waiting → g.j = (s.handler c).j) :
    ∀ d ∈ t.waiting, Unmoved s t d := by
  intro d mem
  refine ⟨waits d mem, ?_⟩
  rw [handler]
  by_cases same : d = c
  · subst same
    rw [Function.update_self]
    exact own mem
  · rw [Function.update_of_ne same]

omit [DecidableEq Addr] in
theorem unmoved_of_ne {s t : State Conn Addr} (c : Conn) {g : Handler}
    (handler : t.handler = Function.update s.handler c g)
    (waits : ∀ d ∈ t.waiting, d ≠ c → d ∈ s.waiting) :
    ∀ d ∈ t.waiting, d ≠ c → Unmoved s t d := by
  intro d mem other
  refine ⟨waits d mem other, ?_⟩
  rw [handler, Function.update_of_ne other]

/-- **Whom a poll tells what.** -/
theorem poll_tells {addr : Conn → Addr} {s : State Conn Addr} (hs : Covered addr s) {c : Conn}
    (place : (s.handler c).place = .entering) :
    (tells addr s (.poll c) = none ∧
        ∀ d ∈ (pollStep addr s c).waiting, Unmoved s (pollStep addr s c) d) ∨
      ∃ m, tells addr s (.poll c) = some (c, m) ∧ Receives s (pollStep addr s c) c m ∧
        ∀ d ∈ (pollStep addr s c).waiting, d ≠ c → Unmoved s (pollStep addr s c) d := by
  have waits := hs.consistent.mem_waiting place
  have sends : ∀ j, (pollStep addr s c).sent = s.sent ++ [(c, j)] →
      tells addr s (.poll c) =
        (position j).map fun p => (c, ⟨p, (waitingBefore s c).length⟩) := by
    intro j sent
    have message : pollMessage addr s c = some j := by
      rw [pollMessage, sent, List.drop_left]
      rfl
    rw [tells, message]
    rfl
  have admits : ∀ j, (pollStep addr s c).sent = s.sent ++ [(c, duplicateFalse j)] →
      tells addr s (.poll c) = none := by
    intro j sent
    rw [sends _ sent, duplicateFalse_eq, position_notDuplicate, Option.map_none]
  have outcome := pollStep_cases addr s c
  generalize pollStep addr s c = t at outcome sends admits ⊢
  cases outcome with
  | enqueued full newcomer =>
      have notWaiting := hs.consistent.not_mem_waiting place newcomer
      refine Or.inr ⟨_, sends _ rfl, ⟨?_, ?_, rfl, ?_, Or.inr ?_⟩, ?_⟩
      · exact List.mem_append_right s.waiting (List.mem_singleton_self c)
      · simp [State.answer]
      · exact takeWhile_append_self notWaiting
      · exact .inr (.inr ⟨place, newcomer⟩)
      · exact unmoved_of_ne c rfl fun d mem other => (mem_append_singleton_of_ne other _).mp mem
  | reported full waiter =>
      have waits := waits.mpr waiter
      refine Or.inr ⟨_, sends _ rfl, ⟨waits, ?_, rfl, rfl, Or.inl waits⟩, ?_⟩
      · simp [State.answer]
      · exact unmoved_of_ne c rfl fun d mem _ => mem
  | fromQueue free waiter rest front =>
      refine Or.inl ⟨admits _ rfl, ?_⟩
      refine unmoved_of_update c rfl (fun d mem => List.mem_of_mem_erase mem) fun mem => ?_
      exact absurd mem hs.consistent.waiting_nodup.not_mem_erase
  | blocked free waiter front_ip rest front other =>
      obtain ⟨p, -, told⟩ := hs.told c (waits.mpr waiter)
      have again := sends (s.handler c).j rfl
      rw [told] at again
      refine Or.inr ⟨_, again, ⟨waits.mpr waiter, ?_, rfl, rfl, Or.inl (waits.mpr waiter)⟩, ?_⟩
      · simpa [State.answer] using told
      · exact unmoved_of_ne c rfl fun d mem _ => mem
  | newcomer free newcomer =>
      refine Or.inl ⟨admits _ rfl, unmoved_of_update c rfl (fun d mem => mem) fun mem => ?_⟩
      exact absurd mem (hs.consistent.not_mem_waiting place newcomer)
  | undefined free waiter empty => exact absurd empty (hs.queue_ne_nil (waits.mpr waiter))

/-- **Whom a step tells what**; the other waiters are not affected, neither in what they
have been told nor in who is ahead of them. -/
theorem step_tells {addr : Conn → Addr} {s t : State Conn Addr} {e : Event Conn}
    (hs : Covered addr s) (h : step addr s e = some t) :
    (tells addr s e = none ∧ ∀ d ∈ t.waiting, Unmoved s t d) ∨
      ∃ c m, tells addr s e = some (c, m) ∧ Receives s t c m ∧
        ∀ d ∈ t.waiting, d ≠ c → Unmoved s t d := by
  cases step_cases h with
  | polled c place t outcome =>
      have result : some (pollStep addr s c) = some t := by
        rw [← h]
        exact (if_pos place).symm
      obtain rfl := Option.some.inj result
      rcases poll_tells hs place with quiet | ⟨m, told, rest⟩
      · exact Or.inl quiet
      · exact Or.inr ⟨c, m, told, rest⟩
  | opened c place =>
      have notWaiting := hs.consistent.not_mem_waiting_of_outside place rfl
      exact Or.inl ⟨rfl, unmoved_of_update c rfl (fun d mem => mem) fun mem =>
        absurd mem notWaiting⟩
  | entered c | leftSecondLoop c | completed c | brokeOff c | forwarded c =>
      exact Or.inl ⟨rfl, unmoved_of_update c rfl (fun d mem => mem) fun _ => rfl⟩
  | leftFirstLoop c place status =>
      refine Or.inl ⟨rfl, unmoved_of_update c rfl (fun d mem => List.mem_of_mem_erase mem) ?_⟩
      exact fun mem => absurd mem hs.consistent.waiting_nodup.not_mem_erase
  | waited c place status =>
      have notWaiting := hs.consistent.not_mem_waiting_of_outside place rfl
      exact Or.inl ⟨rfl, unmoved_of_update c rfl (fun d mem => mem) fun mem =>
        absurd mem notWaiting⟩
  | released c place =>
      have waiting := releasedStep_waiting s c
      exact Or.inl ⟨rfl, unmoved_of_update c (releasedStep_handler s c)
        (fun d mem => waiting ▸ mem) fun _ => rfl⟩

/-! ## What everybody has heard -/

/-- Whoever waits has been told something, `j` says it again, and of those who were ahead
then nobody has been added since. -/
structure Heard (addr : Conn → Addr) (r : Reporting Conn Addr) : Prop where
  covered : Covered addr r.server
  fresh : ∀ c, MayPush (r.server.handler c) → r.told c = []
  last : ∀ c ∈ r.server.waiting, ∃ m, (r.told c).getLast? = some m ∧
    (r.server.handler c).j = queuePosition m.position ∧
    (waitingBefore r.server c).length ≤ m.ahead
  fewer : ∀ c, (r.told c).Pairwise fun m later => later.ahead ≤ m.ahead

omit [DecidableEq Addr] in
/-- Before anybody has connected. -/
theorem heard_quiet (addr : Conn → Addr) : Heard addr quiet where
  covered := covered_start addr
  fresh _ _ := rfl
  last _ mem := by cases mem
  fewer _ := .nil

/-- The last message is the one with the fewest ahead. -/
theorem le_of_getLast? {l : List Told} {m : Told}
    (fewer : l.Pairwise fun m later => later.ahead ≤ m.ahead) (last : l.getLast? = some m) :
    ∀ m' ∈ l, m.ahead ≤ m'.ahead := by
  obtain ⟨front, rfl⟩ := List.getLast?_eq_some_iff.mp last
  intro m' mem
  rcases List.mem_append.mp mem with before | same
  · exact (pairwise_append_singleton.mp fewer).2 m' before
  · rw [List.mem_singleton.mp same]

omit [DecidableEq Addr] in
/-- Nobody is told that more are ahead than before. -/
theorem Heard.ahead_le {addr : Conn → Addr} {r : Reporting Conn Addr} (h : Heard addr r)
    {t : State Conn Addr} {c : Conn} {m : Told} (receives : Receives r.server t c m) :
    ∀ m' ∈ r.told c, m.ahead ≤ m'.ahead := by
  intro m' mem
  rcases receives.before with waits | may
  · obtain ⟨latest, last, -, ahead⟩ := h.last c waits
    rw [receives.ahead]
    exact ahead.trans (le_of_getLast? (h.fewer c) last m' mem)
  · rw [h.fresh c may] at mem
    cases mem

omit [DecidableEq Addr] in
theorem Heard.unmoved {addr : Conn → Addr} {r : Reporting Conn Addr} (h : Heard addr r)
    {t : State Conn Addr} (moves : WaitingMoves r.server.waiting t.waiting) {d : Conn}
    (still : d ∈ t.waiting) (unmoved : Unmoved r.server t d) :
    ∃ m, (r.told d).getLast? = some m ∧ (t.handler d).j = queuePosition m.position ∧
      (waitingBefore t d).length ≤ m.ahead := by
  obtain ⟨waits, same⟩ := unmoved
  obtain ⟨m, last, j, ahead⟩ := h.last d waits
  have nodup := h.covered.consistent.waiting_nodup
  exact ⟨m, last, same.trans j, (moves.length_le nodup waits still).trans ahead⟩

theorem reporting_step {addr : Conn → Addr} {r r' : Reporting Conn Addr} {e : Event Conn}
    (h : (reporting addr).step r e = some r') :
    step addr r.server e = some r'.server ∧
      r' = { server := r'.server, told := hear r.told (tells addr r.server e) } := by
  obtain ⟨t, next, rest⟩ := Option.bind_eq_some_iff.mp h
  obtain rfl := Option.some.inj rest
  exact ⟨next, rfl⟩

/-- **`Heard` is a step invariant.** -/
theorem Heard.step {addr : Conn → Addr} {r r' : Reporting Conn Addr} {e : Event Conn}
    (h : Heard addr r) (next : (reporting addr).step r e = some r') : Heard addr r' := by
  obtain ⟨server, whole⟩ := reporting_step next
  have covered := h.covered.step server
  have moves := step_waiting server
  generalize r'.server = t at server whole covered moves
  subst whole
  rcases step_tells h.covered server with ⟨none_told, unmoved⟩ |
    ⟨c, m, told, receives, unmoved⟩
  · rw [none_told]
    refine ⟨covered, fun d may => h.fresh d (mayPush_of_step server may), fun d still => ?_,
      h.fewer⟩
    exact h.unmoved moves still (unmoved d still)
  · rw [told]
    have own : hear r.told (some (c, m)) c = r.told c ++ [m] := Function.update_self ..
    have others : ∀ d, d ≠ c → hear r.told (some (c, m)) d = r.told d := fun d other =>
      Function.update_of_ne other ..
    refine ⟨covered, fun d may => ?_, fun d still => ?_, fun d => ?_⟩
    · have other : d ≠ c := by
        rintro rfl
        exact covered.consistent.not_mayPush receives.waits may
      dsimp only
      rw [others d other]
      exact h.fresh d (mayPush_of_step server may)
    · dsimp only at still ⊢
      by_cases same : d = c
      · subst same
        rw [own]
        refine ⟨m, List.getLast?_concat, receives.j, ?_⟩
        rw [receives.kept, receives.ahead]
      · rw [others d same]
        exact h.unmoved moves still (unmoved d still same)
    · dsimp only
      by_cases same : d = c
      · subst same
        rw [own, pairwise_append_singleton]
        exact ⟨h.fewer d, h.ahead_le receives⟩
      · rw [others d same]
        exact h.fewer d

/-! ## The exact condition -/

omit [DecidableEq Addr] in
/-- With the messages so far true, one more keeps them true if it is true itself. -/
theorem Truthful.hear_iff {addr : Conn → Addr} {r : Reporting Conn Addr} (h : Heard addr r)
    (truthful : Truthful r) {t : State Conn Addr} {c : Conn} {m : Told}
    (receives : Receives r.server t c m) :
    Truthful { server := t, told := hear r.told (some (c, m)) } ↔ m.position = m.ahead + 1 := by
  have own : hear r.told (some (c, m)) c = r.told c ++ [m] := Function.update_self ..
  constructor
  · intro after
    refine (after c).1 m ?_
    dsimp only
    rw [own]
    exact List.mem_append_right _ (List.mem_singleton_self m)
  · intro exact_ d
    dsimp only
    by_cases same : d = c
    · subst same
      rw [own, pairwise_append_singleton]
      refine ⟨fun m' mem => ?_, (truthful d).2, fun m' mem => ?_⟩
      · rcases List.mem_append.mp mem with before | last
        · exact (truthful d).1 m' before
        · rw [List.mem_singleton.mp last]
          exact exact_
      · rw [exact_, (truthful d).1 m' mem]
        exact Nat.succ_le_succ (h.ahead_le receives m' mem)
    · have other : hear r.told (some (c, m)) d = r.told d := Function.update_of_ne same ..
      rw [other]
      exact truthful d

/-- What a poll tells a waiter is true exactly under `TellsPosition`. -/
theorem poll_exact_iff {addr : Conn → Addr} {r : Reporting Conn Addr} (h : Heard addr r)
    (entries : r.server.connection_queue = r.server.waiting.map addr)
    (truthful : Truthful r) {c : Conn} (place : (r.server.handler c).place = .entering)
    {m : Told} (told : tells addr r.server (.poll c) = some (c, m)) :
    m.position = m.ahead + 1 ↔ TellsPosition addr r (.poll c) := by
  have waits := h.covered.consistent.mem_waiting place
  have sends : ∀ j p, pollMessage addr r.server c = some j → position j = some p →
      m = ⟨p, (waitingBefore r.server c).length⟩ := by
    intro j p message carries
    rw [tells, message, Option.bind_some, carries] at told
    exact (Prod.mk.inj (Option.some.inj told)).2.symm
  dsimp only [TellsPosition]
  rcases pollMessage_cases addr r.server c with ⟨full, newcomer, sent, -⟩ |
    ⟨full, waiter, sent, -⟩ | ⟨-, -, sent⟩ | ⟨free, waiter, -, other, sent, -⟩ |
    ⟨-, waiter, empty, -⟩
  · obtain rfl := sends _ _ sent (position_queuePosition _)
    refine iff_of_true ?_ fun waiter => ?_
    · have everybody : waitingBefore r.server c = r.server.waiting :=
        takeWhile_of_not_mem (h.covered.consistent.not_mem_waiting place newcomer)
      dsimp only
      rw [everybody, entries, List.length_map]
    · rw [newcomer] at waiter
      cases waiter
  · obtain rfl := sends _ _ sent (position_queuePosition _)
    have place := idxOf_map_eq_iff addr (waits.mpr waiter)
    rw [← entries] at place
    dsimp only
    rw [Nat.succ_inj]
    refine place.trans ⟨fun alone _ => ⟨fun _ => alone, fun free => ?_⟩, fun tells => ?_⟩
    · exact absurd free (Nat.not_le.mpr full)
    · exact (tells waiter).1 full
  · rw [tells, sent, Option.bind_some, position_notDuplicate] at told
    cases told
  · obtain ⟨latest, last, j, -⟩ := h.last c (waits.mpr waiter)
    obtain rfl := sends _ latest.position sent (by rw [j, position_queuePosition])
    have mem : latest ∈ r.told c := List.mem_of_getLast? last
    dsimp only
    rw [(truthful c).1 latest mem, Nat.succ_inj, last]
    constructor
    · intro same _
      refine ⟨fun full => absurd free (Nat.not_le.mpr full), fun _ _ m is => ?_⟩
      rw [← Option.some.inj is]
      exact same
    · exact fun tells => (tells waiter).2 free other latest rfl
  · exact absurd empty (h.covered.queue_ne_nil (waits.mpr waiter))

/-- Who is told no position is admitted. -/
theorem tellsPosition_of_none {addr : Conn → Addr} {r : Reporting Conn Addr} (h : Heard addr r)
    {c : Conn} (place : (r.server.handler c).place = .entering)
    (silent : tells addr r.server (.poll c) = none) : TellsPosition addr r (.poll c) := by
  have waits := h.covered.consistent.mem_waiting place
  rw [tells, Option.map_eq_none_iff] at silent
  intro waiter
  rcases pollMessage_cases addr r.server c with ⟨-, -, sent, -⟩ | ⟨-, -, sent, -⟩ |
    ⟨free, front, -⟩ | ⟨-, -, -, -, sent, -⟩ | ⟨-, -, empty, -⟩
  · rw [sent, Option.bind_some, position_queuePosition] at silent
    cases silent
  · rw [sent, Option.bind_some, position_queuePosition] at silent
    cases silent
  · exact ⟨fun full => absurd free (Nat.not_le.mpr full),
      fun _ other => absurd (front waiter) other⟩
  · obtain ⟨p, -, told⟩ := h.covered.told c (waits.mpr waiter)
    rw [sent, Option.bind_some, told, position_queuePosition] at silent
    cases silent
  · exact absurd empty (h.covered.queue_ne_nil (waits.mpr waiter))

/-- **The step lemma.**  From an intact queue and true messages a step leads to true
messages if and only if it meets `TellsPosition`. -/
theorem truthful_step_iff {addr : Conn → Addr} {r r' : Reporting Conn Addr} {e : Event Conn}
    (h : Heard addr r) (entries : r.server.connection_queue = r.server.waiting.map addr)
    (truthful : Truthful r) (next : (reporting addr).step r e = some r') :
    Truthful r' ↔ TellsPosition addr r e := by
  obtain ⟨server, whole⟩ := reporting_step next
  generalize r'.server = t at server whole
  subst whole
  cases e with
  | poll c =>
      have place : (r.server.handler c).place = .entering := (guarded_eq_some server).1
      rcases step_tells h.covered server with ⟨silent, -⟩ | ⟨d, m, told, receives, -⟩
      · rw [silent]
        exact iff_of_true truthful (tellsPosition_of_none h place silent)
      · have recipient : d = c := by
          obtain ⟨p, -, pair⟩ := Option.map_eq_some_iff.mp told
          exact (Prod.mk.inj pair).1.symm
        subst recipient
        rw [told, truthful.hear_iff h receives]
        exact poll_exact_iff h entries truthful place told
  | opened | test | completed | woken | released => exact iff_of_true truthful trivial

/-- **The Queue Position.**  On every run that keeps the queue intact, all positions are 1
plus the number of connections that have been waiting longer, and never increase, if and
only if every step meets `TellsPosition`. -/
theorem truthful_iff_tellsPosition (addr : Conn → Addr) (es : List (Event Conn))
    (intact : (reporting addr).Along (KeepsIntact addr) quiet es) :
    (reporting addr).Throughout Truthful quiet es ↔
      (reporting addr).Along (TellsPosition addr) quiet es := by
  refine (reporting addr).throughout_iff_along_of_along
    (fun r => Heard addr r ∧ QueueIntact addr r.server) ?_ ?_
    ⟨heard_quiet addr, consistent_start.queueIntact_iff.mpr rfl⟩ ?_ intact
  · rintro r e r' ⟨heard, queue⟩ keeps truthful next -
    have server := (reporting_step next).1
    exact ⟨heard.step next,
      (queueIntact_step_iff heard.covered.consistent queue server).mpr keeps⟩
  · rintro r e r' ⟨heard, queue⟩ - truthful next
    exact truthful_step_iff heard queue.entries truthful next
  · exact fun c => ⟨fun m mem => (List.not_mem_nil mem).elim, .nil⟩

instance (addr : Conn → Addr) (r : Reporting Conn Addr) :
    ∀ e, Decidable (KeepsIntact addr r e)
  | .test c => inferInstanceAs (Decidable (¬ ((r.server.handler c).place = .polling ∧
      (r.server.handler c).status_ ≠ 1 ∧ (r.server.handler c).queued = true)))
  | .poll c => inferInstanceAs (Decidable (r.server.socket_counter ≤ 21 →
      (r.server.handler c).queued = true →
        r.server.connection_queue.head? = some (addr c) →
          ∀ d ∈ waitingBefore r.server c, addr d = addr c))
  | .opened _ | .completed _ _ | .woken _ _ | .released _ => isTrue trivial

instance (addr : Conn → Addr) (r : Reporting Conn Addr) :
    ∀ e, Decidable (TellsPosition addr r e)
  | .poll c => inferInstanceAs (Decidable ((r.server.handler c).queued = true →
      (21 < r.server.socket_counter → ∀ d ∈ waitingBefore r.server c, addr d ≠ addr c) ∧
        (r.server.socket_counter ≤ 21 →
          r.server.connection_queue.head? ≠ some (addr c) →
            ∀ m ∈ (r.told c).getLast?, m.ahead = (waitingBefore r.server c).length)))
  | .opened _ | .test _ | .completed _ _ | .woken _ _ | .released _ => isTrue trivial

/-- The first of two waiters is admitted and the second moves up. -/
def movesUp : List (Event ℕ) :=
  fillPlaces ++ arrive 22 ++ arrive 23 ++ disconnect 0 ++ [.test 22, .poll 22, .test 23, .poll 23]

/-- All that it is told is true, and its positions decrease. -/
theorem truthful_movesUp :
    (reporting (id : ℕ → ℕ)).Along (KeepsIntact id) quiet movesUp ∧
      (reporting (id : ℕ → ℕ)).Throughout Truthful quiet movesUp :=
  have intact : (reporting (id : ℕ → ℕ)).Along (KeepsIntact id) quiet movesUp := by
    decide +kernel
  ⟨intact, (truthful_iff_tellsPosition id movesUp intact).mpr (by decide +kernel)⟩

/-- The third waiter is told position 3 again when one connection is ahead of it, because
a place is free for the one at the front. -/
theorem not_truthful_staleRun :
    ¬ (reporting (id : ℕ → ℕ)).Throughout Truthful quiet staleRun := by
  intro truthful
  have told : ((reporting (id : ℕ → ℕ)).run quiet staleRun).map (fun r => r.told 24) =
      some [⟨3, 2⟩, ⟨3, 1⟩] := by
    decide +kernel
  obtain ⟨r, run, messages⟩ := Option.map_eq_some_iff.mp told
  have wrong := ((truthful.last _ run) 24).1 ⟨3, 1⟩ (by rw [messages]; decide)
  cases wrong

end Admission

end MyServer

end SpectrogramServers
