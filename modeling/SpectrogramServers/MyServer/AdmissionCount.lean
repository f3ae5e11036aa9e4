import Mathlib.Data.List.Perm.Subperm
import SpectrogramServers.MyServer.AdmissionInvariant

/-!
# Admission accounting

`socket_counter` is meant to count the connections that have been admitted and not yet
released: it is incremented where a connection is admitted, decremented at the end of
`on_open`, and compared with the limit of 22 places.  It is a 16-bit number and knows
nothing about who is who.

## The two ends do not match

The decrement at the end of the handler is reached from every way out of the first loop,
also by a connection whose send failed while it was still waiting and that never
incremented anything.  Each such connection takes one from the count.  The next admissions
then go beyond the limit, or, from a count of 0, the counter wraps to 65535 and nobody is
admitted any more (`Lockout`).

## Exactness

`accounted_iff_releasesAdmitted` says that this is the only way to lose count: over a run
the counter is exact in every state if and only if every handler that reaches the
decrement had been admitted.  The equivalence holds for any number of connections and any
order of their steps.

One direction is an invariant: with an exact counter the limit is kept, so an increment
does not wrap and a decrement of an admitted connection finds one to take away.  The other
is that a decrement for a connection that is not in `admitted` leaves the counter one
short of its length at once.
-/

namespace SpectrogramServers

namespace MyServer

universe u v

/-- A connection that is being served: admitted according to its `status_`, or inside the
second loop, where it waits for the next picture. -/
def Handler.served (h : Handler) : Prop :=
  (h.status_ = 0 ∧ h.place ≠ .finished) ∨ h.place = .waiting

namespace Admission

variable {Conn : Type u} {Addr : Type v} [DecidableEq Conn] [DecidableEq Addr]

/-- The counter is the number of admitted, unreleased connections, and no more
than 22 connections are served. -/
structure Accounted (s : State Conn Addr) : Prop where
  exact : s.socket_counter = s.admitted.length
  le : s.socket_counter ≤ 22
  served_le : ∀ cs : List Conn, cs.Nodup → (∀ c ∈ cs, (s.handler c).served) →
    cs.length ≤ 22

/-- The decrement does not wrap a counter that is already 0. -/
def NoWrap (s : State Conn Addr) : Event Conn → Prop
  | .released _ => 0 < s.socket_counter
  | _ => True

/-- The handler that executes the decrement has been through the increment. -/
def ReleasesAdmitted (s : State Conn Addr) : Event Conn → Prop
  | .released c => c ∈ s.admitted
  | _ => True

omit [DecidableEq Conn] [DecidableEq Addr] in
theorem Consistent.mem_admitted_of_served {s : State Conn Addr} (hs : Consistent s)
    {c : Conn} (served : (s.handler c).served) : c ∈ s.admitted := by
  rcases served with ⟨zero, notFinished⟩ | waiting
  · exact (hs.handler c).of_status_zero zero notFinished
  · exact (hs.handler c).of_place_waiting waiting

omit [DecidableEq Conn] [DecidableEq Addr] in
/-- The bound on the served connections follows from the exact count. -/
theorem Consistent.accounted_iff {s : State Conn Addr} (hs : Consistent s) :
    Accounted s ↔ s.socket_counter = s.admitted.length ∧ s.socket_counter ≤ 22 := by
  constructor
  · rintro ⟨exact_, le, -⟩
    exact ⟨exact_, le⟩
  · rintro ⟨exact_, le⟩
    refine ⟨exact_, le, fun cs nodup served => ?_⟩
    have sub : cs ⊆ s.admitted := fun c mem => hs.mem_admitted_of_served (served c mem)
    have short : cs.length ≤ s.admitted.length := (nodup.subperm sub).length_le
    omega

/-- What a step other than the decrement does to the count. -/
theorem step_count {addr : Conn → Addr} {s t : State Conn Addr} {e : Event Conn}
    (h : step addr s e = some t) (notReleased : ∀ c, e ≠ .released c) :
    (t.socket_counter = s.socket_counter ∧ t.admitted = s.admitted) ∨
      ∃ c, s.socket_counter ≤ 21 ∧ t.socket_counter = s.socket_counter + 1 ∧
        t.admitted = s.admitted ++ [c] := by
  cases step_cases h with
  | polled c place t outcome =>
      cases outcome with
      | fromQueue free waiter rest front => exact .inr ⟨c, free, rfl, rfl⟩
      | newcomer free newcomer => exact .inr ⟨c, free, rfl, rfl⟩
      | enqueued | reported | blocked | undefined => exact .inl ⟨rfl, rfl⟩
  | released c place => exact absurd rfl (notReleased c)
  | opened | entered | leftFirstLoop | waited | leftSecondLoop | completed | brokeOff
  | forwarded => exact .inl ⟨rfl, rfl⟩

/-- **The step lemma.**  From an exact count, a step leads to an exact count if
and only if it does not release a connection that was never admitted. -/
theorem accounted_step_iff {addr : Conn → Addr} {s t : State Conn Addr} {e : Event Conn}
    (hs : Consistent s) (accounted : Accounted s) (h : step addr s e = some t) :
    Accounted t ↔ ReleasesAdmitted s e := by
  obtain ⟨exact_, le⟩ := hs.accounted_iff.mp accounted
  rw [(hs.step h).accounted_iff]
  cases e with
  | released c =>
      simp only [step, Option.ite_none_right_eq_some, Option.some.injEq] at h
      obtain ⟨place, rfl⟩ := h
      have counter : (releasedStep s c).socket_counter =
          (s.socket_counter + 65535) % 65536 := by unfold releasedStep; rfl
      rw [counter, releasedStep_admitted, ReleasesAdmitted]
      constructor
      · rintro ⟨still, -⟩
        by_contra never
        rw [List.erase_of_not_mem never] at still
        omega
      · intro mem
        have positive := List.length_pos_of_mem mem
        rw [List.length_erase_of_mem mem]
        omega
  | opened | test | poll | completed | woken =>
      simp only [ReleasesAdmitted, iff_true]
      obtain ⟨counter, admitted⟩ | ⟨c, free, counter, admitted⟩ :=
        step_count h (by simp)
      · rw [counter, admitted]
        exact ⟨exact_, le⟩
      · rw [counter, admitted, List.length_append, List.length_singleton]
        omega

/-- **Admission accounting.**  Over every run of the server, `socket_counter`
is the number of admitted and unreleased connections in every state, stays
within the 22 places and never wraps, if and only if every handler that
executes the final `fetch_sub` had been admitted. -/
theorem accounted_iff_releasesAdmitted (addr : Conn → Addr) (es : List (Event Conn)) :
    ((admission addr).Throughout Accounted start es ∧
        (admission addr).Along NoWrap start es) ↔
      (admission addr).Along ReleasesAdmitted start es := by
  have hstart : Consistent (start : State Conn Addr) := consistent_start
  have haccounted : Accounted (start : State Conn Addr) :=
    hstart.accounted_iff.mpr ⟨rfl, by simp [start]⟩
  have hiff : (admission addr).Throughout Accounted start es ↔
      (admission addr).Along ReleasesAdmitted start es :=
    (admission addr).throughout_iff_along Consistent (fun _ _ _ hs _ h _ => hs.step h)
      (fun _ _ _ hs hP h => accounted_step_iff hs hP h) hstart haccounted
  refine ⟨fun h => hiff.mp h.1, fun h => ⟨hiff.mpr h, ?_⟩⟩
  refine (admission addr).along_of_along (fun s => Consistent s ∧ Accounted s)
    ?_ ⟨hstart, haccounted⟩ h
  rintro s e t ⟨hs, hP⟩ released hstep
  refine ⟨⟨hs.step hstep, (accounted_step_iff hs hP hstep).mpr released⟩, ?_⟩
  cases e with
  | released c =>
      have positive : 0 < s.admitted.length := List.length_pos_of_mem released
      rwa [← hP.exact] at positive
  | opened | test | poll | completed | woken => trivial

/-- **The count is lost.**  With all places taken, a connection that queues and
then fails makes the counter 21 while 22 connections are being served. -/
theorem not_accounted_after_failed_waiter :
    ¬ (admission (id : ℕ → ℕ)).Throughout Accounted start
        (fillPlaces ++ arrive 22 ++ disconnect 22) := by
  intro h
  have counts : ((admission (id : ℕ → ℕ)).run start
      (fillPlaces ++ arrive 22 ++ disconnect 22)).map
        (fun t => (t.socket_counter, t.admitted.length)) = some (21, 22) := by
    decide
  obtain ⟨t, hrun, ht⟩ := Option.map_eq_some_iff.mp counts
  have exact_ := (h.last _ hrun).exact
  simp only [Prod.mk.injEq] at ht
  omega

end Admission

end MyServer

end SpectrogramServers
