import Mathlib.Order.Bounds.Basic
import SpectrogramServers.CloudServer.Schedule

/-!
# Which slot a capture thread takes

A thread should take the earliest of its slots that is not over yet, `nextSlot`.  Of
the five cases of the code only one looks at where the slots of the thread lie; the
others decide by fixed seconds, and so can take a slot that has passed or leave one out.

## Seconds and nanoseconds

The code reads the clock in nanoseconds and decides by the whole second, `to_time_t`.

* **On the clock of whole seconds** `isLeast_scheduleTime_iff` says at which moments the
  schedule is right (`MeetsSlot`).
* **On the clock itself** a slot that has begun within the present second is over as well,
  so that the first slot ahead is that of the second rounded up
  (`isLeast_slotsFromNow_iff`).  The moments at which the schedule is right are given by
  the same bounds, read as nanoseconds (`MeetsSlotNow`), but for the one case that looks at
  a slot: it compares the whole second with it, and is wrong for the rest of that second.
-/

namespace SpectrogramServers.CloudServer.Schedule

universe u

/-- The slots of thread `i` that are not before `t`. -/
def slotsFrom (zone : ℤ) (i : Fin 10) (t : ℤ) : Set ℤ := {x | IsSlot zone i x ∧ t ≤ x}

/-- The first of them. -/
def nextSlot (zone : ℤ) (i : Fin 10) (t : ℤ) : ℤ :=
  if second zone t ≤ i * 2 then minuteStart zone t + i * 2
  else if second zone t ≤ 20 + i * 2 then minuteStart zone t + (20 + i * 2)
  else if second zone t ≤ 40 + i * 2 then minuteStart zone t + (40 + i * 2)
  else minuteStart zone t + 60 + i * 2

theorem isLeast_nextSlot (zone : ℤ) (i : Fin 10) (t : ℤ) :
    IsLeast (slotsFrom zone i t) (nextSlot zone i t) := by
  have bound := i.isLt
  constructor
  · unfold slotsFrom nextSlot IsSlot minuteStart second
    show _ ∧ _
    split_ifs <;> omega
  · rintro x ⟨slot, ahead⟩
    unfold IsSlot second at slot
    unfold nextSlot minuteStart second
    split_ifs <;> omega

/-- The moments at which the case of the code is the case of the slots: before the first
slot of the minute in the first ten seconds, past it in the next twenty, between the
second and the third in the next twenty, and past the last in the last ten, unless the
hour ends with them. -/
def MeetsSlot (zone : ℤ) (i : Fin 10) (t : ℤ) : Prop :=
  (second zone t < 10 ∧ second zone t ≤ i * 2) ∨
    (10 ≤ second zone t ∧ second zone t < 30 ∧ i * 2 < second zone t) ∨
    (30 ≤ second zone t ∧ second zone t < 50 ∧ 20 + i * 2 < second zone t ∧
      second zone t ≤ 40 + i * 2) ∨
    (50 ≤ second zone t ∧ 40 + i * 2 < second zone t ∧ ¬ LastTenSeconds zone t)

instance (zone : ℤ) (i : Fin 10) (t : ℤ) : Decidable (MeetsSlot zone i t) :=
  inferInstanceAs (Decidable (_ ∨ _ ∨ _ ∨ _))

theorem scheduleTime_eq_nextSlot_iff (zone : ℤ) (i : Fin 10) (t : ℤ) :
    scheduleTime zone i t = nextSlot zone i t ↔ MeetsSlot zone i t := by
  have bound := i.isLt
  unfold MeetsSlot nextSlot
  rcases scheduleTime_cases zone i t with ⟨late, e⟩ | ⟨last, early, e⟩ | ⟨lo, hi, e⟩ |
    ⟨hi, e⟩ | ⟨lo, hi, past, e⟩ | ⟨lo, hi, ahead, e⟩
  · rw [e]
    unfold LastTenSeconds hourStart minuteStart second at *
    split_ifs <;> omega
  all_goals
    rw [e]
    unfold LastTenSeconds minuteStart second at *
    split_ifs <;> omega

/-- The schedule is the earliest slot ahead exactly at these moments. -/
theorem isLeast_scheduleTime_iff (zone : ℤ) (i : Fin 10) (t : ℤ) :
    IsLeast (slotsFrom zone i t) (scheduleTime zone i t) ↔ MeetsSlot zone i t := by
  rw [← scheduleTime_eq_nextSlot_iff]
  constructor
  · exact fun least => least.unique (isLeast_nextSlot zone i t)
  · intro same
    rw [same]
    exact isLeast_nextSlot zone i t

/-! ## The clock in nanoseconds -/

/-- The slots of thread `i` that are not before the moment `now` of the clock. -/
def slotsFromNow (zone : ℤ) (i : Fin 10) (now : ℤ) : Set ℤ :=
  {x | ∃ slot, IsSlot zone i slot ∧ x = second_ns * slot ∧ now ≤ x}

/-- The nanoseconds since the local minute has begun. -/
def nanosecond (zone now : ℤ) : ℤ := (now + second_ns * (60 * zone)) % (60 * second_ns)

/-- The second that `now` lies in, rounded up. -/
def ceilSecond (now : ℤ) : ℤ := to_time_t (now + second_ns - 1)

/-- `MeetsSlot`, read in nanoseconds.  In the twenty seconds in which the code compares the
whole second with the second slot, it takes that slot when it has already begun. -/
def MeetsSlotNow (zone : ℤ) (i : Fin 10) (now : ℤ) : Prop :=
  (nanosecond zone now < second_ns * 10 ∧ nanosecond zone now ≤ second_ns * (i * 2)) ∨
    (second_ns * 10 ≤ nanosecond zone now ∧ nanosecond zone now < second_ns * 30 ∧
      second_ns * (i * 2) < nanosecond zone now ∧
      ¬ (second_ns * (20 + i * 2) < nanosecond zone now ∧
        nanosecond zone now < second_ns * (21 + i * 2))) ∨
    (second_ns * 30 ≤ nanosecond zone now ∧ nanosecond zone now < second_ns * 50 ∧
      second_ns * (20 + i * 2) < nanosecond zone now ∧
      nanosecond zone now ≤ second_ns * (40 + i * 2)) ∨
    (second_ns * 50 ≤ nanosecond zone now ∧ second_ns * (40 + i * 2) < nanosecond zone now ∧
      ¬ LastTenSeconds zone (to_time_t now))

/-- A whole second is not before `now` if it is not before the second rounded up. -/
theorem le_second_ns_mul_iff (now x : ℤ) : now ≤ second_ns * x ↔ ceilSecond now ≤ x := by
  unfold ceilSecond to_time_t second_ns
  omega

/-- The slots ahead are those ahead of the second rounded up. -/
theorem isLeast_slotsFromNow_iff (zone : ℤ) (i : Fin 10) (now x : ℤ) :
    IsLeast (slotsFromNow zone i now) (second_ns * x) ↔
      IsLeast (slotsFrom zone i (ceilSecond now)) x := by
  have cancel : ∀ {a b : ℤ}, second_ns * a ≤ second_ns * b ↔ a ≤ b :=
    Int.mul_le_mul_left (by decide)
  constructor
  · rintro ⟨⟨slot, isSlot, same, ahead⟩, least⟩
    obtain rfl := Int.eq_of_mul_eq_mul_left (by decide) same
    refine ⟨⟨isSlot, (le_second_ns_mul_iff now x).mp ahead⟩, ?_⟩
    rintro y ⟨isSlot', ahead'⟩
    exact cancel.mp (least ⟨y, isSlot', rfl, (le_second_ns_mul_iff now y).mpr ahead'⟩)
  · rintro ⟨⟨isSlot, ahead⟩, least⟩
    refine ⟨⟨x, isSlot, rfl, (le_second_ns_mul_iff now x).mpr ahead⟩, ?_⟩
    rintro _ ⟨y, isSlot', rfl, ahead'⟩
    exact cancel.mpr (least ⟨isSlot', (le_second_ns_mul_iff now y).mp ahead'⟩)

/-- The second and the nanoseconds of it. -/
theorem nanosecond_eq (zone now : ℤ) :
    nanosecond zone now = second_ns * second zone (to_time_t now) + now % second_ns := by
  unfold nanosecond second to_time_t second_ns
  omega

/-- Rounding up goes to the next second, except at its beginning. -/
theorem ceilSecond_cases (now : ℤ) :
    (now % second_ns = 0 ∧ ceilSecond now = to_time_t now) ∨
      (0 < now % second_ns ∧ ceilSecond now = to_time_t now + 1) := by
  unfold ceilSecond to_time_t second_ns
  omega

/-- At the beginning of a second both clocks agree. -/
theorem meetsSlotNow_of_whole {zone : ℤ} {i : Fin 10} {now : ℤ} (whole : now % second_ns = 0) :
    MeetsSlotNow zone i now ↔ MeetsSlot zone i (to_time_t now) := by
  have position := nanosecond_eq zone now
  unfold MeetsSlotNow MeetsSlot
  rw [position, whole]
  unfold second_ns LastTenSeconds
  omega

/-- Within a second, the slot that begins with it has passed. -/
theorem scheduleTime_eq_next_iff {zone : ℤ} {i : Fin 10} {now : ℤ}
    (within : 0 < now % second_ns) :
    scheduleTime zone i (to_time_t now) = nextSlot zone i (to_time_t now + 1) ↔
      MeetsSlotNow zone i now := by
  have bound := i.isLt
  have position := nanosecond_eq zone now
  have below : now % second_ns < second_ns := Int.emod_lt_of_pos now (by decide)
  unfold MeetsSlotNow nextSlot
  rw [position]
  generalize now % second_ns = r at within below ⊢
  generalize to_time_t now = t
  unfold second_ns at *
  rcases scheduleTime_cases zone i t with ⟨late, e⟩ | ⟨last, early, e⟩ | ⟨lo, hi, e⟩ |
    ⟨hi, e⟩ | ⟨lo, hi, past, e⟩ | ⟨lo, hi, ahead, e⟩
  · rw [e]
    unfold LastTenSeconds hourStart minuteStart second at *
    split_ifs <;> omega
  all_goals
    rw [e]
    unfold LastTenSeconds minuteStart second at *
    split_ifs <;> omega

/-- The schedule is the earliest slot ahead of the clock exactly at these moments. -/
theorem isLeast_scheduleTime_now_iff (zone : ℤ) (i : Fin 10) (now : ℤ) :
    IsLeast (slotsFromNow zone i now) (second_ns * scheduleTime zone i (to_time_t now)) ↔
      MeetsSlotNow zone i now := by
  rw [isLeast_slotsFromNow_iff]
  rcases ceilSecond_cases now with ⟨whole, same⟩ | ⟨within, next⟩
  · rw [same, meetsSlotNow_of_whole whole]
    exact isLeast_scheduleTime_iff zone i _
  · rw [next, ← scheduleTime_eq_next_iff within]
    constructor
    · exact fun least => least.unique (isLeast_nextSlot zone i _)
    · intro same
      rw [same]
      exact isLeast_nextSlot zone i _

/-! ## Cycles and runs -/

/-- The schedule that a cycle sleeps until and announces. -/
def TakesEarliest (zone : ℤ) (i : Fin 10) {σ : Type u} (c : Cycle σ) : Prop :=
  IsLeast (slotsFrom zone i (to_time_t c.now)) (c.scheduled zone i).scheduleTime

/-- The same on the clock. -/
def TakesEarliestNow (zone : ℤ) (i : Fin 10) {σ : Type u} (c : Cycle σ) : Prop :=
  IsLeast (slotsFromNow zone i c.now) (second_ns * (c.scheduled zone i).scheduleTime)

/-- **The earliest slot ahead is taken exactly where the cases of the code meet the
slots.**

* At every second, the schedule is the earliest slot that is not before it exactly if
  `MeetsSlot` holds;
* at every moment of the clock, exactly if `MeetsSlotNow` does;
* and in every run all cycles take the earliest slot, of the second or of the moment,
  exactly if the same holds of the moments at which they read the clock. -/
theorem takesEarliest_iff {σ : Type u} (tools : Capture.Tools σ) (zone : ℤ) (i : Fin 10) :
    (∀ t, IsLeast (slotsFrom zone i t) (scheduleTime zone i t) ↔ MeetsSlot zone i t) ∧
      (∀ now, IsLeast (slotsFromNow zone i now)
          (second_ns * scheduleTime zone i (to_time_t now)) ↔ MeetsSlotNow zone i now) ∧
      ∀ (s : State σ) (cycles : List (Cycle σ)),
        ((timedCapture tools zone i).Along (fun _ c => TakesEarliest zone i c) s cycles ↔
          (timedCapture tools zone i).Along (fun _ c => MeetsSlot zone i (to_time_t c.now))
            s cycles) ∧
        ((timedCapture tools zone i).Along (fun _ c => TakesEarliestNow zone i c) s cycles ↔
          (timedCapture tools zone i).Along (fun _ c => MeetsSlotNow zone i c.now) s cycles) := by
  refine ⟨isLeast_scheduleTime_iff zone i, isLeast_scheduleTime_now_iff zone i,
    fun s cycles => ⟨?_, ?_⟩⟩
  · refine (timedCapture tools zone i).along_congr fun s c t _ => ?_
    exact isLeast_scheduleTime_iff zone i (to_time_t c.now)
  · refine (timedCapture tools zone i).along_congr fun s c t _ => ?_
    exact isLeast_scheduleTime_now_iff zone i c.now

/-- Thread 9 leaves out second 58 when it looks at the clock at second 52, thread 0 is
given second 0 at second 5, and at the end of the hour the hour before. -/
theorem not_isLeast_scheduleTime :
    ¬ IsLeast (slotsFrom 0 9 52) (scheduleTime 0 9 52) ∧
      ¬ IsLeast (slotsFrom 0 0 5) (scheduleTime 0 0 5) ∧
      ¬ IsLeast (slotsFrom 0 0 3595) (scheduleTime 0 0 3595) := by
  rw [isLeast_scheduleTime_iff, isLeast_scheduleTime_iff, isLeast_scheduleTime_iff]
  decide

end SpectrogramServers.CloudServer.Schedule
