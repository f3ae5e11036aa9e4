import SpectrogramServers.CloudServer.Freshness

/-!
# The schedule of a capture thread

Before every cycle capture thread `i` edits the minute and second of the local time and
has `mktime` turn the result into `scheduleTime`, the moment it sleeps until and the Image
Time it announces.  The edited seconds are `2 * i`, `20 + 2 * i` and `40 + 2 * i`, the
slots of the thread.

## What the edit does

Local time is `zone` whole minutes ahead of the clock.  The code touches neither the hour
nor the date, so a date is the number of its day.  There are four cases, by the second of
the present moment (`scheduleTime_cases`).

The load-bearing fact is the reduction modulo 60 in the first case, which is not carried
into the hour: in the last ten seconds of an hour the schedule is the thread's first slot
of the hour that is ending, which is almost an hour ago.  At all other moments the
schedule is past a slot exactly when the moment is past the slot's end
(`lt_scheduleTime_iff`).

## Image Times

Whether the Image Times of a thread increase is then a question of when its cycles begin.
`InOrder` asks of a cycle that gets as far as the announcement that it computes its
schedule after the slots of all images announced so far are over, and in the last ten
seconds of an hour before any image of that hour; `increasing_iff_inOrder` is the
equivalence over runs.  Nothing is assumed about delays but that the moments of a cycle
come in order (`Cycle.Timely`).

A recording that is not cut short by a signal takes at least eleven seconds, and a slot
ten.  So of the two conditions only the one about the last ten seconds of an hour is left
where no signals are sent (`increasing_of_undisturbed`).
-/

namespace SpectrogramServers.CloudServer.Schedule

open Capture Scanlines

universe u

/-! ## Local time -/

/-- `struct tm`, with the day for the year, month and day of the month. -/
structure Tm where
  tm_day : ℤ
  tm_hour : ℤ
  tm_min : ℤ
  tm_sec : ℤ
  deriving DecidableEq

/-- `localtime_r`. -/
def localtime_r (zone t : ℤ) : Tm where
  tm_day := (t + 60 * zone) / 86400
  tm_hour := (t + 60 * zone) / 3600 % 24
  tm_min := (t + 60 * zone) / 60 % 60
  tm_sec := (t + 60 * zone) % 60

/-- `mktime`. -/
def mktime (zone : ℤ) (tm : Tm) : ℤ :=
  86400 * tm.tm_day + 3600 * tm.tm_hour + 60 * tm.tm_min + tm.tm_sec - 60 * zone

/-- The five cases. -/
def Tm.edit (tm : Tm) (i : Fin 10) : Tm :=
  if 50 ≤ tm.tm_sec then { tm with tm_min := (tm.tm_min + 1) % 60, tm_sec := i * 2 }
  else if 30 ≤ tm.tm_sec then { tm with tm_sec := 40 + i * 2 }
  else if tm.tm_sec < 10 then { tm with tm_sec := i * 2 }
  else if 20 + i * 2 < tm.tm_sec then { tm with tm_sec := 40 + i * 2 }
  else { tm with tm_sec := 20 + i * 2 }

/-- The schedule that thread `i` computes from `nowTime`. -/
def scheduleTime (zone : ℤ) (i : Fin 10) (nowTime : ℤ) : ℤ :=
  mktime zone ((localtime_r zone nowTime).edit i)

/-- `localtime_r` and `mktime` are inverse. -/
theorem mktime_localtime_r (zone t : ℤ) : mktime zone (localtime_r zone t) = t := by
  show 86400 * ((t + 60 * zone) / 86400) + 3600 * ((t + 60 * zone) / 3600 % 24) +
    60 * ((t + 60 * zone) / 60 % 60) + (t + 60 * zone) % 60 - 60 * zone = t
  omega

/-! ## Slots -/

/-- The second of the local time. -/
def second (zone t : ℤ) : ℤ := (t + 60 * zone) % 60

/-- The beginning of the minute. -/
def minuteStart (zone t : ℤ) : ℤ := t - second zone t

/-- The beginning of the hour. -/
def hourStart (zone t : ℤ) : ℤ := t - (t + 60 * zone) % 3600

/-- The last ten seconds of an hour. -/
def LastTenSeconds (zone t : ℤ) : Prop := 3590 ≤ (t + 60 * zone) % 3600

instance (zone t : ℤ) : Decidable (LastTenSeconds zone t) :=
  inferInstanceAs (Decidable (3590 ≤ _))

/-- A slot of thread `i`. -/
def IsSlot (zone : ℤ) (i : Fin 10) (x : ℤ) : Prop :=
  second zone x = i * 2 ∨ second zone x = 20 + i * 2 ∨ second zone x = 40 + i * 2

/-- The first moment that is not given the slot `x` any more. -/
def slotEnd (zone x : ℤ) : ℤ :=
  if second zone x < 20 then minuteStart zone x + 10
  else if second zone x < 40 then min (x + 1) (minuteStart zone x + 30)
  else minuteStart zone x + 50

/-- **The five cases**, the first of them split by whether the hour changes. -/
theorem scheduleTime_cases (zone : ℤ) (i : Fin 10) (t : ℤ) :
    (LastTenSeconds zone t ∧ scheduleTime zone i t = hourStart zone t + i * 2) ∨
    (50 ≤ second zone t ∧ ¬ LastTenSeconds zone t ∧
      scheduleTime zone i t = minuteStart zone t + 60 + i * 2) ∨
    (30 ≤ second zone t ∧ second zone t < 50 ∧
      scheduleTime zone i t = minuteStart zone t + (40 + i * 2)) ∨
    (second zone t < 10 ∧ scheduleTime zone i t = minuteStart zone t + i * 2) ∨
    (10 ≤ second zone t ∧ second zone t < 30 ∧ 20 + i * 2 < second zone t ∧
      scheduleTime zone i t = minuteStart zone t + (40 + i * 2)) ∨
    (10 ≤ second zone t ∧ second zone t < 30 ∧ second zone t ≤ 20 + i * 2 ∧
      scheduleTime zone i t = minuteStart zone t + (20 + i * 2)) := by
  have sec : (localtime_r zone t).tm_sec = second zone t := rfl
  -- a schedule that keeps the minute
  have kept : ∀ x, mktime zone { localtime_r zone t with tm_sec := x } =
      minuteStart zone t + x := by
    intro x
    have same := mktime_localtime_r zone t
    unfold mktime at same ⊢
    unfold minuteStart
    rw [sec] at same
    dsimp only
    omega
  unfold scheduleTime Tm.edit
  rw [sec]
  by_cases last : 50 ≤ second zone t
  · rw [if_pos last]
    by_cases hour : LastTenSeconds zone t
    · refine Or.inl ⟨hour, ?_⟩
      unfold mktime localtime_r hourStart
      unfold LastTenSeconds at hour
      dsimp only
      omega
    · refine Or.inr (Or.inl ⟨last, hour, ?_⟩)
      unfold second at last
      unfold mktime localtime_r minuteStart second
      unfold LastTenSeconds at hour
      dsimp only
      omega
  · rw [if_neg last]
    have early := Int.not_le.mp last
    by_cases late : 30 ≤ second zone t
    · rw [if_pos late, kept]
      exact Or.inr (Or.inr (Or.inl ⟨late, early, rfl⟩))
    · rw [if_neg late]
      have middle := Int.not_le.mp late
      by_cases first : second zone t < 10
      · rw [if_pos first, kept]
        exact Or.inr (Or.inr (Or.inr (Or.inl ⟨first, rfl⟩)))
      · rw [if_neg first]
        have ten := Int.not_lt.mp first
        by_cases beyond : 20 + i * 2 < second zone t
        · rw [if_pos beyond, kept]
          exact Or.inr (Or.inr (Or.inr (Or.inr (Or.inl ⟨ten, middle, beyond, rfl⟩))))
        · rw [if_neg beyond, kept]
          exact Or.inr (Or.inr (Or.inr (Or.inr (Or.inr ⟨ten, middle, Int.not_lt.mp beyond, rfl⟩))))

theorem second_minuteStart_add (zone t : ℤ) {k : ℤ} (lo : 0 ≤ k) (hi : k < 60) :
    second zone (minuteStart zone t + k) = k := by
  unfold minuteStart second
  omega

theorem second_hourStart_add (zone t : ℤ) {k : ℤ} (lo : 0 ≤ k) (hi : k < 60) :
    second zone (hourStart zone t + k) = k := by
  unfold hourStart second
  omega

theorem second_add_minute (zone t : ℤ) : second zone (t + 60) = second zone t := by
  unfold second
  omega

theorem scheduleTime_isSlot (zone : ℤ) (i : Fin 10) (t : ℤ) :
    IsSlot zone i (scheduleTime zone i t) := by
  have bound := i.isLt
  unfold IsSlot
  rcases scheduleTime_cases zone i t with ⟨_, e⟩ | ⟨_, _, e⟩ | ⟨_, _, e⟩ | ⟨_, e⟩ |
    ⟨_, _, _, e⟩ | ⟨_, _, _, e⟩
  · rw [e, second_hourStart_add zone t (by omega) (by omega)]
    exact Or.inl rfl
  · rw [e, Int.add_right_comm, second_add_minute,
      second_minuteStart_add zone t (by omega) (by omega)]
    exact Or.inl rfl
  · rw [e, second_minuteStart_add zone t (by omega) (by omega)]
    exact Or.inr (Or.inr rfl)
  · rw [e, second_minuteStart_add zone t (by omega) (by omega)]
    exact Or.inl rfl
  · rw [e, second_minuteStart_add zone t (by omega) (by omega)]
    exact Or.inr (Or.inr rfl)
  · rw [e, second_minuteStart_add zone t (by omega) (by omega)]
    exact Or.inr (Or.inl rfl)

/-- **In the last ten seconds of an hour** it is past what lies before the hour. -/
theorem lt_scheduleTime_iff_of_late {zone t x : ℤ} {i : Fin 10} (slot : IsSlot zone i x)
    (late : LastTenSeconds zone t) :
    x < scheduleTime zone i t ↔ x < hourStart zone t := by
  have bound := i.isLt
  unfold IsSlot second at slot
  rcases scheduleTime_cases zone i t with ⟨_, e⟩ | ⟨_, early, _⟩ | ⟨_, s, _⟩ | ⟨s, _⟩ |
    ⟨_, s, _, _⟩ | ⟨_, s, _, _⟩
  · rw [e]
    unfold hourStart
    omega
  · exact absurd late early
  all_goals
    exfalso
    unfold LastTenSeconds at late
    unfold second at s
    omega

/-- **At all other moments the slot `x` is past exactly when its end is.** -/
theorem lt_scheduleTime_iff {zone t x : ℤ} {i : Fin 10} (slot : IsSlot zone i x)
    (early : ¬ LastTenSeconds zone t) :
    x < scheduleTime zone i t ↔ slotEnd zone x ≤ t := by
  have bound := i.isLt
  unfold IsSlot at slot
  unfold slotEnd
  rcases scheduleTime_cases zone i t with ⟨late, _⟩ | ⟨_, _, e⟩ | ⟨_, _, e⟩ | ⟨_, e⟩ |
    ⟨_, _, _, e⟩ | ⟨_, _, _, e⟩
  · exact absurd late early
  all_goals
    rw [e]
    unfold minuteStart second at *
    rcases slot with s | s | s <;> split_ifs <;> omega

theorem slotEnd_le (zone x : ℤ) : slotEnd zone x ≤ x + 10 := by
  unfold slotEnd minuteStart second
  split_ifs <;> omega

/-! ## Cycles in time -/

variable {σ : Type u} (tools : Tools σ) (zone : ℤ) (i : Fin 10)

/-- The nanoseconds of a second. -/
def second_ns : ℤ := 1000000000

/-- `system_clock::to_time_t`. -/
def to_time_t (now : ℤ) : ℤ := now / second_ns

/-- One cycle: the moments, in nanoseconds of `system_clock`, at which it reads the
clock, `sleep_until` returns, `waitpid` returns and the cycle ends, and what the
environment does in it.  The schedule is not the environment's. -/
structure Cycle (σ : Type u) where
  now : ℤ
  woke : ℤ
  waited : ℤ
  finished : ℤ
  outcomes : Outcomes σ

/-- The moments come in order, `sleep_until` does not return early, and a `curl`
that ends with exit status 28 has run for at least 11 seconds. -/
def Cycle.Timely (clock : ℤ) (c : Cycle σ) : Prop :=
  clock ≤ c.now ∧ c.now ≤ c.woke ∧
    second_ns * scheduleTime zone i (to_time_t c.now) ≤ c.woke ∧ c.woke ≤ c.waited ∧
    (c.outcomes.curl = some (.exited 28) → c.woke + 11 * second_ns ≤ c.waited) ∧
    c.waited ≤ c.finished

instance (clock : ℤ) (c : Cycle σ) : Decidable (c.Timely zone i clock) :=
  inferInstanceAs (Decidable (_ ∧ _))

/-- The outcomes, with the schedule that the thread computes. -/
def Cycle.scheduled (c : Cycle σ) : Outcomes σ :=
  { c.outcomes with scheduleTime := scheduleTime zone i (to_time_t c.now) }

/-- The thread between two cycles, and the end of the last one. -/
structure State (σ : Type u) where
  clock : ℤ
  thread : Capture.State σ

def step (s : State σ) (c : Cycle σ) : Option (State σ) :=
  if c.Timely zone i s.clock then
    (Capture.step tools i s.thread (c.scheduled zone i)).bind fun thread =>
      some { clock := c.finished, thread := thread }
  else none

/-- Capture thread `i` with its clock. -/
def timedCapture : Machine (State σ) (Cycle σ) where
  init s := (capture tools i).init s.thread
  step := step tools zone i

/-- The schedules announced so far. -/
def State.published (s : State σ) : List ℤ :=
  s.thread.announcements.map fun a => a.outcomes.scheduleTime

/-- Every Image Time is later than the ones before it. -/
def Increasing (s : State σ) : Prop := s.published.Pairwise (· < ·)

/-- A cycle that gets as far as the announcement computes its schedule after the
slots of all images announced so far; in the last ten seconds of an hour, before
any image of that hour is announced. -/
def InOrder (s : State σ) (c : Cycle σ) : Prop :=
  (∃ wav, Completes tools s.thread (c.scheduled zone i) wav) → ∀ x ∈ s.published,
    if LastTenSeconds zone (to_time_t c.now) then x < hourStart zone (to_time_t c.now)
    else slotEnd zone x ≤ to_time_t c.now

/-- Every announced schedule is a slot of the thread. -/
def AllSlots (s : State σ) : Prop := ∀ x ∈ s.published, IsSlot zone i x

/-! ## One cycle -/

/-- A cycle announces its schedule or nothing. -/
theorem step_cases {s t : State σ} {c : Cycle σ} (h : step tools zone i s c = some t) :
    c.Timely zone i s.clock ∧ t.clock = c.finished ∧
      (((∃ wav, Completes tools s.thread (c.scheduled zone i) wav) ∧
          t.published = s.published ++ [scheduleTime zone i (to_time_t c.now)]) ∨
        ((¬ ∃ wav, Completes tools s.thread (c.scheduled zone i) wav) ∧
          t.published = s.published)) := by
  unfold step at h
  split at h
  case isFalse => cases h
  case isTrue timely =>
    obtain ⟨thread, next, rest⟩ := Option.bind_eq_some_iff.mp h
    cases rest
    refine ⟨timely, rfl, ?_⟩
    have body := step_eq_some tools i next
    unfold State.published
    rcases body_cases tools i s.thread (c.scheduled zone i) with
      ⟨wav, completes, announced⟩ | ⟨stopped, same⟩
    · refine Or.inl ⟨⟨wav, completes⟩, ?_⟩
      rw [body, announced]
      show List.map _ ((s.thread.flipped tools i _ _).announcements ++ [_]) = _
      rw [flipped_announcements, List.map_append]
      rfl
    · refine Or.inr ⟨fun ⟨wav, completes⟩ => stopped wav completes, ?_⟩
      rw [body]
      show List.map _ (s.thread.body tools i _).announcements = _
      rw [same]

theorem AllSlots.step {s t : State σ} {c : Cycle σ} (slots : AllSlots zone i s)
    (h : step tools zone i s c = some t) : AllSlots zone i t := by
  obtain ⟨-, -, ⟨-, published⟩ | ⟨-, published⟩⟩ := step_cases tools zone i h
  · intro x member
    rw [published] at member
    rcases List.mem_append.mp member with earlier | last
    · exact slots x earlier
    · rw [List.mem_singleton.mp last]
      exact scheduleTime_isSlot zone i _
  · intro x member
    rw [published] at member
    exact slots x member

/-- **One cycle keeps the times increasing exactly when it is in order.** -/
theorem increasing_step_iff {s t : State σ} {c : Cycle σ} (slots : AllSlots zone i s)
    (increasing : Increasing s) (h : step tools zone i s c = some t) :
    Increasing t ↔ InOrder tools zone i s c := by
  unfold Increasing InOrder
  obtain ⟨-, -, ⟨completes, published⟩ | ⟨stopped, published⟩⟩ := step_cases tools zone i h
  · rw [published, List.pairwise_append]
    constructor
    · rintro ⟨-, -, earlier⟩ - x member
      have past := earlier x member _ (List.mem_singleton_self _)
      split
      next late => exact (lt_scheduleTime_iff_of_late (slots x member) late).mp past
      next early => exact (lt_scheduleTime_iff (slots x member) early).mp past
    · intro order
      refine ⟨increasing, List.pairwise_singleton _ _, fun x member y last => ?_⟩
      rw [List.mem_singleton.mp last]
      have past := order completes x member
      split at past
      next late => exact (lt_scheduleTime_iff_of_late (slots x member) late).mpr past
      next early => exact (lt_scheduleTime_iff (slots x member) early).mpr past
  · rw [published]
    exact iff_of_true increasing fun completes => absurd completes stopped

/-! ## Runs -/

/-- **The Image Times of a thread increase exactly as long as its cycles are in order**,
over every run, with whatever delays and results of the programs. -/
theorem increasing_iff_inOrder (clock : ℤ) (mp3 wav : Option (List UInt8))
    (jpgNew jpgOld jpg : Option (Jpeg σ)) (sample_json : Json) (cycles : List (Cycle σ)) :
    (timedCapture tools zone i).Throughout Increasing
        { clock := clock, thread := start mp3 wav jpgNew jpgOld jpg sample_json } cycles ↔
      (timedCapture tools zone i).Along (InOrder tools zone i)
        { clock := clock, thread := start mp3 wav jpgNew jpgOld jpg sample_json } cycles := by
  refine (timedCapture tools zone i).throughout_iff_along (AllSlots zone i)
    (fun _ _ _ slots _ h _ => ?_) (fun _ _ _ slots increasing h => ?_) (fun x member => ?_)
    List.Pairwise.nil
  · exact slots.step tools zone i h
  · exact increasing_step_iff tools zone i slots increasing h
  · cases member

/-- A cycle that gets as far as the announcement ends with a recording that no signal
cut short, and does not compute its schedule in the last ten seconds of an hour of
which there is an image. -/
def Undisturbed (s : State σ) (c : Cycle σ) : Prop :=
  (∃ wav, Completes tools s.thread (c.scheduled zone i) wav) →
    c.outcomes.curl = some (.exited 28) ∧
      (LastTenSeconds zone (to_time_t c.now) →
        ∀ x ∈ s.published, x < hourStart zone (to_time_t c.now))

/-- The slots of all announced images are over. -/
def SlotsOver (s : State σ) : Prop := ∀ x ∈ s.published, slotEnd zone x ≤ to_time_t s.clock

theorem to_time_t_mono {m n : ℤ} (h : m ≤ n) : to_time_t m ≤ to_time_t n := by
  unfold to_time_t second_ns
  omega

theorem SlotsOver.inOrder {s : State σ} {c : Cycle σ} (slots : SlotsOver zone s)
    (timely : c.Timely zone i s.clock) (undisturbed : Undisturbed tools zone i s c) :
    InOrder tools zone i s c := by
  intro completes x member
  split
  next late => exact (undisturbed completes).2 late x member
  next => exact Int.le_trans (slots x member) (to_time_t_mono timely.1)

/-- Eleven seconds after its schedule the slot of a recording is over. -/
theorem SlotsOver.step {s t : State σ} {c : Cycle σ} (slots : SlotsOver zone s)
    (h : step tools zone i s c = some t) (undisturbed : Undisturbed tools zone i s c) :
    SlotsOver zone t := by
  obtain ⟨⟨monotone, woke, slept, waited, recorded, finished⟩, clock, announced⟩ :=
    step_cases tools zone i h
  intro x member
  rw [clock]
  have earlier : x ∈ s.published → slotEnd zone x ≤ to_time_t c.finished := fun before =>
    Int.le_trans (slots x before) (to_time_t_mono (by omega))
  rcases announced with ⟨completes, published⟩ | ⟨-, published⟩
  · rw [published] at member
    rcases List.mem_append.mp member with before | last
    · exact earlier before
    · rw [List.mem_singleton.mp last]
      have ended := slotEnd_le zone (scheduleTime zone i (to_time_t c.now))
      have length := recorded (undisturbed completes).1
      generalize scheduleTime zone i (to_time_t c.now) = schedule at ended slept ⊢
      unfold to_time_t second_ns at *
      omega
  · rw [published] at member
    exact earlier member

/-- **Without signals only the last ten seconds of an hour matter**, since a recording
that is not cut short outlasts its slot. -/
theorem increasing_of_undisturbed (clock : ℤ) (mp3 wav : Option (List UInt8))
    (jpgNew jpgOld jpg : Option (Jpeg σ)) (sample_json : Json) (cycles : List (Cycle σ))
    (undisturbed : (timedCapture tools zone i).Along (Undisturbed tools zone i)
      { clock := clock, thread := start mp3 wav jpgNew jpgOld jpg sample_json } cycles) :
    (timedCapture tools zone i).Throughout Increasing
      { clock := clock, thread := start mp3 wav jpgNew jpgOld jpg sample_json } cycles := by
  rw [increasing_iff_inOrder]
  refine (timedCapture tools zone i).along_of_along (SlotsOver zone)
    (fun s c t slots undisturbed h => ?_) (fun x member => ?_) undisturbed
  · have timely := (step_cases tools zone i h).1
    exact ⟨slots.step tools zone i h undisturbed,
      slots.inOrder tools zone i timely undisturbed⟩
  · cases member

/-! ## An hour that ends -/

/-- A cycle in which every program succeeds. -/
def recording (now woke : ℤ) : Cycle ℕ where
  now := now
  woke := woke
  waited := woke + 11 * second_ns
  finished := woke + 12 * second_ns
  outcomes :=
    { killedCurl with
      curl := some (.exited 28)
      mp3 := some leftover }

theorem completes_recording (s : Capture.State ℕ) (now woke : ℤ) :
    Completes plainTools s ((recording now woke).scheduled 0 0) ⟨s.cycle, leftover⟩ := by
  have length : leftover.length = 2000000 := by
    rw [leftover, List.length_replicate]
  have bound := firstNonzeroSample_le leftover
  refine ⟨rfl, ⟨.exited 28, rfl, rfl⟩, decoded_wav plainTools rfl rfl, ?_, ?_, ?_, ?_⟩
  · show firstNonzeroSample leftover + 1769472 ≤ leftover.length
    rw [length]
    exact (Nat.add_le_add_right bound _).trans (by omega)
  all_goals exact fun failed => by cases failed

/-- A recording is made and announced, and the thread goes on. -/
theorem step_recording (s : State ℕ) (now woke : ℤ) (running : s.thread.running = true)
    (timely : (recording now woke).Timely 0 0 s.clock) :
    ∃ t, step plainTools 0 0 s (recording now woke) = some t ∧
      t.thread.running = true ∧ t.clock = woke + 12 * second_ns ∧
      t.published = s.published ++ [scheduleTime 0 0 (to_time_t now)] := by
  have next : Capture.step plainTools 0 s.thread ((recording now woke).scheduled 0 0) =
      some { s.thread.body plainTools 0 ((recording now woke).scheduled 0 0) with
        cycle := s.thread.cycle + 1 } := if_pos running
  have taken : step plainTools 0 0 s (recording now woke) =
      some { clock := woke + 12 * second_ns
             thread := { s.thread.body plainTools 0 ((recording now woke).scheduled 0 0) with
               cycle := s.thread.cycle + 1 } } := by
    unfold step
    rw [if_pos timely, next]
    rfl
  refine ⟨_, taken, ?_, rfl, ?_⟩
  · rcases body_cases plainTools 0 s.thread ((recording now woke).scheduled 0 0) with
      ⟨wav, -, announced⟩ | ⟨stopped, -⟩
    · rw [announced]
      show (s.thread.flipped plainTools 0 _ _).running = true
      rw [flipped_running]
      exact running
    · exact absurd (completes_recording s.thread now woke) (stopped _)
  · rcases (step_cases plainTools 0 0 taken).2.2 with ⟨-, published⟩ | ⟨stopped, -⟩
    · exact published
    · exact absurd ⟨_, completes_recording s.thread now woke⟩ stopped

/-- Midnight, and ten seconds before one o'clock. -/
def lateCycles : List (Cycle ℕ) :=
  [recording 0 0, recording (3590 * second_ns) (3590 * second_ns)]

/-- Both images are announced with the time midnight. -/
theorem not_increasing_lateCycles :
    ∃ t, (timedCapture plainTools 0 0).run
        { clock := 0, thread := start none none none none none .null } lateCycles = some t ∧
      t.published = [0, 0] ∧ ¬ Increasing t := by
  obtain ⟨t, first, running, clock, published⟩ :=
    step_recording { clock := 0, thread := start none none none none none .null } 0 0 rfl
      (by decide)
  obtain ⟨u, second, -, -, later⟩ :=
    step_recording t (3590 * second_ns) (3590 * second_ns) running
      (by rw [clock]; decide)
  have both : u.published = [0, 0] := by
    rw [later, published]
    decide
  refine ⟨u, ?_, both, fun increasing => ?_⟩
  · exact Option.bind_eq_some_iff.mpr ⟨t, first, Option.bind_eq_some_iff.mpr ⟨u, second, rfl⟩⟩
  · unfold Increasing at increasing
    rw [both] at increasing
    exact absurd increasing (by decide)

end SpectrogramServers.CloudServer.Schedule
