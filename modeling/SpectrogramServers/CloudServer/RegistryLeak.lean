import SpectrogramServers.CloudServer.RegistryIntact

/-!
# Connections that end in an error

The websocket library ends a connection with `on_close` or with `on_error`, and never with
both.  `on_close` joins the notify thread and erases the entry of the connection;
`on_error` prints a line and leaves `notifyThreads` alone.  So what `on_error` ends stays
in the vector with its connection and its unjoined thread, and nothing ever removes it.

## When there is a leak

`NoLeak` is the property that nothing is left of a connection that is gone: its handler
has returned and its notify loop has ended.  While the loop of an errored connection still
runs, the entry is that of a live thread and is no leak yet; the leak begins when the
later of the two happens.  `NotAbandoned` says of a step that it is not this one.

The load-bearing fact is that an intact registry consists of exactly the entries whose
`on_close` has not returned.  The entry of a connection that `on_error` has ended is one
of them (`Inv.errored_mem`), and so there is a leak exactly if one of these has left its
loop (`Inv.noLeak_iff`).

## Two conditions

A registry that is no longer intact may have lost the very entry that would leak.  So the
result is stated on runs whose iterators are good (`UsesValid`): on these the condition is
exact, and both together are enough on all runs.  `RegistryIntact` is used as it is; the
handlers of `cloudServer` are its machine with one more event.
-/

namespace SpectrogramServers.CloudServer.RegistryLeak

open Registry

universe u

/-- The registry, and the connections whose `on_error` has returned. -/
structure State (C : Type u) where
  registry : Registry.State C
  errored : List C
  deriving DecidableEq

inductive Event (C : Type u) where
  /-- A step of the registry. -/
  | registry (e : Registry.Event C)
  /-- `on_error` of the connection `c`. -/
  | on_error (c : C)

section Steps

variable {C : Type u} [DecidableEq C] (grow : ℕ → ℕ)

/-- The library does not call `on_close` for a connection that it has ended with
`on_error`. -/
def State.refuses (s : State C) : Registry.Event C → Bool
  | .search c => c ∈ s.errored
  | _ => false

/-- `on_error` runs on a free pool thread, for a connection that has not been ended. -/
def State.errs (s : State C) (c : C) : Bool :=
  s.registry.process = .running ∧ c ∈ s.registry.opened ∧ c ∉ s.registry.closed ∧
    c ∉ s.errored ∧ s.registry.Free

def step (s : State C) : Event C → Option (State C)
  | .registry e =>
      if s.refuses e then none
      else (Registry.step grow s.registry e).map fun registry => { s with registry := registry }
  | .on_error c => if s.errs c then some { s with errored := c :: s.errored } else none

def start : State C := ⟨Registry.start, []⟩

/-- The handlers of `cloudServer` with `on_error`. -/
def closing : Machine (State C) (Event C) where
  init s := s = start
  step := step grow

end Steps

/-! ## The property and the condition -/

section Property

variable {C : Type u} [DecidableEq C]

/-- The handler that ended `c` has returned, and the notify loop of `c` has ended: no
thread has any more to do with the connection. -/
def State.Gone (s : State C) (c : C) : Prop :=
  (c ∈ s.registry.finished ∨ c ∈ s.errored) ∧ c ∉ s.registry.looping

instance (s : State C) (c : C) : Decidable (s.Gone c) := inferInstanceAs (Decidable (_ ∧ _))

/-- The connections that are open or still being closed. -/
def State.unfinished (s : State C) : List C := s.registry.opened.filter fun c => ¬ s.Gone c

/-- No entry is left of a connection that is gone, so there are no more entries than
connections open or being closed.  Without this a server that runs for long fills up. -/
structure NoLeak (s : State C) : Prop where
  gone : ∀ c, s.Gone c → c ∉ s.registry.names
  bounded : s.registry.notifyThreads.length ≤ s.unfinished.length

/-- An `on_close` uses its iterator while it is good. -/
def UsesValid (s : State C) : Event C → Prop
  | .registry e => Registry.UsesValid s.registry e
  | .on_error _ => True

instance (s : Registry.State C) : ∀ e, Decidable (Registry.UsesValid s e)
  | .join c => inferInstanceAs (Decidable (∀ handler ∈ s.handler? c, s.MayJoin handler))
  | .joined c => inferInstanceAs (Decidable (∀ handler ∈ s.handler? c, (s.at? handler).isSome))
  | .erase c => inferInstanceAs (Decidable (∀ handler ∈ s.handler? c, handler.valid = true))
  | .opened _ | .ended _ | .search _ => isTrue trivial

instance (s : State C) : ∀ e, Decidable (UsesValid s e)
  | .registry e => inferInstanceAs (Decidable (Registry.UsesValid s.registry e))
  | .on_error _ => isTrue trivial

/-- `on_error` does not end a connection whose notify loop has ended, and no notify
loop ends of a connection that `on_error` has ended. -/
def NotAbandoned (s : State C) : Event C → Prop
  | .registry (.ended c) => c ∉ s.errored
  | .registry _ => True
  | .on_error c => c ∈ s.registry.looping

instance (s : State C) : ∀ e, Decidable (NotAbandoned s e)
  | .registry (.ended c) => inferInstanceAs (Decidable (c ∉ s.errored))
  | .on_error c => inferInstanceAs (Decidable (c ∈ s.registry.looping))
  | .registry (.opened _) | .registry (.search _) | .registry (.join _)
  | .registry (.joined _) | .registry (.erase _) => isTrue trivial

end Property

/-! ## Who is open, closed and looping -/

section History

variable {C : Type u} [DecidableEq C] {grow : ℕ → ℕ}

/-- What a step of the registry does to its history and its notify threads. -/
inductive Changes (s t : Registry.State C) : Registry.Event C → Prop
  | opened (c : C) (new : c ∉ s.opened) (opened : t.opened = s.opened ++ [c])
      (closed : t.closed = s.closed) (looping : t.looping = c :: s.looping) :
      Changes s t (.opened c)
  | ended (c : C) (runs : c ∈ s.looping) (opened : t.opened = s.opened)
      (closed : t.closed = s.closed) (looping : t.looping = s.looping.erase c) :
      Changes s t (.ended c)
  | search (c : C) (opened : t.opened = s.opened) (closed : t.closed = c :: s.closed)
      (looping : t.looping = s.looping) : Changes s t (.search c)
  | join (c : C) (opened : t.opened = s.opened) (closed : t.closed = s.closed)
      (looping : t.looping = s.looping) : Changes s t (.join c)
  | joined (c : C) (opened : t.opened = s.opened) (closed : t.closed = s.closed)
      (looping : t.looping = s.looping) : Changes s t (.joined c)
  | erase (c : C) (opened : t.opened = s.opened) (closed : t.closed = s.closed)
      (looping : t.looping = s.looping) : Changes s t (.erase c)

/-- What the search, the two ends of a join and the erase leave of the history: only the
search adds a connection to those that are closed. -/
theorem search_history (s : Registry.State C) (c : C) :
    (s.search c).opened = s.opened ∧ (s.search c).closed = c :: s.closed ∧
      (s.search c).looping = s.looping := by
  unfold Registry.State.search
  split
  · exact ⟨rfl, rfl, rfl⟩
  · exact ⟨rfl, rfl, rfl⟩

omit [DecidableEq C] in
theorem push_back_closed (s : Registry.State C) (c : C) :
    (s.push_back grow c).closed = s.closed := by
  unfold Registry.State.push_back
  split_ifs
  · rfl
  · rfl

theorem join_history (s : Registry.State C) (handler : OnClose C) :
    (s.join handler).opened = s.opened ∧ (s.join handler).closed = s.closed ∧
      (s.join handler).looping = s.looping := by
  rcases join_cases s handler with ⟨-, h⟩ | ⟨entry, -, -, -, h⟩ | ⟨entry, -, -, h⟩
  · rw [h]
    exact ⟨rfl, rfl, rfl⟩
  · rw [h]
    exact ⟨rfl, rfl, rfl⟩
  · rw [h]
    exact ⟨rfl, rfl, rfl⟩

theorem returned_history (s : Registry.State C) (handler : OnClose C) :
    (s.returned handler).opened = s.opened ∧ (s.returned handler).closed = s.closed ∧
      (s.returned handler).looping = s.looping := by
  unfold Registry.State.returned
  split
  · exact ⟨rfl, rfl, rfl⟩
  · exact ⟨rfl, rfl, rfl⟩

theorem erase_history (s : Registry.State C) (handler : OnClose C) :
    (s.erase handler).opened = s.opened ∧ (s.erase handler).closed = s.closed ∧
      (s.erase handler).looping = s.looping := by
  unfold Registry.State.erase
  split
  · exact ⟨rfl, rfl, rfl⟩
  · split_ifs
    · exact ⟨rfl, rfl, rfl⟩
    · exact ⟨rfl, rfl, rfl⟩

theorem changes_of_step {s t : Registry.State C} {e : Registry.Event C}
    (h : Registry.step grow s e = some t) : Changes s t e := by
  cases step_cases h with
  | opened c new free => exact Changes.opened c new rfl (push_back_closed s c) rfl
  | ended c runs => exact Changes.ended c runs rfl rfl rfl
  | search c present new free =>
      obtain ⟨opened, closed, looping⟩ := search_history s c
      exact Changes.search c opened closed looping
  | join c handler found begins =>
      obtain ⟨opened, closed, looping⟩ := join_history s handler
      exact Changes.join c opened closed looping
  | joined c handler thread found waits ended =>
      obtain ⟨opened, closed, looping⟩ := returned_history s handler
      exact Changes.joined c opened closed looping
  | erase c handler found joined =>
      obtain ⟨opened, closed, looping⟩ := erase_history s handler
      exact Changes.erase c opened closed looping

/-- Only opened connections have a notify thread, and each has one.  It is kept by every
step, with good iterators or bad. -/
structure OneLoop (s : Registry.State C) : Prop where
  opened : ∀ c ∈ s.looping, c ∈ s.opened
  nodup : s.looping.Nodup

theorem OneLoop.step {s t : Registry.State C} {e : Registry.Event C} (one : OneLoop s)
    (changes : Changes s t e) : OneLoop t := by
  cases changes with
  | opened c new opened closed looping =>
      refine ⟨?_, ?_⟩
      · intro d runs
        rw [looping] at runs
        rw [opened, List.mem_append, List.mem_singleton]
        rcases List.mem_cons.mp runs with same | before
        · exact Or.inr same
        · exact Or.inl (one.opened d before)
      · rw [looping]
        exact List.nodup_cons.mpr ⟨fun runs => new (one.opened c runs), one.nodup⟩
  | ended c runs opened closed looping =>
      refine ⟨?_, ?_⟩
      · intro d still
        rw [looping] at still
        rw [opened]
        exact one.opened d (List.mem_of_mem_erase still)
      · rw [looping]
        exact one.nodup.erase c
  | search c opened closed looping | join c opened closed looping
  | joined c opened closed looping | erase c opened closed looping =>
      refine ⟨?_, ?_⟩
      · rw [looping, opened]
        exact one.opened
      · rw [looping]
        exact one.nodup

end History

/-! ## The invariant -/

section Invariant

variable {C : Type u} [DecidableEq C] {grow : ℕ → ℕ}

/-- The registry is intact, and what `on_error` has ended is not ended by `on_close`. -/
structure Inv (s : State C) : Prop where
  intact : Intact s.registry
  consistent : Consistent s.registry
  oneLoop : OneLoop s.registry
  opened : ∀ c ∈ s.errored, c ∈ s.registry.opened
  unclosed : ∀ c ∈ s.errored, c ∉ s.registry.closed

theorem inv_start : Inv (start : State C) := by
  refine ⟨intact_start, consistent_start, ⟨?_, List.nodup_nil⟩, ?_, ?_⟩
  · rintro c ⟨⟩
  · rintro c ⟨⟩
  · rintro c ⟨⟩

/-- **Every connection that `on_error` has ended has its entry.** -/
theorem Inv.errored_mem {s : State C} (inv : Inv s) {c : C} (errored : c ∈ s.errored) :
    c ∈ s.registry.names := by
  rw [mem_names_iff inv.intact]
  refine ⟨inv.opened c errored, ?_⟩
  intro finished
  exact inv.unclosed c errored (inv.consistent.finished c finished)

/-- Nothing leaks exactly while every connection that `on_error` has ended is still in
its notify loop. -/
theorem Inv.noLeak_iff {s : State C} (inv : Inv s) :
    NoLeak s ↔ ∀ c ∈ s.errored, c ∈ s.registry.looping := by
  constructor
  · intro noLeak c errored
    by_contra ended
    exact noLeak.gone c ⟨Or.inr errored, ended⟩ (inv.errored_mem errored)
  · intro looping
    refine ⟨?_, ?_⟩
    · rintro c ⟨finished | errored, ended⟩ entry
      · exact ((mem_names_iff inv.intact c).mp entry).2 finished
      · exact ended (looping c errored)
    · -- an entry whose `on_close` has not returned is not gone
      have entries := congrArg List.length inv.intact.2
      rw [List.length_map] at entries
      rw [entries]
      refine (List.monotone_filter_right _ ?_).length_le
      intro c unfinished
      rw [decide_eq_true_eq] at unfinished ⊢
      rintro ⟨finished | errored, ended⟩
      · exact unfinished finished
      · exact ended (looping c errored)

theorem step_registry_eq_some {s t : State C} {e : Registry.Event C}
    (h : step grow s (.registry e) = some t) :
    s.refuses e = false ∧ Registry.step grow s.registry e = some t.registry ∧
      t.errored = s.errored := by
  rw [step, Option.ite_none_left_eq_some] at h
  obtain ⟨allowed, h⟩ := h
  obtain ⟨registry, taken, rfl⟩ := Option.map_eq_some_iff.mp h
  exact ⟨Bool.eq_false_iff.mpr allowed, taken, rfl⟩

theorem step_on_error_eq_some {s t : State C} {c : C}
    (h : step grow s (.on_error c) = some t) :
    c ∈ s.registry.opened ∧ c ∉ s.registry.closed ∧ t = { s with errored := c :: s.errored } := by
  rw [step, Option.ite_none_right_eq_some] at h
  obtain ⟨errs, h⟩ := h
  obtain ⟨-, opened, unclosed, -⟩ := of_decide_eq_true errs
  exact ⟨opened, unclosed, (Option.some.inj h).symm⟩

/-- **The step invariant**, for steps that use good iterators. -/
theorem Inv.step {s t : State C} {e : Event C} (inv : Inv s) (valid : UsesValid s e)
    (h : step grow s e = some t) : Inv t := by
  cases e with
  | registry e =>
      obtain ⟨allowed, taken, errored⟩ := step_registry_eq_some h
      have intact := (intact_step_iff inv.intact inv.consistent taken).mpr valid
      have changes := changes_of_step taken
      refine ⟨intact, inv.consistent.step inv.intact taken intact, inv.oneLoop.step changes,
        ?_, ?_⟩
      · intro c mem
        rw [errored] at mem
        have opened := inv.opened c mem
        cases changes with
        | opened d new grown _ _ =>
            rw [grown]
            exact List.mem_append_left _ opened
        | ended d _ same _ _ | search d same _ _ | join d same _ _ | joined d same _ _
        | erase d same _ _ =>
            rw [same]
            exact opened
      · intro c mem
        rw [errored] at mem
        have unclosed := inv.unclosed c mem
        cases changes with
        | search d _ closed _ =>
            rw [closed, List.mem_cons]
            rintro (rfl | before)
            · -- the library does not close what it has ended with an error
              have refused : s.refuses (.search c) = true := decide_eq_true mem
              rw [refused] at allowed
              cases allowed
            · exact unclosed before
        | opened d _ _ same _ | ended d _ _ same _ | join d _ same _ | joined d _ same _
        | erase d _ same _ =>
            rw [same]
            exact unclosed
  | on_error c =>
      obtain ⟨opened, unclosed, rfl⟩ := step_on_error_eq_some h
      refine ⟨inv.intact, inv.consistent, inv.oneLoop, ?_, ?_⟩
      · intro d mem
        rcases List.mem_cons.mp mem with rfl | before
        · exact opened
        · exact inv.opened d before
      · intro d mem
        rcases List.mem_cons.mp mem with rfl | before
        · exact unclosed
        · exact inv.unclosed d before

/-- One step from a registry without a leak makes one exactly if it abandons a connection. -/
theorem noLeak_step_iff {s t : State C} {e : Event C} (inv : Inv s) (valid : UsesValid s e)
    (noLeak : NoLeak s) (h : step grow s e = some t) : NoLeak t ↔ NotAbandoned s e := by
  have looping := inv.noLeak_iff.mp noLeak
  rw [(inv.step valid h).noLeak_iff]
  cases e with
  | registry e =>
      obtain ⟨-, taken, errored⟩ := step_registry_eq_some h
      rw [errored]
      cases changes_of_step taken with
      | opened c _ _ _ more =>
          refine iff_of_true ?_ trivial
          intro d mem
          rw [more]
          exact List.mem_cons_of_mem _ (looping d mem)
      | ended c _ _ _ fewer =>
          rw [fewer]
          constructor
          · intro still mem
            exact inv.oneLoop.nodup.not_mem_erase (still c mem)
          · intro other d mem
            have ne : d ≠ c := fun same => other (same ▸ mem)
            exact (List.mem_erase_of_ne ne).mpr (looping d mem)
      | search c _ _ same | join c _ _ same | joined c _ _ same | erase c _ _ same =>
          refine iff_of_true ?_ trivial
          rw [same]
          exact looping
  | on_error c =>
      obtain ⟨-, -, rfl⟩ := step_on_error_eq_some h
      show (∀ d ∈ c :: s.errored, d ∈ s.registry.looping) ↔ c ∈ s.registry.looping
      rw [List.forall_mem_cons]
      exact and_iff_left looping

end Invariant

/-! ## Every run -/

section Runs

variable {C : Type u} [DecidableEq C]

theorem noLeak_start : NoLeak (start : State C) := by
  rw [inv_start.noLeak_iff]
  rintro c ⟨⟩

/-- **Nothing leaks while the iterators are good and `on_error` ends no connection for
good**; and on the runs in which the iterators are good, only then.  What has leaked
stays, since nothing looks for it: the entry of a connection is only ever searched for by
its own `on_close`. -/
theorem noLeak_of_notAbandoned (grow : ℕ → ℕ) (events : List (Event C)) :
    ((closing grow).Along (fun s e => UsesValid s e ∧ NotAbandoned s e) (start : State C) events →
      (closing grow).Throughout NoLeak start events) ∧
    ((closing grow).Along UsesValid (start : State C) events →
      ((closing grow).Throughout NoLeak start events ↔
        (closing grow).Along NotAbandoned start events)) := by
  have exact_ : (closing grow).Along UsesValid (start : State C) events →
      ((closing grow).Throughout NoLeak start events ↔
        (closing grow).Along NotAbandoned start events) := by
    intro valid
    exact (closing grow).throughout_iff_along_of_along Inv
      (fun _ _ _ inv good _ h _ => inv.step good h)
      (fun _ _ _ inv good noLeak h => noLeak_step_iff inv good noLeak h) inv_start noLeak_start
      valid
  refine ⟨?_, exact_⟩
  intro both
  obtain ⟨valid, kept⟩ := (closing grow).along_and.mp both
  exact (exact_ valid).mpr kept

/-- Connection 0 is closed, while the notify thread of 1, which has ended in an error,
still waits. -/
def closeAndError : List (Event ℕ) :=
  [.registry (.opened 0), .registry (.opened 1), .on_error 1, .registry (.search 0),
    .registry (.join 0), .registry (.ended 0), .registry (.joined 0), .registry (.erase 0)]

/-- Its entry is that of a thread that still runs, so nothing has leaked yet. -/
theorem noLeak_closeAndError :
    (closing fun n => 2 * n).Throughout NoLeak (start : State ℕ) closeAndError :=
  (noLeak_of_notAbandoned (fun n => 2 * n) closeAndError).1 (by decide)

/-- A client drops its only connection. -/
def dropped : List (Event ℕ) := [.registry (.opened 0), .on_error 0, .registry (.ended 0)]

/-- Its entry stays, with an unjoined thread that has ended. -/
theorem leak_dropped :
    ∃ s, (closing fun n => 2 * n).run (start : State ℕ) dropped = some s ∧ s.Gone 0 ∧
      s.registry.notifyThreads = [⟨0, true⟩] ∧ s.unfinished = [] ∧
      ¬ (closing fun n => 2 * n).Throughout NoLeak (start : State ℕ) dropped := by
  refine ⟨_, rfl, by decide, rfl, rfl, fun noLeak => ?_⟩
  have last := noLeak.last _ (show _ = some _ from rfl)
  exact last.gone 0 (by decide) (by decide)

end Runs

end SpectrogramServers.CloudServer.RegistryLeak
