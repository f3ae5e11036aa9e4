import Mathlib.Data.List.InsertIdx
import SpectrogramServers.CloudServer.Registry
import SpectrogramServers.Lib.Lists

/-!
# When the registry stays intact

`on_close` searches the vector of notify threads for its entry, joins the thread and erases
the entry, and nothing locks the vector.  While it waits in `join` other handlers may erase or
append, and the iterator it holds may have gone bad.  This module says exactly when that
matters.

## Where iterators point

The invariant `Consistent` says it.  A valid iterator of `c` points to the entry of `c`.
An invalid one into the current storage points behind it, since entries only ever move to
the front.  So an `on_close` that erases through an invalid iterator always goes wrong: it
removes another entry, ends the process, or leaves the vector (`not_intact_erase`).  There
is no case in which it happens to do the right thing, which is why the condition is exact.

## Joins

A call of `join` is two steps, its begin and its return.  At the begin the registry stays
intact exactly when the thread at the iterator may be joined (`intact_join_iff`): a thread
joined by another handler may not.  At the return only that there still is something at
the iterator matters (`intact_returned_iff`).

The invariant is needed only as long as the registry is intact, which is the form in which
`intact_iff_usesValid` asks for it: nothing is said about a process that has already gone
wrong.
-/

namespace SpectrogramServers.CloudServer.Registry

universe u

variable {C : Type u} [DecidableEq C] {grow : ℕ → ℕ}

/-! ## The invariant -/

/-- The connections of the entries. -/
def State.names (s : State C) : List C := s.notifyThreads.map Entry.connection

/-- Where the iterator of a handler points. -/
structure OnClose.Points (s : State C) (handler : OnClose C) : Prop where
  storage : handler.storage ≤ s.storage
  ofValid : handler.valid = true →
    handler.storage = s.storage ∧ s.names[handler.position]? = some handler.connection
  ofInvalid : handler.valid = false → handler.storage = s.storage →
    ∃ q < handler.position, s.names[q]? = some handler.connection
  ofJoined : handler.valid = true → handler.stage = .joined →
    ∀ entry, s.notifyThreads[handler.position]? = some entry → entry.joinable = false

/-- The invariant of an intact registry: every connection is opened, closed and finished
once and in this order, the handlers are those of different connections, and their
iterators point where they should. -/
structure Consistent (s : State C) : Prop where
  distinct : s.opened.Nodup
  closed : ∀ c ∈ s.closed, c ∈ s.opened
  finished : ∀ c ∈ s.finished, c ∈ s.closed
  handling : ∀ handler ∈ s.handlers,
    handler.connection ∈ s.closed ∧ handler.connection ∉ s.finished
  handlers : (s.handlers.map OnClose.connection).Nodup
  points : ∀ handler ∈ s.handlers, handler.Points s

omit [DecidableEq C] in
theorem consistent_start : Consistent (start : State C) := by
  refine ⟨List.nodup_nil, ?_, ?_, ?_, List.nodup_nil, ?_⟩
  · rintro c ⟨⟩
  · rintro c ⟨⟩
  · rintro handler ⟨⟩
  · rintro handler ⟨⟩

theorem intact_start : Intact (start : State C) := ⟨rfl, rfl⟩

theorem Consistent.names_nodup {s : State C} (h : Consistent s) (good : Intact s) :
    s.names.Nodup := by
  rw [State.names, good.2]
  exact h.distinct.filter _

/-- In an intact registry there is an entry for every connection that is not finished. -/
theorem mem_names_iff {s : State C} (good : Intact s) (c : C) :
    c ∈ s.names ↔ c ∈ s.opened ∧ c ∉ s.finished := by
  rw [State.names, good.2, List.mem_filter, decide_eq_true_eq]

theorem handler?_eq_some {s : State C} {c : C} {handler : OnClose C}
    (h : s.handler? c = some handler) : handler ∈ s.handlers ∧ handler.connection = c := by
  have found := List.find?_some (show s.handlers.find? _ = some handler from h)
  exact ⟨List.mem_of_find?_eq_some h, of_decide_eq_true found⟩

omit [DecidableEq C] in
theorem at?_eq_some {s : State C} {handler : OnClose C} {entry : Entry C}
    (h : s.at? handler = some entry) :
    handler.storage = s.storage ∧ s.notifyThreads[handler.position]? = some entry := by
  rw [State.at?, Option.ite_none_right_eq_some] at h
  exact h

omit [DecidableEq C] in
/-- Other handlers are those of other connections. -/
theorem Consistent.connection_ne {s : State C} (h : Consistent s) {a b : OnClose C}
    (ha : a ∈ s.handlers) (hb : b ∈ s.handlers) (same : a.connection = b.connection) : a = b :=
  List.inj_on_of_nodup_map h.handlers ha hb same

/-! ## `on_open` -/

omit [DecidableEq C] in
theorem push_back_notifyThreads (s : State C) (c : C) :
    (s.push_back grow c).notifyThreads =
      s.notifyThreads ++ [{ connection := c, joinable := true }] := by
  rw [State.push_back]
  split <;> rfl

omit [DecidableEq C] in
theorem on_open_names (s : State C) (c : C) : (s.on_open grow c).names = s.names ++ [c] := by
  show (s.push_back grow c).notifyThreads.map _ = _
  rw [push_back_notifyThreads, List.map_append]
  rfl

omit [DecidableEq C] in
/-- Appending leaves iterators where they point, unless the vector moves to larger
storage. -/
theorem OnClose.Points.on_open {s : State C} {handler : OnClose C} (h : handler.Points s)
    (c : C) {t : State C} (storage : t.storage = s.storage)
    (entries : t.notifyThreads = s.notifyThreads ++ [{ connection := c, joinable := true }]) :
    handler.Points t := by
  have names : t.names = s.names ++ [c] := by
    rw [State.names, entries, List.map_append]
    rfl
  refine ⟨?_, fun valid => ?_, fun invalid here => ?_, fun valid joined entry found => ?_⟩
  · rw [storage]
    exact h.storage
  · obtain ⟨here, own⟩ := h.ofValid valid
    rw [storage, names]
    exact ⟨here, getElem?_append_of_some own _⟩
  · rw [storage] at here
    obtain ⟨q, before, own⟩ := h.ofInvalid invalid here
    rw [names]
    exact ⟨q, before, getElem?_append_of_some own _⟩
  · obtain ⟨-, own⟩ := h.ofValid valid
    have inside : handler.position < s.notifyThreads.length := by
      have bound := (List.getElem?_eq_some_iff.mp own).1
      rwa [State.names, List.length_map] at bound
    rw [entries, List.getElem?_append_left inside] at found
    exact h.ofJoined valid joined entry found

omit [DecidableEq C] in
/-- When the vector moves to new storage, every iterator is left behind. -/
theorem OnClose.Points.moved {s : State C} {handler : OnClose C} (h : handler.Points s)
    {t : State C} (storage : t.storage = s.storage + 1) :
    { handler with valid := false }.Points t := by
  have behind : handler.storage < t.storage := by
    rw [storage]
    exact Nat.lt_succ_of_le h.storage
  refine ⟨Nat.le_of_lt behind, fun valid => ?_, fun _ here => ?_, fun valid => ?_⟩
  · cases valid
  · exact absurd here (Nat.ne_of_lt behind)
  · cases valid

omit [DecidableEq C] in
theorem Consistent.on_open {s : State C} (h : Consistent s) {c : C} (new : c ∉ s.opened) :
    Consistent (s.on_open grow c) := by
  have distinct : (s.opened ++ [c]).Nodup := nodup_append_singleton h.distinct new
  have opened : ∀ d ∈ s.closed, d ∈ s.opened ++ [c] := fun d closed =>
    List.mem_append_left _ (h.closed d closed)
  rw [State.on_open, State.push_back]
  split
  next full =>
      refine ⟨distinct, opened, h.finished, ?_, ?_, ?_⟩
      · intro handler member
        obtain ⟨before, earlier, rfl⟩ := List.mem_map.mp member
        exact h.handling before earlier
      · show ((s.handlers.map _).map OnClose.connection).Nodup
        rw [List.map_map]
        exact h.handlers
      · intro handler member
        obtain ⟨before, earlier, rfl⟩ := List.mem_map.mp member
        exact (h.points before earlier).moved rfl
  next room =>
      refine ⟨distinct, opened, h.finished, h.handling, h.handlers, ?_⟩
      intro handler member
      exact (h.points handler member).on_open c rfl rfl

theorem intact_on_open {s : State C} (good : Intact s) (h : Consistent s) {c : C}
    (new : c ∉ s.opened) : Intact (s.on_open grow c) := by
  have running : (s.on_open grow c).process = s.process := by
    rw [State.on_open, State.push_back]
    split <;> rfl
  have finished : (s.on_open grow c).finished = s.finished := by
    rw [State.on_open, State.push_back]
    split <;> rfl
  refine ⟨running.trans good.1, ?_⟩
  have kept : [c].filter (fun d => decide (d ∉ s.finished)) = [c] := by
    apply List.filter_eq_self.mpr
    intro d member
    rw [List.mem_singleton.mp member]
    exact decide_eq_true fun returned => new (h.closed c (h.finished c returned))
  rw [finished]
  show (s.on_open grow c).names = (s.opened ++ [c]).filter _
  rw [on_open_names, State.names, good.2, List.filter_append, kept]

/-! ## The search -/

theorem Consistent.search {s : State C} (h : Consistent s) {c : C} (opened : c ∈ s.opened)
    (new : c ∉ s.closed) : Consistent (s.search c) := by
  have closed : ∀ d ∈ c :: s.closed, d ∈ s.opened := by
    intro d member
    rcases List.mem_cons.mp member with rfl | earlier
    · exact opened
    · exact h.closed d earlier
  have finished : ∀ d ∈ s.finished, d ∈ c :: s.closed := fun d member =>
    List.mem_cons_of_mem _ (h.finished d member)
  rw [State.search]
  split
  next position found =>
      obtain ⟨inside, own, -⟩ := List.findIdx?_eq_some_iff_getElem.mp found
      have name : s.names[position]? = some c := by
        rw [State.names, List.getElem?_map, List.getElem?_eq_getElem inside]
        exact congrArg some (of_decide_eq_true own)
      refine ⟨h.distinct, closed, finished, ?_, ?_, ?_⟩
      · intro handler member
        rcases List.mem_append.mp member with earlier | last
        · obtain ⟨handling, running⟩ := h.handling handler earlier
          exact ⟨List.mem_cons_of_mem _ handling, running⟩
        · rw [List.mem_singleton.mp last]
          exact ⟨List.mem_cons_self, fun returned => new (h.finished c returned)⟩
      · show ((s.handlers ++ [_]).map OnClose.connection).Nodup
        rw [List.map_append]
        refine nodup_append_singleton h.handlers fun earlier => ?_
        obtain ⟨handler, member, same⟩ := List.mem_map.mp earlier
        have own : handler.connection = c := same
        exact new (own ▸ (h.handling handler member).1)
      · intro handler member
        rcases List.mem_append.mp member with earlier | last
        · have points := h.points handler earlier
          exact ⟨points.storage, points.ofValid, points.ofInvalid, points.ofJoined⟩
        · rw [List.mem_singleton.mp last]
          exact ⟨Nat.le_refl _, fun _ => ⟨rfl, name⟩, fun invalid => (by cases invalid),
            fun _ joined => (by cases joined)⟩
  next absent =>
      refine ⟨h.distinct, closed, ?_, ?_, h.handlers, ?_⟩
      · intro d member
        rcases List.mem_cons.mp member with rfl | earlier
        · exact List.mem_cons_self
        · exact finished d earlier
      · intro handler member
        obtain ⟨handling, running⟩ := h.handling handler member
        refine ⟨List.mem_cons_of_mem _ handling, fun returned => ?_⟩
        rcases List.mem_cons.mp returned with same | earlier
        · exact new (same ▸ handling)
        · exact running earlier
      · intro handler member
        have points := h.points handler member
        exact ⟨points.storage, points.ofValid, points.ofInvalid, points.ofJoined⟩

/-- As long as the registry is intact, a search finds its entry. -/
theorem intact_search {s : State C} (good : Intact s) (h : Consistent s) {c : C}
    (opened : c ∈ s.opened) (new : c ∉ s.closed) : Intact (s.search c) := by
  have present : c ∈ s.names :=
    (mem_names_iff good c).mpr ⟨opened, fun returned => new (h.finished c returned)⟩
  rw [State.search]
  split
  next position found => exact good
  next absent =>
      obtain ⟨entry, member, own⟩ := List.mem_map.mp present
      have other := List.findIdx?_eq_none_iff.mp absent entry member
      exact absurd own (of_decide_eq_false other)

/-! ## The join -/

/-- A join marks its handler and makes entries unjoinable; it moves none. -/
theorem Consistent.moveTo {s : State C} (h : Consistent s) {handler : OnClose C}
    (member : handler ∈ s.handlers) (stage : Stage C) {entries : List (Entry C)}
    (joins : List C) (names : entries.map Entry.connection = s.names)
    (kept : ∀ (i : ℕ) entry, entries[i]? = some entry →
      (∀ old, s.notifyThreads[i]? = some old → old.joinable = false) → entry.joinable = false)
    (own : stage = .joined → ∀ entry, entries[handler.position]? = some entry →
      entry.joinable = false) :
    Consistent { s.moveTo handler stage with notifyThreads := entries, joins := joins } := by
  refine ⟨h.distinct, h.closed, h.finished, ?_, ?_, ?_⟩
  · intro other present
    obtain ⟨before, earlier, rfl⟩ := List.mem_map.mp present
    have handling := h.handling before earlier
    split
    next => exact handling
    next => exact handling
  · have same : (OnClose.connection ∘ fun other : OnClose C =>
        if other.connection = handler.connection then { other with stage := stage }
        else other) = OnClose.connection := by
      funext other
      show OnClose.connection (if _ then _ else _) = _
      split <;> rfl
    show ((s.handlers.map _).map OnClose.connection).Nodup
    rw [List.map_map, same]
    exact h.handlers
  · intro other present
    obtain ⟨before, earlier, rfl⟩ := List.mem_map.mp present
    have points := h.points before earlier
    split
    next mine =>
        obtain rfl := h.connection_ne earlier member mine
        refine ⟨points.storage, fun valid => ?_, fun invalid here => ?_, fun _ => own⟩
        · rw [State.names, names]
          exact points.ofValid valid
        · rw [State.names, names]
          exact points.ofInvalid invalid here
    next =>
        refine ⟨points.storage, fun valid => ?_, fun invalid here => ?_,
          fun valid joined entry found => ?_⟩
        · rw [State.names, names]
          exact points.ofValid valid
        · rw [State.names, names]
          exact points.ofInvalid invalid here
        · exact kept _ entry found (points.ofJoined valid joined)

/-- The call of `join` waits for the thread that is at the iterator, finds none to wait
for, or has no defined meaning. -/
theorem join_cases (s : State C) (handler : OnClose C) :
    (¬ s.MayJoin handler ∧ s.join handler = { s with process := .undefined }) ∨
      (∃ entry, s.at? handler = some entry ∧ entry.joinable = true ∧
        entry.connection ∉ s.joins ∧
        s.join handler = { s.moveTo handler (.joining entry.connection) with
          joins := entry.connection :: s.joins }) ∨
      ∃ entry, s.at? handler = some entry ∧ entry.joinable = false ∧
        s.join handler = s.moveTo handler .joined := by
  rw [State.join]
  cases found : s.at? handler with
  | none =>
      refine Or.inl ⟨?_, rfl⟩
      rintro ⟨entry, present, -⟩
      rw [found] at present
      cases present
  | some entry =>
      cases joinable : entry.joinable with
      | false => exact Or.inr (Or.inr ⟨entry, rfl, joinable, by simp [joinable]⟩)
      | true =>
          by_cases twice : entry.connection ∈ s.joins
          · refine Or.inl ⟨?_, by simp [joinable, twice]⟩
            rintro ⟨other, present, once⟩
            obtain rfl := Option.some.inj (found.symm.trans present)
            exact once joinable twice
          · exact Or.inr (Or.inl ⟨entry, rfl, joinable, twice, by simp [joinable, twice]⟩)

/-- **The call of `join` leaves the registry intact exactly when it waits for a thread that
may be joined, or need not wait.** -/
theorem intact_join_iff {s : State C} (good : Intact s) (handler : OnClose C) :
    Intact (s.join handler) ↔ s.MayJoin handler := by
  rcases join_cases s handler with
    ⟨bad, h⟩ | ⟨entry, inside, joinable, once, h⟩ | ⟨entry, inside, unjoinable, h⟩
  · rw [h]
    exact iff_of_false (fun after => by cases after.1) bad
  · rw [h]
    exact iff_of_true good ⟨entry, inside, fun _ => once⟩
  · rw [h]
    refine iff_of_true good ⟨entry, inside, fun joinable => ?_⟩
    rw [unjoinable] at joinable
    cases joinable

theorem Consistent.join {s : State C} (h : Consistent s) {handler : OnClose C}
    (member : handler ∈ s.handlers) (may : s.MayJoin handler) :
    Consistent (s.join handler) := by
  rcases join_cases s handler with
    ⟨bad, -⟩ | ⟨entry, -, -, -, joins⟩ | ⟨entry, inside, unjoinable, skips⟩
  · exact absurd may bad
  · rw [joins]
    exact h.moveTo member _ _ rfl (fun i other present old => old other present)
      (fun joined => by cases joined)
  · rw [skips]
    refine h.moveTo member _ _ rfl (fun i other present old => old other present)
      (fun _ other present => ?_)
    obtain rfl := Option.some.inj ((at?_eq_some inside).2.symm.trans present)
    exact unjoinable

omit [DecidableEq C] in
theorem names_set {s : State C} {i : ℕ} {entry : Entry C}
    (found : s.notifyThreads[i]? = some entry) :
    (s.notifyThreads.set i { entry with joinable := false }).map Entry.connection = s.names := by
  obtain ⟨inside, rfl⟩ := List.getElem?_eq_some_iff.mp found
  rw [List.map_set, State.names]
  apply List.ext_getElem?
  intro j
  rw [List.getElem?_set]
  split
  next same =>
      subst same
      rw [if_pos (by rwa [List.length_map]), List.getElem?_map, found]
      rfl
  next => rfl

/-- The return of `join` marks what is at the iterator by then, and there has to be
something. -/
theorem returned_of_some {s : State C} {handler : OnClose C} {entry : Entry C}
    (inside : s.at? handler = some entry) :
    s.returned handler = { s.moveTo handler .joined with
      notifyThreads :=
        s.notifyThreads.set handler.position { entry with joinable := false } } := by
  rw [State.returned, inside]

theorem intact_returned_iff {s : State C} (good : Intact s) (handler : OnClose C) :
    Intact (s.returned handler) ↔ (s.at? handler).isSome := by
  cases inside : s.at? handler with
  | none =>
      rw [State.returned, inside]
      exact iff_of_false (fun after => by cases after.1) (fun h => by cases h)
  | some entry =>
      rw [returned_of_some inside]
      exact iff_of_true ⟨good.1, (names_set (at?_eq_some inside).2).trans good.2⟩ rfl

theorem Consistent.returned {s : State C} (h : Consistent s) {handler : OnClose C}
    (member : handler ∈ s.handlers) {entry : Entry C} (inside : s.at? handler = some entry) :
    Consistent (s.returned handler) := by
  rw [returned_of_some inside]
  refine h.moveTo member _ s.joins (names_set (at?_eq_some inside).2)
    (fun i other present old => ?_) (fun _ other present => ?_)
  · rw [List.getElem?_set] at present
    split at present
    next same =>
        rw [Option.ite_none_right_eq_some] at present
        rw [← Option.some.inj present.2]
    next => exact old other present
  · rw [List.getElem?_set, if_pos rfl, Option.ite_none_right_eq_some] at present
    rw [← Option.some.inj present.2]

/-! ## The erase -/

/-- A valid iterator of a handler that has joined erases its own entry. -/
theorem erase_eq_of_valid {s : State C} {handler : OnClose C} (points : handler.Points s)
    (valid : handler.valid = true) (joined : handler.stage = .joined) :
    s.erase handler = s.erased handler := by
  obtain ⟨here, own⟩ := points.ofValid valid
  rw [State.names, List.getElem?_map] at own
  obtain ⟨entry, found, -⟩ := Option.map_eq_some_iff.mp own
  have unjoinable : ¬ entry.joinable = true := by
    rw [points.ofJoined valid joined entry found]
    decide
  rw [State.erase, State.at?, if_pos here, found]
  exact if_neg unjoinable

/-- The entry of an invalid iterator into the current storage is further to the
front, so whatever is erased in its place, that entry stays. -/
theorem not_intact_erase {s : State C} {handler : OnClose C} (points : handler.Points s)
    (invalid : handler.valid = false) : ¬ Intact (s.erase handler) := by
  intro after
  rw [State.erase] at after
  cases found : s.at? handler with
  | none =>
      rw [found] at after
      cases after.1
  | some entry =>
      rw [found] at after
      dsimp only at after
      by_cases joinable : entry.joinable = true
      · rw [if_pos joinable] at after
        cases after.1
      · rw [if_neg joinable] at after
        -- another entry is erased, and the one of this handler stays behind
        obtain ⟨q, before, own⟩ := points.ofInvalid invalid (at?_eq_some found).1
        have names : s.names.eraseIdx handler.position = _ :=
          (List.eraseIdx_map _ _ _).trans after.2
        have still : handler.connection ∈ s.names.eraseIdx handler.position :=
          List.mem_eraseIdx_iff_getElem?.mpr ⟨q, Nat.ne_of_lt before, own⟩
        rw [names, List.mem_filter, decide_eq_true_eq] at still
        exact still.2 List.mem_cons_self

theorem intact_erased {s : State C} (good : Intact s) (h : Consistent s)
    {handler : OnClose C} (own : s.names[handler.position]? = some handler.connection) :
    Intact (s.erased handler) := by
  refine ⟨good.1, ?_⟩
  have names : (s.erased handler).notifyThreads.map Entry.connection =
      s.names.eraseIdx handler.position := (List.eraseIdx_map _ _ _).symm
  rw [names, eraseIdx_eq_filter (h.names_nodup good) own, State.names, good.2,
    List.filter_filter]
  apply List.filter_congr
  intro c _
  simp [State.erased, not_or]

/-- **An `on_close` leaves the registry intact exactly when its iterator is
valid.** -/
theorem intact_erase_iff {s : State C} (good : Intact s) (h : Consistent s)
    {handler : OnClose C} (member : handler ∈ s.handlers) (joined : handler.stage = .joined) :
    Intact (s.erase handler) ↔ handler.valid = true := by
  have points := h.points handler member
  cases valid : handler.valid with
  | true =>
      rw [erase_eq_of_valid points valid joined]
      exact iff_of_true (intact_erased good h (points.ofValid valid).2) rfl
  | false => exact iff_of_false (not_intact_erase points valid) (by decide)

/-- Where an entry goes when another is erased. -/
theorem getElem?_eraseIdx_of_ne {α : Type*} {l : List α} {p q : ℕ} {a : α}
    (h : l[q]? = some a) (other : q ≠ p) :
    (l.eraseIdx p)[if q < p then q else q - 1]? = some a := by
  split
  next before => rw [List.getElem?_eraseIdx_of_lt before, h]
  next behind =>
      rw [List.getElem?_eraseIdx_of_ge (by omega), Nat.sub_add_cancel (by omega), h]

/-- The iterators of the other handlers after an erase. -/
theorem OnClose.Points.erased {s : State C} {handler other : OnClose C}
    (h : other.Points s) (own : s.names[handler.position]? = some handler.connection)
    (different : other.connection ≠ handler.connection) :
    (if handler.position ≤ other.position then { other with valid := false }
      else other).Points (s.erased handler) := by
  have names : (s.erased handler).names = s.names.eraseIdx handler.position :=
    (List.eraseIdx_map _ _ _).symm
  have elsewhere : ∀ q, s.names[q]? = some other.connection → q ≠ handler.position := by
    rintro q there rfl
    exact different (Option.some.inj (there.symm.trans own))
  by_cases behind : handler.position ≤ other.position
  · rw [if_pos behind]
    refine ⟨h.storage, fun valid => (by cases valid), fun _ here => ?_,
      fun valid => (by cases valid)⟩
    -- valid or not, its entry is not behind it, and an erase does not change that
    have before : ∃ q ≤ other.position, s.names[q]? = some other.connection := by
      cases valid : other.valid with
      | true => exact ⟨_, Nat.le_refl _, (h.ofValid valid).2⟩
      | false =>
          obtain ⟨q, before, there⟩ := h.ofInvalid valid here
          exact ⟨q, Nat.le_of_lt before, there⟩
    obtain ⟨q, bound, there⟩ := before
    have moved := getElem?_eraseIdx_of_ne there (elsewhere q there)
    refine ⟨if q < handler.position then q else q - 1, ?_, by rw [names]; exact moved⟩
    have other_q := elsewhere q there
    dsimp only
    split <;> omega
  · rw [if_neg behind]
    -- nothing moves in front of the position that is erased
    have stays : ∀ {β : Type u} {l : List β} {q : ℕ} {b : β}, q ≤ other.position →
        l[q]? = some b → (l.eraseIdx handler.position)[q]? = some b := by
      intro β l q b bound there
      rw [List.getElem?_eraseIdx_of_lt (by omega), there]
    refine ⟨h.storage, fun valid => ?_, fun invalid here => ?_,
      fun valid joined entry found => ?_⟩
    · obtain ⟨here, there⟩ := h.ofValid valid
      rw [names]
      exact ⟨here, stays (Nat.le_refl _) there⟩
    · obtain ⟨q, before, there⟩ := h.ofInvalid invalid here
      rw [names]
      exact ⟨q, before, stays (Nat.le_of_lt before) there⟩
    · apply h.ofJoined valid joined entry
      rw [← found]
      exact (List.getElem?_eraseIdx_of_lt (by omega)).symm

/-- Erasing through a valid iterator keeps the others pointing where they should. -/
theorem Consistent.erased {s : State C} (h : Consistent s) {handler : OnClose C}
    (member : handler ∈ s.handlers)
    (own : s.names[handler.position]? = some handler.connection) :
    Consistent (s.erased handler) := by
  have others : ∀ other ∈ (s.erased handler).handlers, ∃ before ∈ s.handlers,
      before.connection ≠ handler.connection ∧
        other = if handler.position ≤ before.position then { before with valid := false }
          else before := by
    intro other present
    obtain ⟨before, earlier, rfl⟩ := List.mem_map.mp present
    obtain ⟨earlier, different⟩ := List.mem_filter.mp earlier
    exact ⟨before, earlier, of_decide_eq_true different, rfl⟩
  have connection : ∀ before : OnClose C,
      (if handler.position ≤ before.position then { before with valid := false }
        else before).connection = before.connection := by
    intro before
    split <;> rfl
  refine ⟨h.distinct, h.closed, ?_, ?_, ?_, ?_⟩
  · intro c returned
    rcases List.mem_cons.mp returned with rfl | earlier
    · exact (h.handling handler member).1
    · exact h.finished c earlier
  · intro other present
    obtain ⟨before, earlier, different, rfl⟩ := others other present
    obtain ⟨handling, running⟩ := h.handling before earlier
    rw [connection]
    refine ⟨handling, fun returned => ?_⟩
    rcases List.mem_cons.mp returned with same | finished
    · exact different same
    · exact running finished
  · have same : (OnClose.connection ∘ fun before : OnClose C =>
        if handler.position ≤ before.position then { before with valid := false }
        else before) = OnClose.connection := by
      funext before
      exact connection before
    show (((s.handlers.filter _).map _).map OnClose.connection).Nodup
    rw [List.map_map, same]
    exact h.handlers.sublist (List.filter_sublist.map _)
  · intro other present
    obtain ⟨before, earlier, different, rfl⟩ := others other present
    exact (h.points before earlier).erased own different

/-! ## What a step can do -/

/-- What a handler or a notify thread does to the registry. -/
inductive ActOutcome (grow : ℕ → ℕ) (s : State C) : Event C → State C → Prop
  | opened (c : C) (new : c ∉ s.opened) (free : s.Free) :
      ActOutcome grow s (.opened c) (s.on_open grow c)
  | ended (c : C) (runs : c ∈ s.looping) :
      ActOutcome grow s (.ended c) { s with looping := s.looping.erase c }
  | search (c : C) (opened : c ∈ s.opened) (new : c ∉ s.closed) (free : s.Free) :
      ActOutcome grow s (.search c) (s.search c)
  | join (c : C) (handler : OnClose C) (found : s.handler? c = some handler)
      (begins : handler.stage = .found) : ActOutcome grow s (.join c) (s.join handler)
  | joined (c : C) (handler : OnClose C) (thread : C) (found : s.handler? c = some handler)
      (waits : handler.stage = .joining thread) (ended : thread ∉ s.looping) :
      ActOutcome grow s (.joined c) (s.returned handler)
  | erase (c : C) (handler : OnClose C) (found : s.handler? c = some handler)
      (joined : handler.stage = .joined) : ActOutcome grow s (.erase c) (s.erase handler)

/-- **Inversion of a step** of the handlers and the notify threads. -/
theorem act_cases {s t : State C} {e : Event C} (h : s.act grow e = some t) :
    ActOutcome grow s e t := by
  cases e with
  | opened c =>
      obtain ⟨⟨new, free⟩, rfl⟩ := guarded_eq_some h
      exact .opened c new free
  | ended c =>
      obtain ⟨runs, rfl⟩ := guarded_eq_some h
      exact .ended c runs
  | search c =>
      obtain ⟨⟨opened, new, free⟩, rfl⟩ := guarded_eq_some h
      exact .search c opened new free
  | join c =>
      obtain ⟨handler, found, h⟩ := Option.bind_eq_some_iff.mp h
      rw [Option.ite_none_right_eq_some] at h
      obtain ⟨begins, h⟩ := h
      obtain rfl := Option.some.inj h
      exact .join c handler found begins
  | joined c =>
      obtain ⟨handler, found, h⟩ := Option.bind_eq_some_iff.mp h
      split at h
      next thread waits =>
          rw [Option.ite_none_left_eq_some] at h
          obtain ⟨ended, h⟩ := h
          obtain rfl := Option.some.inj h
          exact .joined c handler thread found waits ended
      next => cases h
      next => cases h
  | erase c =>
      obtain ⟨handler, found, h⟩ := Option.bind_eq_some_iff.mp h
      rw [Option.ite_none_right_eq_some] at h
      obtain ⟨joined, h⟩ := h
      obtain rfl := Option.some.inj h
      exact .erase c handler found joined

theorem step_cases {s t : State C} {e : Event C} (h : step grow s e = some t) :
    ActOutcome grow s e t := by
  rw [step, Option.ite_none_right_eq_some] at h
  exact act_cases h.2

/-! ## Every run -/

/-- **One step leaves the registry intact exactly when it uses no iterator that has gone
bad.** The three steps that use one are the two ends of a join and the erase. -/
theorem intact_step_iff {s t : State C} {e : Event C} (good : Intact s) (h : Consistent s)
    (hstep : step grow s e = some t) : Intact t ↔ UsesValid s e := by
  cases step_cases hstep with
  | opened c new free => exact iff_of_true (intact_on_open good h new) trivial
  | ended c runs => exact iff_of_true good trivial
  | search c opened new free => exact iff_of_true (intact_search good h opened new) trivial
  | join c handler found begins =>
      have uses : UsesValid s (.join c) ↔ s.MayJoin handler := by
        rw [UsesValid, found]
        simp
      rw [uses]
      exact intact_join_iff good handler
  | joined c handler thread found waits ended =>
      have uses : UsesValid s (.joined c) ↔ (s.at? handler).isSome := by
        rw [UsesValid, found]
        simp
      rw [uses]
      exact intact_returned_iff good handler
  | erase c handler found joined =>
      have uses : UsesValid s (.erase c) ↔ handler.valid = true := by
        rw [UsesValid, found]
        simp
      rw [uses]
      exact intact_erase_iff good h (handler?_eq_some found).1 joined

/-- **The step lemma.**  A step that leaves the registry intact keeps the iterators
pointing where they should. -/
theorem Consistent.step {s t : State C} {e : Event C} (h : Consistent s) (good : Intact s)
    (hstep : step grow s e = some t) (after : Intact t) : Consistent t := by
  have uses := (intact_step_iff good h hstep).mp after
  cases step_cases hstep with
  | opened c new free => exact h.on_open new
  | ended c runs =>
      refine ⟨h.distinct, h.closed, h.finished, h.handling, h.handlers, ?_⟩
      intro handler member
      have points := h.points handler member
      exact ⟨points.storage, points.ofValid, points.ofInvalid, points.ofJoined⟩
  | search c opened new free => exact h.search opened new
  | join c handler found begins =>
      exact h.join (handler?_eq_some found).1 (uses handler found)
  | joined c handler thread found waits ended =>
      obtain ⟨entry, inside⟩ := Option.isSome_iff_exists.mp (uses handler found)
      exact h.returned (handler?_eq_some found).1 inside
  | erase c handler found joined =>
      have member := (handler?_eq_some found).1
      have valid := uses handler found
      have points := h.points handler member
      rw [erase_eq_of_valid points valid joined]
      exact h.erased member (points.ofValid valid).2

/-- **The registry stays intact exactly as long as no `on_close` uses an iterator that
another handler has invalidated, or joins a thread that another one joins.**  This holds
for every run and every way in which the vector grows; the steps that use an iterator are
the two ends of a join and the erase. -/
theorem intact_iff_usesValid (grow : ℕ → ℕ) (events : List (Event C)) :
    (registry grow).Throughout Intact (start : State C) events ↔
      (registry grow).Along UsesValid start events :=
  (registry grow).throughout_iff_along Consistent
    (fun _ _ _ hs good hstep after => hs.step good hstep after)
    (fun _ _ _ hs good hstep => intact_step_iff good hs hstep)
    consistent_start intact_start

/-- Two `on_close` handlers overlap, and the one whose entry is in front erases
first. -/
def overlappingCloses : List (Event ℕ) :=
  [.opened 0, .opened 1, .opened 2, .search 0, .search 1, .join 1, .join 0, .ended 0, .ended 1,
    .joined 1, .joined 0, .erase 0, .erase 1]

/-- The second then erases the entry of a connection that is still open, whose
thread is joinable, and the process ends. -/
theorem not_intact_after_overlappingCloses :
    ∃ s t, (registry fun n => 2 * n).run (start : State ℕ) (overlappingCloses.take 12) = some s ∧
      s.notifyThreads = [⟨1, false⟩, ⟨2, true⟩] ∧ 2 ∉ s.closed ∧
      (registry fun n => 2 * n).step s (.erase 1) = some t ∧ t.process = .terminated ∧
      ¬ (registry fun n => 2 * n).Throughout Intact (start : State ℕ) overlappingCloses := by
  refine ⟨_, _, rfl, rfl, by decide, rfl, rfl, fun intact => ?_⟩
  have last := intact.last _ (show _ = some _ from rfl)
  cases last.1

end SpectrogramServers.CloudServer.Registry
