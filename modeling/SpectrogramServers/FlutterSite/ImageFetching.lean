import SpectrogramServers.FlutterSite.SpectrogramWindow
import SpectrogramServers.Lib.Lists
import SpectrogramServers.Lib.Machine

/-!
# Fetching the announced images

While it is mounted, the spectrogram window receives announcements one after the other on
`widget.imageStream` and fetches their images.  `SpectrogramWindow` has the window itself;
here it runs among its fetches, which take as long as they take and may fail.

## The flag that is not cleared

`_fetchingImage` is set when a fetch is started and cleared in the callback of a fetch
that succeeds.  `fetchImage` has no callback for errors, so the first exception leaves the
flag set for good, and announcements that arrive while the flag is set are discarded
without being kept for later.  Two things can therefore go wrong, and they are of
different kinds:

* **a fetch fails**, and from then on nothing is fetched any more;
* **a fetch completes late**, when a later announcement has come and been discarded, and
  the window stays one image behind until the next announcement.

`Followed` is the condition on a step that neither happens, and `current_iff_followed` is
the equivalence over runs: the window follows the announcements on exactly the runs all of
whose steps are `Followed`.

## What holds in any case

There is never more than one fetch in flight, so callbacks do not overtake each other.
`Inv` carries this over every run, and with it the image on display and its two times are
those of the latest announcement whose fetch has succeeded (`Inv.completed`).  The window
may lag behind; it never goes back and never mixes two announcements.

The images are of any type `α`: nothing is done with them but showing them.
-/

namespace SpectrogramServers.FlutterSite.ImageFetching

universe u

variable {α : Type u}

/-- A fetch in flight: the announcement that started it, by its number, and the `data`
that its callback has captured.  The callback sets the times from this `data`, not from
what has been announced since. -/
structure Fetch where
  announcement : ℕ
  data : ImageData

/-- The window and the fetches in flight.  The rest is history, which no step reads: the
announcements received, those for which a fetch was started, and the images fetched. -/
structure State (α : Type u) where
  window : WindowState α
  fetches : List Fetch
  received : List ImageData
  started : List ℕ
  succeeded : List (ℕ × α)

/-- What can happen to a mounted window.  The fetches in flight complete or fail in any
order and at any time. -/
inductive Event (α : Type u) where
  /-- `data` arrives on `widget.imageStream`. -/
  | announced (data : ImageData)
  /-- The `n`-th fetch in flight completes with an image. -/
  | completed (n : ℕ) (image : α)
  /-- The `n`-th fetch in flight fails. -/
  | failed (n : ℕ)

/-! ## Steps -/

/-- The listener.  It starts a fetch when none is marked as being in flight, and drops the
announcement otherwise. -/
def State.announced (s : State α) (data : ImageData) : State α :=
  let s' := { s with received := s.received ++ [data], window := s.window.listen }
  if s.window.fetches then
    { s' with
      fetches := s.fetches ++ [⟨s.received.length, data⟩]
      started := s.started ++ [s.received.length] }
  else s'

/-- The callback of the `n`-th fetch: it shows the image with the times of its own `data`
and clears `_fetchingImage`. -/
def State.completed (s : State α) (n : ℕ) (fetch : Fetch) (image : α) : State α :=
  { s with
    window := s.window.imageFetched fetch.data image
    fetches := s.fetches.eraseIdx n
    succeeded := s.succeeded ++ [(fetch.announcement, image)] }

/-- An exception in `fetchImage`.  Nothing catches it, and `_fetchingImage` stays set. -/
def State.failed (s : State α) (n : ℕ) : State α :=
  { s with fetches := s.fetches.eraseIdx n }

/-- One event.  The listener is always ready; a fetch can only end while it is in flight. -/
def step (s : State α) : Event α → Option (State α)
  | .announced data => some (s.announced data)
  | .completed n image => s.fetches[n]?.map fun fetch => s.completed n fetch image
  | .failed n => s.fetches[n]?.map fun _ => s.failed n

/-- After `initState`: nothing has been announced and nothing is on display. -/
def start : State α where
  window := .initState
  fetches := []
  received := []
  started := []
  succeeded := []

/-- A mounted window. -/
def fetching : Machine (State α) (Event α) where
  init s := s = start
  step := step

/-! ## The property and the condition -/

/-- `image` was fetched for the announcement `k`, and for no later announcement has a
fetch succeeded: this is the image that should be on display. -/
def State.Latest (s : State α) (k : ℕ) (image : α) : Prop :=
  (k, image) ∈ s.succeeded ∧ ∀ fetched ∈ s.succeeded, fetched.1 ≤ k

/-- The window shows the image and the two times of the latest announcement whose fetch
succeeded, and nothing before there is one. -/
structure State.Shown (s : State α) : Prop where
  nothing : s.succeeded = [] →
    s.window.myImage = none ∧ s.window.myTime = none ∧ s.window.laterTime = none
  latest : ∀ k image, s.Latest k image → ∃ data, s.received[k]? = some data ∧
    s.window.myImage = some image ∧
    s.window.myTime = some (data.item2 - duration 4 0 0) ∧
    s.window.laterTime = some (data.item2 - duration 3 59 50)

/-- What following the announcements means in one state: `_fetchingImage` says whether a
fetch is in flight; and when none is, the latest announcement has had its fetch, and what
is shown is in order. -/
structure Current (s : State α) : Prop where
  flag : s.window._fetchingImage = true ↔ s.fetches ≠ []
  started : s.fetches = [] → s.received ≠ [] → s.received.length - 1 ∈ s.started
  shown : s.fetches = [] → s.Shown

/-- No fetch fails, and none completes when a later announcement has come.  It is a
condition on what the network does and when, read in the state before the step. -/
def Followed (s : State α) : Event α → Prop
  | .announced _ => True
  | .completed n _ => ∀ fetch ∈ s.fetches[n]?, fetch.announcement + 1 = s.received.length
  | .failed _ => False

/-! ## The invariant -/

/-- What is in flight and on display, on every run: at most one fetch, whose announcement
is later than every one that has succeeded, and none while the flag is clear. -/
structure Inv (s : State α) : Prop where
  mounted : s.window.mounted = true
  single : s.fetches.length ≤ 1
  idle : s.window._fetchingImage = false → s.fetches = []
  told : ∀ fetch ∈ s.fetches, s.received[fetch.announcement]? = some fetch.data ∧
    fetch.announcement ∈ s.started ∧ (∀ k ∈ s.started, k ≤ fetch.announcement) ∧
      ∀ fetched ∈ s.succeeded, fetched.1 < fetch.announcement
  started : ∀ k ∈ s.started, k < s.received.length
  succeeded : ∀ fetched ∈ s.succeeded, fetched.1 ∈ s.started
  shown : s.Shown

theorem inv_start : Inv (start : State α) := by
  refine ⟨rfl, Nat.zero_le 1, fun _ => rfl, ?_, ?_, ?_, fun _ => ⟨rfl, rfl, rfl⟩, ?_⟩
  · exact fun fetch mem => absurd mem List.not_mem_nil
  · exact fun k mem => absurd mem List.not_mem_nil
  · exact fun fetched mem => absurd mem List.not_mem_nil
  · exact fun k image latest => absurd latest.1 List.not_mem_nil

/-- The fetch that ends is the only one. -/
theorem Inv.fetches_eq {s : State α} (inv : Inv s) {n : ℕ} {fetch : Fetch}
    (at_n : s.fetches[n]? = some fetch) : s.fetches = [fetch] ∧ s.fetches.eraseIdx n = [] := by
  have single := inv.single
  generalize s.fetches = fetches at at_n single ⊢
  match fetches, single with
  | [], _ => cases at_n
  | [only], _ =>
      cases n with
      | zero =>
          obtain rfl := Option.some.inj at_n
          exact ⟨rfl, rfl⟩
      | succ n => cases at_n

/-- What is shown stays in order when an announcement is received. -/
theorem State.Shown.received {s t : State α} (shown : s.Shown) (data : ImageData)
    (window : t.window.myImage = s.window.myImage ∧ t.window.myTime = s.window.myTime ∧
      t.window.laterTime = s.window.laterTime)
    (received : t.received = s.received ++ [data]) (succeeded : t.succeeded = s.succeeded) :
    t.Shown := by
  obtain ⟨myImage, myTime, laterTime⟩ := window
  constructor
  · intro none
    rw [myImage, myTime, laterTime]
    exact shown.nothing (succeeded ▸ none)
  · intro k image latest
    have before : s.Latest k image := by
      unfold State.Latest at latest
      rw [succeeded] at latest
      exact latest
    obtain ⟨data', told, shows⟩ := shown.latest k image before
    rw [myImage, myTime, laterTime, received]
    exact ⟨data', getElem?_append_of_some told [data], shows⟩

/-- The listener, by whether it starts a fetch. -/
theorem announced_cases {s : State α} (inv : Inv s) (data : ImageData) :
    (s.window._fetchingImage = false ∧ s.announced data =
        { s with
          window := { s.window with _fetchingImage := true }
          fetches := [⟨s.received.length, data⟩]
          received := s.received ++ [data]
          started := s.started ++ [s.received.length] }) ∨
      (s.window._fetchingImage = true ∧
        s.announced data = { s with received := s.received ++ [data] }) := by
  have fetches : s.window.fetches = !s.window._fetchingImage := by
    unfold WindowState.fetches
    rw [inv.mounted, Bool.true_and]
  unfold State.announced WindowState.listen
  rw [fetches]
  cases flag : s.window._fetchingImage with
  | false =>
      rw [inv.idle flag]
      exact Or.inl ⟨rfl, rfl⟩
  | true => exact Or.inr ⟨rfl, rfl⟩

theorem Inv.announced {s : State α} (inv : Inv s) (data : ImageData) : Inv (s.announced data) := by
  have grown : ∀ k ∈ s.started, k < (s.received ++ [data]).length := fun k mem => by
    rw [List.length_append]
    exact Nat.lt_add_right _ (inv.started k mem)
  rcases announced_cases inv data with ⟨flag, same⟩ | ⟨flag, same⟩
  · rw [same]
    refine ⟨inv.mounted, Nat.le_refl 1, fun other => (by cases other), ?_, ?_, ?_, ?_⟩
    · intro fetch mem
      obtain rfl := List.mem_singleton.mp mem
      refine ⟨?_, List.mem_append_right _ (List.mem_singleton_self _), ?_, ?_⟩
      · exact List.getElem?_concat_length
      · intro k mem
        rcases List.mem_append.mp mem with before | last
        · exact Nat.le_of_lt (inv.started k before)
        · exact Nat.le_of_eq (List.mem_singleton.mp last)
      · exact fun fetched mem => inv.started _ (inv.succeeded fetched mem)
    · intro k mem
      rcases List.mem_append.mp mem with before | last
      · exact grown k before
      · rw [List.mem_singleton.mp last, List.length_append]
        exact Nat.lt_succ_self _
    · exact fun fetched mem => List.mem_append_left _ (inv.succeeded fetched mem)
    · exact inv.shown.received data ⟨rfl, rfl, rfl⟩ rfl rfl
  · rw [same]
    refine ⟨inv.mounted, inv.single, inv.idle, ?_, grown, inv.succeeded, ?_⟩
    · intro fetch mem
      obtain ⟨told, rest⟩ := inv.told fetch mem
      exact ⟨getElem?_append_of_some told [data], rest⟩
    · exact inv.shown.received data ⟨rfl, rfl, rfl⟩ rfl rfl

/-- **The callback shows the latest announcement whose fetch succeeded**, since the fetch
that ends is the only one in flight and later than all that have ended. -/
theorem Inv.completed {s : State α} (inv : Inv s) {n : ℕ} {fetch : Fetch}
    (at_n : s.fetches[n]? = some fetch) (image : α) : Inv (s.completed n fetch image) := by
  obtain ⟨-, erased⟩ := inv.fetches_eq at_n
  have mem : fetch ∈ s.fetches := List.mem_of_getElem? at_n
  obtain ⟨told, started, -, later⟩ := inv.told fetch mem
  have window : s.window.imageFetched fetch.data image =
      { s.window with
        _fetchingImage := false
        myImage := some image
        myTime := some (fetch.data.item2 - duration 4 0 0)
        laterTime := some (fetch.data.item2 - duration 3 59 50) } := if_pos inv.mounted
  unfold State.completed
  rw [window, erased]
  refine ⟨inv.mounted, Nat.zero_le 1, fun _ => rfl, ?_, inv.started, ?_, ?_, ?_⟩
  · exact fun fetch' mem' => absurd mem' List.not_mem_nil
  · intro fetched mem'
    rcases List.mem_append.mp mem' with before | last
    · exact inv.succeeded fetched before
    · rw [List.mem_singleton.mp last]
      exact started
  · intro none
    exact absurd none (by simp)
  · intro k image' latest
    -- the fetch that succeeded last is for the latest of these announcements
    have same : (k, image') = (fetch.announcement, image) := by
      have last := latest.2 _ (List.mem_append_right _ (List.mem_singleton_self _))
      rcases List.mem_append.mp latest.1 with before | new
      · exact absurd (later _ before) (Nat.not_lt.mpr last)
      · exact List.mem_singleton.mp new
    obtain ⟨rfl, rfl⟩ := Prod.mk.inj same
    exact ⟨fetch.data, told, rfl, rfl, rfl⟩

theorem Inv.failed {s : State α} (inv : Inv s) {n : ℕ} {fetch : Fetch}
    (at_n : s.fetches[n]? = some fetch) : Inv (s.failed n) := by
  obtain ⟨-, erased⟩ := inv.fetches_eq at_n
  unfold State.failed
  rw [erased]
  refine ⟨inv.mounted, Nat.zero_le 1, fun _ => rfl, ?_, inv.started, inv.succeeded,
    ⟨inv.shown.nothing, inv.shown.latest⟩⟩
  exact fun fetch' mem' => absurd mem' List.not_mem_nil

/-- **The step invariant**, without any assumption on the network: fetches may fail and
complete late. -/
theorem Inv.step {s t : State α} {e : Event α} (inv : Inv s) (h : step s e = some t) :
    Inv t := by
  cases e with
  | announced data =>
      obtain rfl := Option.some.inj h
      exact inv.announced data
  | completed n image =>
      obtain ⟨fetch, at_n, rfl⟩ := Option.map_eq_some_iff.mp h
      exact inv.completed at_n image
  | failed n =>
      obtain ⟨fetch, at_n, rfl⟩ := Option.map_eq_some_iff.mp h
      exact inv.failed at_n

/-! ## Following the announcements -/

/-- **One step keeps the window current exactly if it is followed.**  A failed fetch
leaves the flag set with nothing in flight; a late one leaves the latest announcement
without a fetch. -/
theorem current_step_iff {s t : State α} {e : Event α} (inv : Inv s) (current : Current s)
    (h : step s e = some t) : Current t ↔ Followed s e := by
  have after := inv.step h
  cases e with
  | announced data =>
      obtain rfl := Option.some.inj h
      refine iff_of_true ?_ trivial
      rcases announced_cases inv data with ⟨flag, same⟩ | ⟨flag, same⟩
      · rw [same]
        exact ⟨iff_of_true rfl (by simp), fun none => (by cases none), fun none => (by cases none)⟩
      · have busy := current.flag.mp flag
        rw [same]
        exact ⟨current.flag, fun none => absurd none busy, fun none => absurd none busy⟩
  | completed n image =>
      obtain ⟨fetch, at_n, rfl⟩ := Option.map_eq_some_iff.mp h
      have mem : fetch ∈ s.fetches := List.mem_of_getElem? at_n
      obtain ⟨told, started, latest, -⟩ := inv.told fetch mem
      obtain ⟨-, erased⟩ := inv.fetches_eq at_n
      have arrived : fetch.announcement < s.received.length := inv.started _ started
      have followed : Followed s (.completed n image) ↔
          fetch.announcement + 1 = s.received.length := by
        show (∀ fetch' ∈ s.fetches[n]?, fetch'.announcement + 1 = s.received.length) ↔ _
        rw [at_n]
        simp
      have fetches : (s.completed n fetch image).fetches = [] := erased
      rw [followed]
      constructor
      · intro current'
        have some : s.received ≠ [] := List.ne_nil_of_length_pos (by omega)
        have newest := latest _ (current'.started fetches some)
        change s.received.length - 1 ≤ _ at newest
        omega
      · intro newest
        refine ⟨?_, fun _ _ => ?_, fun _ => after.shown⟩
        · refine iff_of_false ?_ fun busy => busy fetches
          show ¬ (s.window.imageFetched fetch.data image)._fetchingImage = true
          rw [WindowState.imageFetched, if_pos inv.mounted]
          exact Bool.false_ne_true
        · show s.received.length - 1 ∈ s.started
          rw [← newest, Nat.add_sub_cancel]
          exact started
  | failed n =>
      obtain ⟨fetch, at_n, rfl⟩ := Option.map_eq_some_iff.mp h
      obtain ⟨-, erased⟩ := inv.fetches_eq at_n
      refine iff_of_false ?_ id
      intro current'
      -- the flag is still set, and nothing is in flight any more
      have flag : s.window._fetchingImage = true :=
        current.flag.mpr (List.ne_nil_of_mem (List.mem_of_getElem? at_n))
      exact current'.flag.mp flag erased

/-- **The window is current throughout a run exactly if no fetch fails and none completes
late**, whatever the order of announcements and fetches.  The equivalence is that of one
step (`current_step_iff`), carried along the run by `Inv`. -/
theorem current_iff_followed (es : List (Event α)) :
    (fetching (α := α)).Throughout Current start es ↔ fetching.Along Followed start es := by
  refine fetching.throughout_iff_along Inv (fun _ _ _ inv _ h _ => inv.step h)
    (fun _ _ _ inv current h => current_step_iff inv current h) inv_start ⟨?_, ?_, ?_⟩
  · exact iff_of_false Bool.false_ne_true fun some => some rfl
  · exact fun _ some => absurd rfl some
  · exact fun _ => inv_start.shown

/-- A page that has shown one image, and whose fetch for the second announcement fails. -/
def transientError : List (Event ℕ) :=
  [.announced ⟨"0.jpg", 20⟩, .completed 0 7, .announced ⟨"1.jpg", 22⟩, .failed 0]

/-- The third announcement and all later ones are discarded: one transient error is
enough. -/
theorem not_current_transientError :
    ¬ (fetching (α := ℕ)).Throughout Current start transientError := by
  intro current
  have last := current.last (t := _) _ rfl
  exact absurd (last.flag.mp rfl) (by decide)

end SpectrogramServers.FlutterSite.ImageFetching
