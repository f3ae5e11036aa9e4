import Mathlib.Data.List.Infix
import SpectrogramServers.Lib.Lists
import SpectrogramServers.Lib.Machine
import SpectrogramServers.MyServer.ImageSchedule

/-!
# Handing rows to the image thread

`writeToBuffer` publishes a spectrum row by copying it into `magnitude_buffer` and then,
outside `image_mutex`, calling `image_cv.notify_all()`.  The image thread loops over
`image_cv.wait(lock)`, which has no predicate, and the pass `rowEvent` over whatever
`magnitude_buffer` then holds.

## The machine

The copy and the notification are two steps, since the image thread can go to wait between
them.  The wait is three: blocking, being woken, and the pass, which begins with the
mutex.  A wake-up may be spurious.  Rows carry the number of the `copy` that published
them, so that two rows with equal contents are not confused; the contents before the first
copy carry none.

## No handshake

The load-bearing fact is that the code has no handshake at all: the rows are handed over
exactly as long as the scheduler makes copies and passes alternate
(`handedOver_iff_alternate`).  Three things break the alternation:

* a notification that falls between two iterations of the image thread, and is lost;
* a second copy before the thread has reacquired the mutex, which overwrites the first;
* a spurious wake-up, after which the last row is appended once more.

`HandedOver` looks at the images too: every image, open or published, holds a contiguous
run of the rows that were published.  This is where the schedule of `ImageSchedule` meets
the handover.
-/

namespace SpectrogramServers.MyServer.RowHandover

universe u

variable {α : Type u}

/-- A row with the number of the copy it came from. -/
abbrev Row (α : Type u) := Option ℕ × α

/-- Where `writeToBuffer` stands: outside its last two statements, or between
the copy and `notify_all`. -/
inductive Producer where
  | idle
  | copied
  deriving DecidableEq

/-- Where the image thread stands: about to lock `image_mutex`, blocked in
`image_cv.wait`, or woken and about to reacquire `image_mutex`. -/
inductive Consumer where
  | top
  | waiting
  | woken
  deriving DecidableEq

/-- The shared state.  `published` and `appended` are history: the rows copied
into `magnitude_buffer`, and the rows the passes have appended; `unread` says
that a copy has been made since the last pass. -/
structure State (α : Type u) where
  producer : Producer
  consumer : Consumer
  magnitude_buffer : Row α
  images : ImageThread.State (Row α)
  unread : Bool
  published : List (Row α)
  appended : List (Row α)

inductive Event (α : Type u) where
  /-- `memcpy` into `magnitude_buffer` under `image_mutex`. -/
  | copy (local_buffer : α)
  /-- `image_cv.notify_all()`. -/
  | notify_all
  /-- The image thread locks `image_mutex` and blocks in `image_cv.wait`. -/
  | wait
  /-- A spurious wake-up. -/
  | wake
  /-- The image thread, woken, reacquires `image_mutex` and makes its pass. -/
  | pass (now : ℤ)

/-- The pass of the image thread. -/
def State.pass (put_time : ℤ → String) (s : State α) (now : ℤ) : State α :=
  { s with
    consumer := .top
    images := s.images.rowEvent put_time s.magnitude_buffer now
    unread := false
    appended := s.appended ++ [s.magnitude_buffer] }

/-- The copy of `writeToBuffer`. -/
def State.copy (s : State α) (local_buffer : α) : State α :=
  { s with
    producer := .copied
    magnitude_buffer := (some s.published.length, local_buffer)
    unread := true
    published := s.published ++ [(some s.published.length, local_buffer)] }

/-- `notify_all` wakes the image thread if it is waiting, and nobody otherwise. -/
def Consumer.notified : Consumer → Consumer
  | .waiting => .woken
  | other => other

def step (put_time : ℤ → String) (s : State α) : Event α → Option (State α)
  | .copy local_buffer => if s.producer = .idle then some (s.copy local_buffer) else none
  | .notify_all =>
      if s.producer = .copied then
        some { s with producer := .idle, consumer := s.consumer.notified }
      else none
  | .wait => if s.consumer = .top then some { s with consumer := .waiting } else none
  | .wake => if s.consumer = .waiting then some { s with consumer := .woken } else none
  | .pass now => if s.consumer = .woken then some (s.pass put_time now) else none

/-- Both threads before their first step. -/
def start (magnitude_buffer : α) (file_times : Fin 4 → ℤ)
    (jpeg_structs : Fin 4 → ImageThread.JpegCompress (Row α)) : State α where
  producer := .idle
  consumer := .top
  magnitude_buffer := (none, magnitude_buffer)
  images := ImageThread.start file_times jpeg_structs
  unread := false
  published := []
  appended := []

/-- `writeToBuffer` and the image thread. -/
def handover (α : Type u) (put_time : ℤ → String) : Machine (State α) (Event α) where
  init s := ∃ magnitude_buffer file_times jpeg_structs,
    s = start magnitude_buffer file_times jpeg_structs
  step := step put_time

/-! ## The property and the condition it depends on -/

/-- Rows are handed over without loss: the passes have appended the published
rows in order, each once, all but at most the one in the buffer, and every image
holds a contiguous run of them. -/
structure HandedOver (s : State α) : Prop where
  inOrder : s.appended <+: s.published
  noneOverwritten : s.published.length ≤ s.appended.length + 1
  openImages : ∀ r m, (s.images.slots r).file_pointer = some m →
    (s.images.slots r).jpeg_struct.scanlines <:+: s.published
  publishedImages : ∀ image ∈ s.images.published, image.scanlines <:+: s.published

/-- Copies and passes alternate: a copy is made when the last row copied has
been read, a pass when there is a row that has not. -/
def Alternate (s : State α) : Event α → Prop
  | .copy _ => s.unread = false
  | .pass _ => s.unread = true
  | _ => True

instance (s : State α) (e : Event α) : Decidable (Alternate s e) := by
  cases e <;> unfold Alternate <;> infer_instance

/-! ## What a step can do -/

/-- A step is a copy, a pass, or moves the two threads without touching a row. -/
inductive StepOutcome (put_time : ℤ → String) (s : State α) :
    Event α → State α → Prop
  | copy (local_buffer : α) : StepOutcome put_time s (.copy local_buffer) (s.copy local_buffer)
  | pass (now : ℤ) : StepOutcome put_time s (.pass now) (s.pass put_time now)
  | quiet (e : Event α) (producer : Producer) (consumer : Consumer) :
      (∀ t : State α, Alternate t e) →
      StepOutcome put_time s e { s with producer := producer, consumer := consumer }

theorem step_cases {put_time : ℤ → String} {s t : State α} {e : Event α}
    (h : step put_time s e = some t) : StepOutcome put_time s e t := by
  cases e with
  | copy local_buffer =>
      obtain ⟨-, rfl⟩ := guarded_eq_some h
      exact .copy local_buffer
  | notify_all =>
      obtain ⟨-, rfl⟩ := guarded_eq_some h
      exact .quiet _ _ _ fun _ => trivial
  | wait =>
      obtain ⟨-, rfl⟩ := guarded_eq_some h
      exact .quiet _ _ _ fun _ => trivial
  | wake =>
      obtain ⟨-, rfl⟩ := guarded_eq_some h
      exact .quiet _ _ _ fun _ => trivial
  | pass now =>
      obtain ⟨-, rfl⟩ := guarded_eq_some h
      exact .pass now

/-! ## The invariant -/

/-- What holds whatever the schedule: the images follow the rows appended, no
row carries a number not given out yet, and `unread` says whether the row in the
buffer has been appended. -/
structure Consistent (put_time : ℤ → String) (s : State α) : Prop where
  images : ∃ events : List (Row α × ℤ), events.map Prod.fst = s.appended ∧
    ImageThread.Follows put_time events s.images
  known : ∀ row, row = s.magnitude_buffer ∨ row ∈ s.appended ∨ row ∈ s.published →
    ∀ i, row.1 = some i → i < s.published.length
  distinct : s.published.Nodup
  unread : s.unread = true →
    s.published.getLast? = some s.magnitude_buffer ∧ s.magnitude_buffer ∉ s.appended
  read : s.unread = false →
    (∀ row, s.published.getLast? = some row → row = s.magnitude_buffer) ∧
      (s.magnitude_buffer ∈ s.appended ∨ s.published = [])

theorem Consistent.fresh {put_time : ℤ → String} {s : State α} (h : Consistent put_time s)
    (local_buffer : α) :
    (some s.published.length, local_buffer) ∉ s.appended ∧
      (some s.published.length, local_buffer) ∉ s.published := by
  constructor
  · intro member
    exact absurd (h.known _ (Or.inr (Or.inl member)) _ rfl) (Nat.lt_irrefl _)
  · intro member
    exact absurd (h.known _ (Or.inr (Or.inr member)) _ rfl) (Nat.lt_irrefl _)

theorem consistent_start {put_time : ℤ → String} {s : State α}
    (h : (handover α put_time).init s) : Consistent put_time s := by
  obtain ⟨magnitude_buffer, file_times, jpeg_structs, rfl⟩ := h
  have images : ImageThread.Follows put_time [] (ImageThread.start file_times jpeg_structs) :=
    ImageThread.follows_start file_times jpeg_structs
  refine ⟨⟨[], rfl, images⟩, ?_, List.nodup_nil, ?_, ?_⟩
  · rintro row (rfl | member | member) i number
    · cases number
    · cases member
    · cases member
  · intro unread
    cases unread
  · intro _
    exact ⟨fun row last => (by cases last), Or.inr rfl⟩

/-- **The step lemma.** -/
theorem Consistent.step {put_time : ℤ → String} {s t : State α} {e : Event α}
    (h : Consistent put_time s) (hstep : step put_time s e = some t) :
    Consistent put_time t := by
  cases step_cases hstep with
  | copy local_buffer =>
      have longer : s.published.length <
          (s.published ++ [((some s.published.length, local_buffer) : Row α)]).length := by
        simp
      obtain ⟨notAppended, notPublished⟩ := h.fresh local_buffer
      refine ⟨h.images, ?_, ?_, ?_, ?_⟩
      · intro row place i number
        rcases place with rfl | appended | published
        · obtain rfl : s.published.length = i := Option.some.inj number
          exact longer
        · exact (h.known row (Or.inr (Or.inl appended)) i number).trans longer
        · rcases List.mem_append.mp published with earlier | new
          · exact (h.known row (Or.inr (Or.inr earlier)) i number).trans longer
          · rw [List.mem_singleton.mp new] at number
            obtain rfl : s.published.length = i := Option.some.inj number
            exact longer
      · exact nodup_append_singleton h.distinct notPublished
      · intro _
        exact ⟨List.getLast?_concat, notAppended⟩
      · intro read
        cases read
  | pass now =>
      -- a pass appends what the buffer holds, whether it has been appended before or not
      obtain ⟨events, rows, follows⟩ := h.images
      refine ⟨⟨events ++ [(s.magnitude_buffer, now)], ?_, follows.rowEvent _⟩, ?_,
        h.distinct, ?_, ?_⟩
      · rw [List.map_append, rows]
        rfl
      · rintro row (rfl | appended | published) i number
        · exact h.known _ (Or.inl rfl) i number
        · rcases List.mem_append.mp appended with earlier | new
          · exact h.known row (Or.inr (Or.inl earlier)) i number
          · exact h.known row (Or.inl (List.mem_singleton.mp new)) i number
        · exact h.known row (Or.inr (Or.inr published)) i number
      · intro unread
        cases unread
      · intro _
        refine ⟨fun row last => ?_, Or.inl (List.mem_append_right _ (List.mem_singleton_self _))⟩
        cases state : s.unread with
        | true =>
            have buffer := (h.unread state).1
            exact Option.some.inj (last.symm.trans buffer)
        | false => exact (h.read state).1 row last
  | quiet e producer consumer _ => exact ⟨h.images, h.known, h.distinct, h.unread, h.read⟩

/-! ## Where the passes stand -/

/-- As long as rows are handed over, `unread` says whether the last published row
is still to be appended. -/
theorem HandedOver.appended_eq {put_time : ℤ → String} {s : State α} (good : HandedOver s)
    (h : Consistent put_time s) :
    if s.unread then s.published = s.appended ++ [s.magnitude_buffer]
    else s.published = s.appended := by
  obtain ⟨rest, split⟩ := good.inOrder
  -- `rest` is what is published and not appended
  have short : rest.length ≤ 1 := by
    have bound := good.noneOverwritten
    rw [← split, List.length_append] at bound
    omega
  cases state : s.unread with
  | true =>
      obtain ⟨last, notAppended⟩ := h.unread state
      rw [if_pos rfl]
      rcases rest with _ | ⟨row, rest⟩
      · rw [List.append_nil] at split
        rw [← split] at last
        exact absurd (List.mem_of_getLast? last) notAppended
      · obtain rfl : rest = [] := List.eq_nil_of_length_eq_zero (by simpa using short)
        rw [← split, List.getLast?_concat] at last
        rw [← split, Option.some.inj last]
  | false =>
      obtain ⟨last, place⟩ := h.read state
      rw [if_neg (by simp)]
      rcases rest with _ | ⟨row, rest⟩
      · rw [← split, List.append_nil]
      · obtain rfl : rest = [] := List.eq_nil_of_length_eq_zero (by simpa using short)
        rw [← split, List.getLast?_concat] at last
        rcases place with appended | nothing
        · have distinct := h.distinct
          rw [← split, last row rfl] at distinct
          exact absurd rfl ((List.nodup_append.mp distinct).2.2 _ appended _
            (List.mem_singleton_self _))
        · rw [nothing] at split
          simp at split

/-- Rows appended in order are what every image holds a contiguous run of. -/
theorem handedOver_of_inOrder {put_time : ℤ → String} {s : State α}
    (h : Consistent put_time s) (inOrder : s.appended <+: s.published)
    (noneOverwritten : s.published.length ≤ s.appended.length + 1) : HandedOver s := by
  obtain ⟨events, rows, follows⟩ := h.images
  have run : ∀ a b, ImageThread.rowsBetween events a b <:+: s.published := by
    intro a b
    have inside : ImageThread.rowsBetween events a b <:+: s.appended := by
      rw [ImageThread.rowsBetween, rows]
      exact (List.take_prefix _ _).isInfix.trans (List.drop_suffix _ _).isInfix
    exact inside.trans inOrder.isInfix
  refine ⟨inOrder, noneOverwritten, fun r m holds => ?_, fun image member => ?_⟩
  · rw [follows.scanlines holds]
    exact run _ _
  · obtain ⟨m, found⟩ := List.mem_iff_getElem?.mp member
    rw [(follows.published m image found).scanlines]
    exact run _ _

theorem handedOver_start {put_time : ℤ → String} {s : State α}
    (h : (handover α put_time).init s) : HandedOver s := by
  have consistent := consistent_start h
  obtain ⟨magnitude_buffer, file_times, jpeg_structs, rfl⟩ := h
  exact handedOver_of_inOrder consistent (List.prefix_refl []) (Nat.zero_le _)

/-- **One step keeps the hand-over intact exactly when it alternates.** -/
theorem HandedOver.step_iff {put_time : ℤ → String} {s t : State α} {e : Event α}
    (good : HandedOver s) (h : Consistent put_time s)
    (hstep : step put_time s e = some t) : HandedOver t ↔ Alternate s e := by
  have next := h.step hstep
  have rows := good.appended_eq h
  cases step_cases hstep with
  | copy local_buffer =>
      rw [Alternate]
      cases state : s.unread with
      | false =>
          rw [state, if_neg (by simp)] at rows
          refine iff_of_true ?_ rfl
          apply handedOver_of_inOrder next
          · rw [State.copy, rows]
            exact List.prefix_append _ _
          · rw [State.copy, rows, List.length_append]
            rfl
      | true =>
          rw [state, if_pos rfl] at rows
          refine iff_of_false (fun good => ?_) (by simp)
          have bound := good.noneOverwritten
          rw [State.copy] at bound
          simp [rows] at bound
  | pass now =>
      rw [Alternate]
      cases state : s.unread with
      | true =>
          rw [state, if_pos rfl] at rows
          refine iff_of_true ?_ rfl
          apply handedOver_of_inOrder next
          · rw [State.pass, rows]
          · rw [State.pass, rows]
            exact Nat.le_succ _
      | false =>
          rw [state, if_neg (by simp)] at rows
          refine iff_of_false (fun good => ?_) (by simp)
          have bound := good.inOrder.length_le
          rw [State.pass, rows, List.length_append, List.length_singleton] at bound
          omega
  | quiet e producer consumer quiet =>
      exact iff_of_true
        ⟨good.inOrder, good.noneOverwritten, good.openImages, good.publishedImages⟩ (quiet s)

/-- **The hand-over is intact exactly as long as copies and passes alternate**, on every
interleaving of `writeToBuffer` with the image thread.  The equivalence is that of one
step (`HandedOver.step_iff`): a second copy loses a row, and a second pass repeats one. -/
theorem handedOver_iff_alternate (put_time : ℤ → String) (magnitude_buffer : α)
    (file_times : Fin 4 → ℤ) (jpeg_structs : Fin 4 → ImageThread.JpegCompress (Row α))
    (events : List (Event α)) :
    (handover α put_time).Throughout HandedOver
        (start magnitude_buffer file_times jpeg_structs) events ↔
      (handover α put_time).Along Alternate
        (start magnitude_buffer file_times jpeg_structs) events := by
  have initial : (handover α put_time).init
      (start magnitude_buffer file_times jpeg_structs) := ⟨_, _, _, rfl⟩
  exact (handover α put_time).throughout_iff_along (Consistent put_time)
    (fun _ _ _ hs _ hstep _ => hs.step hstep)
    (fun _ _ _ hs good hstep => good.step_iff hs hstep)
    (consistent_start initial) (handedOver_start initial)

/-- The second notification falls between two iterations of the image thread. -/
def lostNotification : List (Event ℕ) :=
  [.wait, .copy 10, .notify_all, .pass 0, .copy 11, .notify_all, .wait, .copy 12,
    .notify_all, .pass 1]

/-- The first image then has the rows 0 and 2, and not row 1, although every copy was
followed by its notification. -/
theorem not_handedOver_after_lostNotification :
    ∃ s, (handover ℕ fun _ => "").run
        (start 0 (fun _ => 0) fun _ => ImageThread.jpeg_start_compress)
        lostNotification = some s ∧
      (s.images.slots 0).file_pointer = some 0 ∧
      (s.images.slots 0).jpeg_struct.scanlines = [(some 0, 10), (some 2, 12)] ∧
      ¬ HandedOver s := by
  refine ⟨_, rfl, by decide +kernel, by decide +kernel, fun good => ?_⟩
  have run := good.inOrder
  revert run
  decide +kernel

end SpectrogramServers.MyServer.RowHandover
