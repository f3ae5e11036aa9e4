import Mathlib.Data.List.FinRange
import SpectrogramServers.CloudServer.Announcements
import SpectrogramServers.CloudServer.Capture
import SpectrogramServers.FlutterSite.SpectrogramWindow

/-!
# The image and the time that the web page shows

Capture thread `i` has `jpegtran` write `i.jpg` over the picture of the cycle before and
announces it.  The announcement reaches a client some time later; the client asks for the
file by its name, and the server reads it in parts, one after the other, while the thread
may have started its next cycle.  The image that is shown should be the one that was
announced.

## Which cycle a file is from

The idea is to give every file the cycle whose `jpegtran` wrote it and the cycle whose
picture was flipped, and every announcement the number of times its file had been
rewritten when it was made.  These are history.  The load-bearing fact is
`Announcement.Tracks`: the file of a thread holds what an announcement announced exactly
as long as `jpegtran` has not opened it again, provided it held it in the first place.

## The condition

So a window shows the image and the time of one announcement on exactly the runs on which
every fetch that completes was undisturbed (`bound_iff_undisturbed`): the announced file
was whole, and no part of it was read after the thread's next `jpegtran` had begun.  It is
a race between the next cycle of the thread and the network, and nothing in the code
decides it, since the name of a thread is the same in every cycle.

`jpegtran` and the reads are the environment's.  A file that is being written may be read
with any part of it missing, and a `jpegtran` that fails may leave the file as it was or
with anything in it.
-/

namespace SpectrogramServers.FlutterSite.ImageTime

open CloudServer.Capture

universe u

/-- The file `i.jpg`: the cycle whose `jpegtran` wrote it, and the picture it
flipped. -/
structure ImageFile (σ : Type u) where
  cycle : ℕ
  picture : Stored (Jpeg σ)

/-- Where a cycle stands: `jpegtran` not started, running, or ended; `whole` is
whether the picture of the cycle is in the file then. -/
inductive Place where
  | capturing
  | flipping
  | flipped (whole : Bool)
  deriving DecidableEq

/-- A capture thread and its file.  `rewrites` is history: how often `jpegtran` has
opened the file for writing. -/
structure CaptureThread (σ : Type u) where
  cycle : ℕ
  place : Place
  jpg : Option (ImageFile σ)
  rewrites : ℕ

/-- A message and, as history, the cycle that announced it, whether that cycle had
written its whole picture, and how often the file had been rewritten by then. -/
structure Announcement where
  thread : Fin 10
  cycle : ℕ
  whole : Bool
  rewrites : ℕ
  message : Json

/-- One read of the server from the requested file, with the number of rewrites of
that file as history. -/
structure Part (σ : Type u) where
  thread : Fin 10
  file : ImageFile σ
  rewrites : ℕ

/-- A fetch in flight: the announcement it answers, the `data` its callback has, and
what has been read for it. -/
structure Fetch (σ : Type u) where
  announcement : Announcement
  data : ImageData
  parts : List (Part σ)

/-- The capture threads, the announcements made, and one client.  An image is what its
response was read from; `shown` is the announcement that started its fetch. -/
structure State (σ : Type u) where
  threads : Fin 10 → CaptureThread σ
  sample_json : Json
  announcements : List Announcement
  window : WindowState (List (Part σ))
  fetch : Option (Fetch σ)
  shown : Option Announcement

inductive Event (σ : Type u) where
  /-- `jpegtran` of thread `i` opens `i.jpg` for writing. -/
  | jpegtran (i : Fin 10)
  /-- It ends, having written this picture. -/
  | flipped (i : Fin 10) (picture : Stored (Jpeg σ))
  /-- It ends without having opened `i.jpg`. -/
  | unflipped (i : Fin 10)
  /-- Thread `i` announces. -/
  | announce (i : Fin 10) (scheduleTime : ℤ)
  /-- The cycle of thread `i` ends at a `continue`. -/
  | continued (i : Fin 10)
  /-- The `k`-th announcement reaches the listener of the client. -/
  | deliver (k : ℕ)
  /-- The server reads the next part of the requested file. -/
  | read
  /-- The fetch completes: the file has been read to its end and decoded. -/
  | complete
  /-- The fetch fails. -/
  | fail
  /-- The window is disposed of. -/
  | dispose

/-! ## The capture threads -/

def imageName (i : Fin 10) : String := toString (i : ℕ) ++ ".jpg"

/-- The thread whose file has this name. -/
def owner (name : String) : Option (Fin 10) :=
  (List.finRange 10).find? fun i => imageName i = name

theorem owner_imageName (i : Fin 10) : owner (imageName i) = some i := by
  revert i
  decide

/-- All the scanlines are there. -/
def isComplete {σ : Type u} : Jpeg σ → Bool
  | .complete _ => true
  | .incomplete => false

/-- The file is the complete picture of this cycle, written by this cycle. -/
def ImageFile.Whole {σ : Type u} (file : ImageFile σ) (cycle : ℕ) : Prop :=
  file.cycle = cycle ∧ file.picture.cycle = cycle ∧ isComplete file.picture.contents

instance {σ : Type u} (file : ImageFile σ) (cycle : ℕ) : Decidable (file.Whole cycle) :=
  inferInstanceAs (Decidable (_ ∧ _ ∧ _))

namespace CaptureThread

variable {σ : Type u}

/-- `fopen` of the output file by `jpegtran`, which truncates it. -/
def jpegtran (thread : CaptureThread σ) : CaptureThread σ :=
  { thread with
    place := .flipping
    jpg := some ⟨thread.cycle, thread.cycle, .incomplete⟩
    rewrites := thread.rewrites + 1 }

def flipped (picture : Stored (Jpeg σ)) (thread : CaptureThread σ) : CaptureThread σ :=
  { thread with
    place := .flipped (decide ((ImageFile.mk thread.cycle picture).Whole thread.cycle))
    jpg := some ⟨thread.cycle, picture⟩ }

def unflipped (thread : CaptureThread σ) : CaptureThread σ :=
  { thread with place := .flipped false }

/-- The next turn of `while (true)`. -/
def next (thread : CaptureThread σ) : CaptureThread σ :=
  { thread with cycle := thread.cycle + 1, place := .capturing }

/-- `Place.flipped` with what it says. -/
def whole? (thread : CaptureThread σ) : Option Bool :=
  match thread.place with
  | .flipped whole => some whole
  | _ => none

end CaptureThread

section Steps

variable {σ : Type u} (put_time : ℤ → String) (parse : String → Option ℤ)

def State.setThread (s : State σ) (i : Fin 10) (thread : CaptureThread σ) : State σ :=
  { s with threads := Function.update s.threads i thread }

/-- A step of thread `i`, taken only where it stands at `place`. -/
def State.moveThread (s : State σ) (i : Fin 10) (enabled : CaptureThread σ → Bool)
    (move : CaptureThread σ → CaptureThread σ) : Option (State σ) :=
  if enabled (s.threads i) then some (s.setThread i (move (s.threads i))) else none

/-- The critical section of thread `i` and the end of its cycle. -/
def State.announce (s : State σ) (i : Fin 10) (scheduleTime : ℤ) (whole : Bool) : State σ :=
  let message :=
    CloudServer.Announcements.announce put_time s.sample_json i scheduleTime
  { s.setThread i (s.threads i).next with
    sample_json := message
    announcements := s.announcements ++
      [⟨i, (s.threads i).cycle, whole, (s.threads i).rewrites, message⟩] }

/-! ## The client -/

/-- The listener receives `data`, sent by `announcement`. -/
def State.deliver (s : State σ) (announcement : Announcement) (data : ImageData) : State σ :=
  if s.window.fetches then
    { s with window := s.window.listen, fetch := some ⟨announcement, data, []⟩ }
  else s

/-- A read for the fetch, from the file of thread `i`. -/
def State.read (s : State σ) (fetch : Fetch σ) (i : Fin 10) (file : ImageFile σ) : State σ :=
  { s with
    fetch :=
      some { fetch with parts := fetch.parts ++ [⟨i, file, (s.threads i).rewrites⟩] } }

/-- The callback of the fetch. -/
def State.complete (s : State σ) (fetch : Fetch σ) : State σ :=
  { s with
    window := s.window.imageFetched fetch.data fetch.parts
    fetch := none
    shown := if s.window.mounted then some fetch.announcement else s.shown }

def step (s : State σ) : Event σ → Option (State σ)
  | .jpegtran i => s.moveThread i (fun thread => thread.place = .capturing)
      CaptureThread.jpegtran
  | .flipped i picture => s.moveThread i
      (fun thread => thread.place = .flipping ∧ picture.cycle ≤ thread.cycle)
      (CaptureThread.flipped picture)
  | .unflipped i => s.moveThread i (fun thread => thread.place = .capturing)
      CaptureThread.unflipped
  | .continued i => s.moveThread i (fun _ => true) CaptureThread.next
  | .announce i scheduleTime =>
      (s.threads i).whole?.map (s.announce put_time i scheduleTime)
  | .deliver k =>
      s.announcements[k]?.bind fun announcement =>
        (mySocketListenFunction parse announcement.message).map (s.deliver announcement)
  | .read =>
      s.fetch.bind fun fetch =>
        (owner fetch.data.item1).bind fun i => (s.threads i).jpg.map (s.read fetch i)
  | .complete =>
      s.fetch.bind fun fetch => if fetch.parts = [] then none else some (s.complete fetch)
  | .fail => s.fetch.map fun _ => { s with fetch := none }
  | .dispose => some { s with window := s.window.dispose }

/-- Before the first cycle; `jpg` is what an earlier process has left, which counts as
written in cycle 0. -/
def start (jpg : Fin 10 → Option (Jpeg σ)) : State σ where
  threads i := ⟨1, .capturing, (jpg i).map fun contents => ⟨0, 0, contents⟩, 0⟩
  sample_json := .null
  announcements := []
  window := .initState
  fetch := none
  shown := none

/-- The capture threads of `cloudServer` and one client. -/
def publishing : Machine (State σ) (Event σ) where
  init s := ∃ jpg, s = start jpg
  step := step put_time parse

end Steps

/-! ## The property and the condition -/

section Property

variable {σ : Type u} (parse : String → Option ℤ)

/-- The part was read from the complete picture of the cycle that announced. -/
def Part.ProducedBy (part : Part σ) (announcement : Announcement) : Prop :=
  part.thread = announcement.thread ∧ part.file.Whole announcement.cycle

/-- What the window shows belongs to one announcement: both times come from its
Image Time, and the image is the complete picture produced by the cycle that made
it. -/
structure Shows (w : WindowState (List (Part σ))) (image : List (Part σ))
    (announcement : Announcement) (data : ImageData) : Prop where
  told : mySocketListenFunction parse announcement.message = some data
  myTime : w.myTime = some (data.item2 - duration 4 0 0)
  laterTime : w.laterTime = some (data.item2 - duration 3 59 50)
  nonempty : image ≠ []
  produced : ∀ part ∈ image, part.ProducedBy announcement

/-- Whatever image the window shows, it shows it with the time of its cycle. -/
def Bound (s : State σ) : Prop :=
  ∀ image, s.window.myImage = some image →
    ∃ announcement ∈ s.announcements, s.shown = some announcement ∧
      ∃ data, Shows parse s.window image announcement data

/-- The cycle that made the announcement had written its whole picture, and the file
was read for the fetch before `jpegtran` opened it again. -/
def Fetch.Undisturbed (fetch : Fetch σ) : Prop :=
  fetch.announcement.whole = true ∧
    ∀ part ∈ fetch.parts, part.rewrites = fetch.announcement.rewrites

instance (fetch : Fetch σ) : Decidable fetch.Undisturbed :=
  inferInstanceAs (Decidable (_ ∧ ∀ part ∈ fetch.parts, _))

/-- Every fetch that completes in a mounted window was undisturbed. -/
def Undisturbed (s : State σ) : Event σ → Prop
  | .complete => s.window.mounted = true → ∀ fetch ∈ s.fetch, fetch.Undisturbed
  | _ => True

instance (s : State σ) : ∀ e, Decidable (Undisturbed s e)
  | .complete => inferInstanceAs (Decidable (_ → ∀ fetch ∈ s.fetch, _))
  | .jpegtran _ | .flipped _ _ | .unflipped _ | .announce _ _ | .continued _ | .deliver _
  | .read | .fail | .dispose => isTrue trivial

end Property

/-! ## One thread and its file -/

section Threads

variable {σ : Type u}

/-- The file holds the complete picture of this cycle, written by this cycle. -/
def CaptureThread.Holds (thread : CaptureThread σ) (cycle : ℕ) : Prop :=
  ∃ file, thread.jpg = some file ∧ file.Whole cycle

/-- The file is never ahead of the thread, and `whole` says what it should. -/
structure CaptureThread.Fine (thread : CaptureThread σ) : Prop where
  written : ∀ file, thread.jpg = some file → file.cycle ≤ thread.cycle
  earlier : thread.place = .capturing → ∀ file, thread.jpg = some file →
    file.cycle < thread.cycle
  whole : ∀ whole, thread.place = .flipped whole → (thread.Holds thread.cycle ↔ whole = true)

/-- **The file holds what was announced until it is opened again**, if it held it
then. -/
structure Announcement.Tracks (announcement : Announcement) (thread : CaptureThread σ) :
    Prop where
  past : announcement.cycle < thread.cycle
  counted : announcement.rewrites ≤ thread.rewrites
  reopened : thread.place = .flipping → announcement.rewrites < thread.rewrites
  holds : thread.Holds announcement.cycle ↔
    announcement.whole = true ∧ announcement.rewrites = thread.rewrites

variable {thread : CaptureThread σ} {announcement : Announcement}

theorem CaptureThread.not_holds_of_lt {n : ℕ} {file : ImageFile σ}
    (jpg : thread.jpg = some file) (lt : n < file.cycle) : ¬ thread.Holds n := by
  rintro ⟨file', jpg', same, -⟩
  obtain rfl : file = file' := Option.some.inj (jpg.symm.trans jpg')
  omega

theorem CaptureThread.fine_jpegtran (thread : CaptureThread σ) : thread.jpegtran.Fine := by
  refine ⟨?_, ?_, ?_⟩
  · intro file jpg
    obtain rfl := Option.some.inj jpg
    exact le_refl _
  · intro place
    cases place
  · intro whole place
    cases place

theorem Announcement.Tracks.jpegtran (tracks : announcement.Tracks thread) :
    announcement.Tracks thread.jpegtran := by
  refine ⟨tracks.past, ?_, ?_, ?_⟩
  · exact Nat.le_succ_of_le tracks.counted
  · intro _
    exact Nat.lt_succ_of_le tracks.counted
  · -- the new file belongs to the running cycle, and the rewrite is counted
    have moved : announcement.rewrites ≠ thread.rewrites + 1 :=
      Nat.ne_of_lt (Nat.lt_succ_of_le tracks.counted)
    have lost : ¬ thread.jpegtran.Holds announcement.cycle :=
      CaptureThread.not_holds_of_lt rfl tracks.past
    exact iff_of_false lost fun h => moved h.2

theorem CaptureThread.fine_flipped (thread : CaptureThread σ) (picture : Stored (Jpeg σ)) :
    (thread.flipped picture).Fine := by
  refine ⟨?_, ?_, ?_⟩
  · intro file jpg
    obtain rfl := Option.some.inj jpg
    exact le_refl _
  · intro place
    cases place
  · intro whole place
    cases place
    rw [decide_eq_true_iff]
    constructor
    · rintro ⟨file, jpg, holds⟩
      obtain rfl := Option.some.inj jpg
      exact holds
    · intro holds
      exact ⟨_, rfl, holds⟩

theorem Announcement.Tracks.flipped (tracks : announcement.Tracks thread)
    (flipping : thread.place = .flipping) (picture : Stored (Jpeg σ)) :
    announcement.Tracks (thread.flipped picture) := by
  have before := tracks.reopened flipping
  refine ⟨tracks.past, tracks.counted, fun place => (by cases place), ?_⟩
  have lost : ¬ (thread.flipped picture).Holds announcement.cycle :=
    CaptureThread.not_holds_of_lt rfl tracks.past
  exact iff_of_false lost fun h => Nat.ne_of_lt before h.2

theorem CaptureThread.Fine.unflipped (fine : thread.Fine)
    (capturing : thread.place = .capturing) : thread.unflipped.Fine := by
  refine ⟨fine.written, fun place => (by cases place), ?_⟩
  intro whole place
  cases place
  refine iff_of_false ?_ (by decide)
  rintro ⟨file, jpg, same, -⟩
  exact Nat.ne_of_lt (fine.earlier capturing file jpg) same

theorem Announcement.Tracks.unflipped (tracks : announcement.Tracks thread) :
    announcement.Tracks thread.unflipped :=
  ⟨tracks.past, tracks.counted, fun place => (by cases place), tracks.holds⟩

theorem CaptureThread.Fine.next (fine : thread.Fine) : thread.next.Fine := by
  refine ⟨?_, ?_, fun whole place => (by cases place)⟩
  · intro file jpg
    exact Nat.le_succ_of_le (fine.written file jpg)
  · intro _ file jpg
    exact Nat.lt_succ_of_le (fine.written file jpg)

theorem Announcement.Tracks.next (tracks : announcement.Tracks thread) :
    announcement.Tracks thread.next :=
  ⟨Nat.lt_succ_of_lt tracks.past, tracks.counted, fun place => (by cases place), tracks.holds⟩

theorem CaptureThread.place_of_whole? {whole : Bool} (h : thread.whole? = some whole) :
    thread.place = .flipped whole := by
  unfold CaptureThread.whole? at h
  cases place : thread.place with
  | capturing => rw [place] at h; cases h
  | flipping => rw [place] at h; cases h
  | flipped whole' =>
      rw [place] at h
      obtain rfl := Option.some.inj h
      rfl

/-- A thread that announces is tracked from then on. -/
theorem CaptureThread.Fine.tracks (fine : thread.Fine) {whole : Bool}
    (place : thread.place = .flipped whole) (i : Fin 10) (message : Json) :
    (Announcement.mk i thread.cycle whole thread.rewrites message).Tracks thread.next := by
  refine ⟨Nat.lt_succ_self _, le_refl _, fun place => (by cases place), ?_⟩
  show thread.Holds thread.cycle ↔ whole = true ∧ thread.rewrites = thread.rewrites
  rw [fine.whole whole place]
  simp

end Threads

/-! ## The message -/

/-- What the client reads in an announcement is what thread `i` has put there. -/
theorem listen_announce (put_time : ℤ → String) (parse : String → Option ℤ)
    (sample_json : Json) (i : Fin 10) (scheduleTime : ℤ) :
    mySocketListenFunction parse
        (CloudServer.Announcements.announce put_time sample_json i scheduleTime) =
      (parse (put_time scheduleTime)).map fun time => ⟨imageName i, time⟩ := by
  unfold CloudServer.Announcements.announce
  rw [Json.set_clear]
  rfl

/-! ## The invariant -/

section Invariant

variable {σ : Type u} (put_time : ℤ → String) (parse : String → Option ℤ)

/-- A message names the file of its thread. -/
def Announcement.Names (announcement : Announcement) : Prop :=
  ∀ data, mySocketListenFunction parse announcement.message = some data →
    data.item1 = imageName announcement.thread

/-- Every read shows what was announced exactly if it came before the next rewrite. -/
structure Fetch.Fine (s : State σ) (fetch : Fetch σ) : Prop where
  announced : fetch.announcement ∈ s.announcements
  told : mySocketListenFunction parse fetch.announcement.message = some fetch.data
  parts : ∀ part ∈ fetch.parts, part.ProducedBy fetch.announcement ↔
    fetch.announcement.whole = true ∧ part.rewrites = fetch.announcement.rewrites

structure Inv (s : State σ) : Prop where
  threads : ∀ i, (s.threads i).Fine
  names : ∀ announcement ∈ s.announcements, announcement.Names parse
  tracks : ∀ announcement ∈ s.announcements,
    announcement.Tracks (s.threads announcement.thread)
  fetch : ∀ fetch, s.fetch = some fetch → fetch.Fine parse s

variable {parse}

theorem inv_start (jpg : Fin 10 → Option (Jpeg σ)) : Inv parse (start jpg) := by
  refine ⟨?_, ?_, ?_, ?_⟩
  · intro i
    have old : ∀ file, ((start jpg).threads i).jpg = some file → file.cycle = 0 := by
      intro file h
      obtain ⟨contents, -, rfl⟩ := Option.map_eq_some_iff.mp h
      rfl
    refine ⟨?_, ?_, fun whole place => (by cases place)⟩
    · intro file h
      rw [old file h]
      exact Nat.zero_le _
    · intro _ file h
      rw [old file h]
      exact Nat.one_pos
  · intro announcement h
    cases h
  · intro announcement h
    cases h
  · intro fetch h
    cases h

/-- A step of one thread that keeps its file fine and every announcement tracked. -/
theorem Inv.setThread {s : State σ} (inv : Inv parse s) (i : Fin 10)
    {thread : CaptureThread σ} (fine : thread.Fine)
    (tracks : ∀ announcement : Announcement, announcement.Tracks (s.threads i) →
      announcement.Tracks thread) :
    Inv parse (s.setThread i thread) := by
  refine ⟨?_, inv.names, ?_, ?_⟩
  · intro j
    show (Function.update s.threads i thread j).Fine
    by_cases same : j = i
    · rw [same, Function.update_self]
      exact fine
    · rw [Function.update_of_ne same]
      exact inv.threads j
  · intro announcement h
    show announcement.Tracks (Function.update s.threads i thread announcement.thread)
    by_cases same : announcement.thread = i
    · rw [same, Function.update_self]
      exact tracks announcement (same ▸ inv.tracks announcement h)
    · rw [Function.update_of_ne same]
      exact inv.tracks announcement h
  · intro fetch h
    obtain ⟨announced, told, parts⟩ := inv.fetch fetch h
    exact ⟨announced, told, parts⟩

/-- An announcement is added to what is tracked. -/
theorem Inv.announce {s : State σ} (inv : Inv parse s) {i : Fin 10} {whole : Bool}
    (place : (s.threads i).place = .flipped whole) (scheduleTime : ℤ) :
    Inv parse (s.announce put_time i scheduleTime whole) := by
  have next : Inv parse (s.setThread i (s.threads i).next) :=
    inv.setThread i (inv.threads i).next fun announcement tracks => tracks.next
  refine ⟨next.threads, ?_, ?_, ?_⟩
  · intro announcement h
    rcases List.mem_append.mp h with old | new
    · exact inv.names announcement old
    · obtain rfl := List.mem_singleton.mp new
      intro data told
      rw [listen_announce] at told
      obtain ⟨time, -, rfl⟩ := Option.map_eq_some_iff.mp told
      rfl
  · intro announcement h
    rcases List.mem_append.mp h with old | new
    · exact next.tracks announcement old
    · obtain rfl := List.mem_singleton.mp new
      show Announcement.Tracks _ (Function.update s.threads i (s.threads i).next i)
      rw [Function.update_self]
      exact (inv.threads i).tracks place i _
  · intro fetch h
    obtain ⟨announced, told, parts⟩ := inv.fetch fetch h
    exact ⟨List.mem_append_left _ announced, told, parts⟩

theorem Inv.deliver {s : State σ} (inv : Inv parse s) {announcement : Announcement}
    {data : ImageData} (announced : announcement ∈ s.announcements)
    (told : mySocketListenFunction parse announcement.message = some data) :
    Inv parse (s.deliver announcement data) := by
  unfold State.deliver
  split_ifs with fetches
  · refine ⟨inv.threads, inv.names, inv.tracks, ?_⟩
    intro fetch h
    obtain rfl := Option.some.inj h
    refine ⟨announced, told, ?_⟩
    intro part none
    cases none
  · exact inv

/-- **One read.**  It is of the file the announcement is tracked by. -/
theorem Inv.read {s : State σ} (inv : Inv parse s) {fetch : Fetch σ}
    (h : s.fetch = some fetch) {i : Fin 10} (owned : owner fetch.data.item1 = some i)
    {file : ImageFile σ} (jpg : (s.threads i).jpg = some file) :
    Inv parse (s.read fetch i file) := by
  refine ⟨inv.threads, inv.names, inv.tracks, ?_⟩
  intro fetch' h'
  obtain rfl := Option.some.inj h'
  have fine := inv.fetch fetch h
  refine ⟨fine.announced, fine.told, ?_⟩
  intro part mem
  rcases List.mem_append.mp mem with old | new
  · exact fine.parts part old
  · obtain rfl := List.mem_singleton.mp new
    have name := inv.names _ fine.announced _ fine.told
    rw [name, owner_imageName] at owned
    obtain rfl := Option.some.inj owned
    have tracks := inv.tracks _ fine.announced
    show (_ = _ ∧ file.Whole _) ↔ _ ∧ (s.threads fetch.announcement.thread).rewrites = _
    rw [eq_comm (b := fetch.announcement.rewrites), ← tracks.holds]
    constructor
    · rintro ⟨-, whole⟩
      exact ⟨file, jpg, whole⟩
    · rintro ⟨file', jpg', whole⟩
      obtain rfl : file = file' := Option.some.inj (jpg.symm.trans jpg')
      exact ⟨rfl, whole⟩

theorem moveThread_eq_some {s t : State σ} {i : Fin 10} {enabled : CaptureThread σ → Bool}
    {move : CaptureThread σ → CaptureThread σ} (h : s.moveThread i enabled move = some t) :
    enabled (s.threads i) = true ∧ s.setThread i (move (s.threads i)) = t := by
  unfold State.moveThread at h
  split_ifs at h with guard
  exact ⟨guard, Option.some.inj h⟩

/-- The client's fetch and what it is checked against are all that these clauses see. -/
theorem Inv.client {s t : State σ} (inv : Inv parse s) (threads : t.threads = s.threads)
    (announcements : t.announcements = s.announcements)
    (fetch : t.fetch = none ∨ t.fetch = s.fetch) : Inv parse t := by
  refine ⟨?_, ?_, ?_, ?_⟩
  · rw [threads]
    exact inv.threads
  · rw [announcements]
    exact inv.names
  · rw [announcements, threads]
    exact inv.tracks
  · intro f h
    rcases fetch with none | same
    · rw [none] at h
      cases h
    · rw [same] at h
      obtain ⟨announced, told, parts⟩ := inv.fetch f h
      exact ⟨announcements ▸ announced, told, parts⟩

/-- **The step invariant**, one case per event. -/
theorem inv_step {s t : State σ} {e : Event σ} (inv : Inv parse s)
    (h : step put_time parse s e = some t) : Inv parse t := by
  cases e with
  | jpegtran i =>
      dsimp only [step] at h
      obtain ⟨-, rfl⟩ := moveThread_eq_some h
      exact inv.setThread i (CaptureThread.fine_jpegtran _) fun _ tracks => tracks.jpegtran
  | flipped i picture =>
      dsimp only [step] at h
      obtain ⟨guard, rfl⟩ := moveThread_eq_some h
      have flipping := (of_decide_eq_true guard).1
      exact inv.setThread i (CaptureThread.fine_flipped _ picture) fun _ tracks =>
        tracks.flipped flipping picture
  | unflipped i =>
      dsimp only [step] at h
      obtain ⟨guard, rfl⟩ := moveThread_eq_some h
      have fine := (inv.threads i).unflipped (of_decide_eq_true guard)
      exact inv.setThread i fine fun _ tracks => tracks.unflipped
  | announce i scheduleTime =>
      obtain ⟨whole, place, rfl⟩ := Option.map_eq_some_iff.mp h
      exact inv.announce put_time (CaptureThread.place_of_whole? place) scheduleTime
  | continued i =>
      dsimp only [step] at h
      obtain ⟨-, rfl⟩ := moveThread_eq_some h
      exact inv.setThread i (inv.threads i).next fun _ tracks => tracks.next
  | deliver k =>
      obtain ⟨announcement, announced, h⟩ := Option.bind_eq_some_iff.mp h
      obtain ⟨data, told, rfl⟩ := Option.map_eq_some_iff.mp h
      exact inv.deliver (List.mem_of_getElem? announced) told
  | read =>
      obtain ⟨fetch, hfetch, h⟩ := Option.bind_eq_some_iff.mp h
      obtain ⟨i, owned, h⟩ := Option.bind_eq_some_iff.mp h
      obtain ⟨file, jpg, rfl⟩ := Option.map_eq_some_iff.mp h
      exact inv.read hfetch owned jpg
  | complete =>
      obtain ⟨fetch, -, h⟩ := Option.bind_eq_some_iff.mp h
      split_ifs at h
      obtain rfl := Option.some.inj h
      exact inv.client rfl rfl (Or.inl rfl)
  | fail =>
      obtain ⟨fetch, -, rfl⟩ := Option.map_eq_some_iff.mp h
      exact inv.client rfl rfl (Or.inl rfl)
  | dispose =>
      obtain rfl := Option.some.inj h
      exact inv.client rfl rfl (Or.inr rfl)

/-! ## What the window shows -/

/-- A window that shows the same as before is still bound. -/
theorem Bound.keep {s t : State σ} (bound : Bound parse s)
    (announcements : s.announcements ⊆ t.announcements) (shown : t.shown = s.shown)
    (myImage : t.window.myImage = s.window.myImage) (myTime : t.window.myTime = s.window.myTime)
    (laterTime : t.window.laterTime = s.window.laterTime) : Bound parse t := by
  intro image h
  rw [myImage] at h
  obtain ⟨announcement, announced, started, data, shows⟩ := bound image h
  refine ⟨announcement, announcements announced, shown.trans started, data, shows.told, ?_, ?_,
    shows.nonempty, shows.produced⟩
  · rw [myTime, shows.myTime]
  · rw [laterTime, shows.laterTime]

theorem deliver_window (s : State σ) (announcement : Announcement) (data : ImageData) :
    (s.deliver announcement data).announcements = s.announcements ∧
      (s.deliver announcement data).shown = s.shown ∧
      (s.deliver announcement data).window = s.window.listen := by
  unfold State.deliver WindowState.listen
  split_ifs with fetches
  · exact ⟨rfl, rfl, rfl⟩
  · exact ⟨rfl, rfl, rfl⟩

theorem listen_shows {α : Type*} (w : WindowState α) :
    w.listen.myImage = w.myImage ∧ w.listen.myTime = w.myTime ∧
      w.listen.laterTime = w.laterTime := by
  unfold WindowState.listen
  split_ifs with fetches
  · exact ⟨rfl, rfl, rfl⟩
  · exact ⟨rfl, rfl, rfl⟩

/-- No event but the completion of a fetch changes what the window shows. -/
theorem bound_step {s t : State σ} {e : Event σ} (bound : Bound parse s)
    (h : step put_time parse s e = some t) (other : e ≠ .complete) : Bound parse t := by
  cases e with
  | jpegtran i | flipped i picture | unflipped i | continued i =>
      dsimp only [step] at h
      obtain ⟨-, rfl⟩ := moveThread_eq_some h
      exact bound.keep (List.Subset.refl _) rfl rfl rfl rfl
  | announce i scheduleTime =>
      obtain ⟨whole, -, rfl⟩ := Option.map_eq_some_iff.mp h
      exact bound.keep (List.subset_append_left _ _) rfl rfl rfl rfl
  | deliver k =>
      obtain ⟨announcement, -, h⟩ := Option.bind_eq_some_iff.mp h
      obtain ⟨data, -, rfl⟩ := Option.map_eq_some_iff.mp h
      obtain ⟨announcements, shown, window⟩ := deliver_window s announcement data
      obtain ⟨myImage, myTime, laterTime⟩ := listen_shows s.window
      rw [← window] at myImage myTime laterTime
      exact bound.keep (fun _ => announcements ▸ id) shown myImage myTime laterTime
  | read =>
      obtain ⟨fetch, -, h⟩ := Option.bind_eq_some_iff.mp h
      obtain ⟨i, -, h⟩ := Option.bind_eq_some_iff.mp h
      obtain ⟨file, -, rfl⟩ := Option.map_eq_some_iff.mp h
      exact bound.keep (List.Subset.refl _) rfl rfl rfl rfl
  | complete => exact absurd rfl other
  | fail =>
      obtain ⟨fetch, -, rfl⟩ := Option.map_eq_some_iff.mp h
      exact bound.keep (List.Subset.refl _) rfl rfl rfl rfl
  | dispose =>
      obtain rfl := Option.some.inj h
      exact bound.keep (List.Subset.refl _) rfl rfl rfl rfl

/-- **The completion of a fetch** shows the right picture exactly if the fetch was
undisturbed. -/
theorem bound_complete_iff {s : State σ} (inv : Inv parse s) {fetch : Fetch σ}
    (hfetch : s.fetch = some fetch) (some_part : fetch.parts ≠ [])
    (mounted : s.window.mounted = true) :
    Bound parse (s.complete fetch) ↔ fetch.Undisturbed := by
  have fine := inv.fetch fetch hfetch
  have window : (s.complete fetch).window = ⟨true, false, some fetch.parts,
      some (fetch.data.item2 - duration 4 0 0), some (fetch.data.item2 - duration 3 59 50)⟩ := by
    show s.window.imageFetched fetch.data fetch.parts = _
    unfold WindowState.imageFetched
    rw [if_pos mounted, mounted]
  have shown : (s.complete fetch).shown = some fetch.announcement := if_pos mounted
  constructor
  · intro bound
    have image : (s.complete fetch).window.myImage = some fetch.parts := by rw [window]
    obtain ⟨announcement, -, started, data, shows⟩ := bound fetch.parts image
    obtain rfl := Option.some.inj (shown.symm.trans started)
    have read := fun part mem => (fine.parts part mem).mp (shows.produced part mem)
    -- some part was read, so the announcement was of a whole picture
    obtain ⟨part, mem⟩ := List.exists_mem_of_ne_nil _ some_part
    exact ⟨(read part mem).1, fun part mem => (read part mem).2⟩
  · rintro ⟨whole, undisturbed⟩ image himage
    rw [window] at himage
    obtain rfl := Option.some.inj himage
    refine ⟨fetch.announcement, fine.announced, shown, fetch.data, fine.told, ?_, ?_, some_part,
      ?_⟩
    · rw [window]
    · rw [window]
    · intro part mem
      exact (fine.parts part mem).mpr ⟨whole, undisturbed part mem⟩

/-- One step from a state in which the image is bound. -/
theorem bound_step_iff {s t : State σ} {e : Event σ} (inv : Inv parse s)
    (bound : Bound parse s) (h : step put_time parse s e = some t) :
    Bound parse t ↔ Undisturbed s e := by
  by_cases other : e = .complete
  · subst other
    obtain ⟨fetch, hfetch, h⟩ := Option.bind_eq_some_iff.mp h
    split_ifs at h with none
    obtain rfl := Option.some.inj h
    cases mounted : s.window.mounted with
    | true =>
        rw [bound_complete_iff inv hfetch none mounted]
        constructor
        · intro undisturbed _ fetch' hfetch'
          obtain rfl : fetch = fetch' := Option.some.inj (hfetch.symm.trans hfetch')
          exact undisturbed
        · intro undisturbed
          exact undisturbed mounted fetch hfetch
    | false =>
        have unmounted : ¬ s.window.mounted = true := by
          rw [mounted]
          exact Bool.false_ne_true
        refine iff_of_true ?_ ?_
        · have window : (s.complete fetch).window = { s.window with _fetchingImage := false } :=
            if_neg unmounted
          have shown : (s.complete fetch).shown = s.shown := if_neg unmounted
          refine bound.keep (List.Subset.refl _) shown ?_ ?_ ?_ <;> rw [window]
        · intro mounted'
          exact absurd mounted' unmounted
  · refine iff_of_true (bound_step put_time bound h other) ?_
    cases e with
    | complete => exact absurd rfl other
    | _ => trivial

end Invariant

/-! ## Whole runs -/

section Runs

variable {σ : Type u}

/-- **The image shown is that of its time as long as every fetch is undisturbed**, for
every interleaving of the capture threads, the deliveries and the fetches, and in no
other run. -/
theorem bound_iff_undisturbed (put_time : ℤ → String) (parse : String → Option ℤ)
    {s : State σ} (init : (publishing put_time parse).init s) (es : List (Event σ)) :
    (publishing put_time parse).Throughout (Bound parse) s es ↔
      (publishing put_time parse).Along Undisturbed s es := by
  obtain ⟨jpg, rfl⟩ := init
  refine (publishing put_time parse).throughout_iff_along (Inv parse) ?_ ?_ (inv_start jpg) ?_
  · intro s e t inv _ h _
    exact inv_step put_time inv h
  · intro s e t inv bound h
    exact bound_step_iff put_time inv bound h
  · intro image h
    cases h

/-- The two Image Times of the runs below. -/
def twoTimes (scheduleTime : ℤ) : String :=
  if scheduleTime = 1651406400 then "2022-05-01 12:00:00" else "2022-05-01 12:00:20"

def parseTwoTimes (imageTime : String) : Option ℤ :=
  if imageTime = "2022-05-01 12:00:00" then some 1651406400
  else if imageTime = "2022-05-01 12:00:20" then some 1651406420
  else none

/-- Two fetches, each finished before thread `i` starts its next picture. -/
def promptFetches (i : Fin 10) : List (Event ℕ) :=
  [.jpegtran i, .flipped i ⟨1, .complete [1]⟩, .announce i 1651406400, .deliver 0, .read, .read,
    .complete, .jpegtran i, .flipped i ⟨2, .complete [2]⟩, .announce i 1651406420, .deliver 1,
    .read, .complete]

/-- Fetches that are served at once are bound to their pictures. -/
theorem promptFetches_bound :
    (publishing twoTimes parseTwoTimes).Throughout (Bound parseTwoTimes) (start fun _ => none)
      (promptFetches 0) :=
  (bound_iff_undisturbed twoTimes parseTwoTimes ⟨fun _ => none, rfl⟩ (promptFetches 0)).mpr
    (by decide)

/-- A fetch whose request is served when thread `i` has written its next picture. -/
def lateFetch (i : Fin 10) : List (Event ℕ) :=
  [.jpegtran i, .flipped i ⟨1, .complete [1]⟩, .announce i 1651406400, .deliver 0,
    .jpegtran i, .flipped i ⟨2, .complete [2]⟩, .read, .complete]

/-- The picture of the second cycle is shown with the time of the first. -/
theorem not_bound_lateFetch :
    ∃ s, (publishing twoTimes parseTwoTimes).init s ∧
      ¬ (publishing twoTimes parseTwoTimes).Throughout (Bound parseTwoTimes) s
        (lateFetch 0) := by
  refine ⟨start fun _ => none, ⟨fun _ => none, rfl⟩, ?_⟩
  intro bound
  have ends : ((publishing twoTimes parseTwoTimes).run (start fun _ => none)
      (lateFetch 0)).map
      (fun t => (t.window.myImage, t.shown.map Announcement.cycle)) =
        some (some [⟨0, ⟨2, ⟨2, .complete [2]⟩⟩, 2⟩], some 1) := rfl
  obtain ⟨t, run, ends⟩ := Option.map_eq_some_iff.mp ends
  obtain ⟨image, shown⟩ := Prod.mk.inj ends
  obtain ⟨announcement, -, started, data, shows⟩ := (bound.last _ run) _ image
  rw [started] at shown
  have first : announcement.cycle = 1 := Option.some.inj shown
  have second := (shows.produced _ (List.mem_singleton_self _)).2.1
  rw [first] at second
  cases second

end Runs

end SpectrogramServers.FlutterSite.ImageTime
