import SpectrogramServers.FlutterSite.ImageTime
import SpectrogramServers.MyServer.PublishedFiles

/-!
# The live picture and its time

The image thread, the directory it writes to and one window of the page.  A message about
an image may reach the window late, and the file is read in parts, later still, while the
image thread goes on to overwrite names that it has used 40 images before.

## What a window can show

`closeFile` announces an image whatever its three commands return, so what a window can be
promised is what they left (`shown`): the flipped picture of the rows of the image if `mv`
and `jpegtran` succeeded, and otherwise any file, an old picture among others, or none, in
which case the fetch fails.  The time, on the other hand, comes with the announcement and
is always that of the first row.

* **No mixture.**  All the parts that a window has read for one picture are of the file
  that was left for one image, although the passes go on between the reads.
* **The right time.**  `myTime` and `laterTime` on display are those of the image that the
  parts are of, never of the next one.

What is load-bearing is that nothing a later pass does changes what `shown` says of an
image that is complete (`shown_append`), so that parts which were read at different
moments are parts of the same file.  The condition `Prompt` is on the reads alone: none
happens when 40 images have been opened after its own.
-/

namespace SpectrogramServers.FlutterSite.LiveImages

open MyServer.ImageThread (Commands File JpegCompress PublishedImage Site imageName firstRow
  lastRow openedBy closedBy commandsAt pictureAt shown)

universe u

variable {ρ : Type u}

/-! ## What later passes do not change -/

section Passes

variable {passes : List ((ρ × ℤ) × Commands ρ)}

theorem commandsAt_append {m : ℕ} (complete : lastRow m ≤ passes.length)
    (later : List ((ρ × ℤ) × Commands ρ)) :
    commandsAt (passes ++ later) m = commandsAt passes m := by
  have positive : 0 < lastRow m := Nat.succ_pos _
  rw [commandsAt, commandsAt, List.map_append,
    List.getElem?_append_left (by rw [List.length_map]; omega)]

theorem pictureAt_append {m : ℕ} (complete : lastRow m ≤ passes.length)
    (later : List ((ρ × ℤ) × Commands ρ)) :
    pictureAt (passes ++ later) m = pictureAt passes m := by
  have taken : (passes.map Prod.fst ++ later.map Prod.fst).take passes.length =
      passes.map Prod.fst := by
    rw [← List.length_map (f := Prod.fst), List.take_left]
  rw [pictureAt, pictureAt, List.map_append, ← MyServer.ImageThread.rowsBetween_take complete,
    taken]

/-- **A complete image stays what it is.** -/
theorem shown_append {m : ℕ} (complete : lastRow m ≤ passes.length)
    (later : List ((ρ × ℤ) × Commands ρ)) :
    shown (commandsAt (passes ++ later)) (pictureAt (passes ++ later)) m =
      shown (commandsAt passes) (pictureAt passes) m := by
  rw [shown, shown, commandsAt_append complete, pictureAt_append complete]

end Passes

/-! ## The site and a window -/

/-- A fetch in flight: the image whose announcement started it, by its number, the `data`
its callback has, and what has been read for it. -/
structure Fetch (ρ : Type u) where
  image : ℕ
  data : ImageData
  parts : List (File ρ)

/-- The image thread with its directory, and a window.  An image on display is what its
response was read from.  `passes` is history. -/
structure State (ρ : Type u) where
  site : Site ρ
  window : WindowState (List (File ρ))
  fetch : Option (Fetch ρ)
  passes : List ((ρ × ℤ) × Commands ρ)

inductive Event (ρ : Type u) where
  /-- A pass of the image thread, with the row, the time and what the commands return. -/
  | pass (row : ρ) (now : ℤ) (commands : Commands ρ)
  /-- The announcement of image `m` reaches the listener. -/
  | deliver (m : ℕ)
  /-- The web server reads the next part of the requested file. -/
  | read
  /-- The fetch completes: the file has been read to its end and decoded. -/
  | complete
  /-- The fetch fails. -/
  | fail
  /-- The window is disposed of. -/
  | dispose

section Steps

variable (put_time : ℤ → String) (parse : String → Option ℤ)

def State.pass (s : State ρ) (pass : (ρ × ℤ) × Commands ρ) : State ρ :=
  { s with site := s.site.rowEvent put_time pass, passes := s.passes ++ [pass] }

/-- The listener receives `data`, of image `m`. -/
def State.deliver (s : State ρ) (m : ℕ) (data : ImageData) : State ρ :=
  if s.window.fetches then
    { s with window := s.window.listen, fetch := some ⟨m, data, []⟩ }
  else s

def State.read (s : State ρ) (fetch : Fetch ρ) (part : File ρ) : State ρ :=
  { s with fetch := some { fetch with parts := fetch.parts ++ [part] } }

/-- The callback of the fetch. -/
def State.complete (s : State ρ) (fetch : Fetch ρ) : State ρ :=
  { s with window := s.window.imageFetched fetch.data fetch.parts, fetch := none }

def step (s : State ρ) : Event ρ → Option (State ρ)
  | .pass row now commands => some (s.pass put_time ((row, now), commands))
  | .deliver m =>
      s.site.images.published[m]?.bind fun image =>
        (mySocketListenFunction parse image.announcement).map (s.deliver m)
  | .read =>
      s.fetch.bind fun fetch => (s.site.files fetch.data.item1).map (s.read fetch)
  | .complete =>
      s.fetch.bind fun fetch => if fetch.parts = [] then none else some (s.complete fetch)
  | .fail => s.fetch.map fun _ => { s with fetch := none }
  | .dispose => some { s with window := s.window.dispose }

/-- Before the first row; `initial` is the directory as it is found. -/
def start (file_times : Fin 4 → ℤ) (jpeg_structs : Fin 4 → JpegCompress ρ)
    (initial : Files String (File ρ)) : State ρ where
  site := ⟨MyServer.ImageThread.start file_times jpeg_structs, initial⟩
  window := .initState
  fetch := none
  passes := []

/-- The image thread of `myServer` and one window. -/
def live : Machine (State ρ) (Event ρ) where
  init s := ∃ file_times jpeg_structs initial, s = start file_times jpeg_structs initial
  step := step put_time parse

theorem step_deliver {s : State ρ} {m : ℕ} {image : PublishedImage ρ} {data : ImageData}
    (announced : s.site.images.published[m]? = some image)
    (told : mySocketListenFunction parse image.announcement = some data) :
    (live put_time parse).step s (.deliver m) = some (s.deliver m data) := by
  dsimp only [live, step]
  rw [announced, Option.bind_some, told, Option.map_some]

theorem step_read {s : State ρ} {fetch : Fetch ρ} {part : File ρ} (inFlight : s.fetch = some fetch)
    (found : s.site.files fetch.data.item1 = some part) :
    (live put_time parse).step s .read = some (s.read fetch part) := by
  dsimp only [live, step]
  rw [inFlight, Option.bind_some, found, Option.map_some]

end Steps

/-! ## The property and the condition -/

section Property

variable (put_time : ℤ → String) (parse : String → Option ℤ)

/-- `time` is the Image Time of image `m`, the time of its first row, and `parts` are of
what its commands have left. -/
structure OfImage (passes : List ((ρ × ℤ) × Commands ρ)) (m : ℕ) (time : ℤ)
    (parts : List (File ρ)) : Prop where
  complete : lastRow m ≤ passes.length
  time : ∃ now, (passes.map fun pass => pass.1.2)[firstRow m - 1]? = some now ∧
    parse (put_time now) = some time
  parts : ∀ part ∈ parts, some part = shown (commandsAt passes) (pictureAt passes) m

/-- What is on display is a picture with its time. -/
def Displays (s : State ρ) : Prop :=
  ∀ parts, s.window.myImage = some parts → parts ≠ [] ∧ ∃ m time,
    OfImage put_time parse s.passes m time parts ∧
    s.window.myTime = some (time - duration 4 0 0) ∧
    s.window.laterTime = some (time - duration 3 59 50)

/-- No file is read when 40 images have been opened after its own. -/
def Prompt (s : State ρ) : Event ρ → Prop
  | .read => ∀ fetch ∈ s.fetch, s.site.images.fopens ≤ fetch.image + 40
  | _ => True

end Property

/-! ## The invariant -/

section Invariant

variable {put_time : ℤ → String} {parse : String → Option ℤ} {file_times : Fin 4 → ℤ}
  {jpeg_structs : Fin 4 → JpegCompress ρ} {initial : Files String (File ρ)}

theorem OfImage.pass {passes : List ((ρ × ℤ) × Commands ρ)} {m : ℕ} {time : ℤ}
    {parts : List (File ρ)} (h : OfImage put_time parse passes m time parts)
    (pass : (ρ × ℤ) × Commands ρ) :
    OfImage put_time parse (passes ++ [pass]) m time parts := by
  obtain ⟨now, first, parsed⟩ := h.time
  refine ⟨?_, ⟨now, ?_, parsed⟩, fun part mem => ?_⟩
  · rw [List.length_append]
    exact Nat.le_add_right_of_le h.complete
  · rw [List.map_append]
    exact getElem?_append_of_some first _
  · rw [shown_append h.complete]
    exact h.parts part mem

variable (put_time parse file_times jpeg_structs initial) in
structure Inv (s : State ρ) : Prop where
  site : s.site = Site.rowEvents put_time
    ⟨MyServer.ImageThread.start file_times jpeg_structs, initial⟩ s.passes
  fetch : ∀ fetch, s.fetch = some fetch → fetch.data.item1 = imageName fetch.image ∧
    OfImage put_time parse s.passes fetch.image fetch.data.item2 fetch.parts
  displays : Displays put_time parse s

theorem inv_start : Inv put_time parse file_times jpeg_structs initial
    (start file_times jpeg_structs initial) :=
  ⟨rfl, fun _ none => (nomatch none), fun _ none => (nomatch none)⟩

/-- The image thread has seen the passes. -/
theorem Inv.follows {s : State ρ} (inv : Inv put_time parse file_times jpeg_structs initial s) :
    MyServer.ImageThread.Follows put_time (s.passes.map Prod.fst) s.site.images := by
  rw [inv.site, Site.rowEvents_images]
  exact MyServer.ImageThread.follows_rowEvents put_time file_times jpeg_structs _

/-- So has the directory. -/
theorem Inv.directory {s : State ρ} (inv : Inv put_time parse file_times jpeg_structs initial s) :
    MyServer.ImageThread.Directory (commandsAt s.passes) (pictureAt s.passes)
      (openedBy s.passes.length) (closedBy s.passes.length) s.site.files := by
  have directory := MyServer.ImageThread.directory_take put_time file_times jpeg_structs initial
    s.passes s.passes.length (Nat.le_refl _)
  rwa [List.take_length, ← inv.site] at directory

/-- What the window understands of an announcement. -/
theorem Inv.told {s : State ρ} (inv : Inv put_time parse file_times jpeg_structs initial s)
    {m : ℕ} {image : PublishedImage ρ} (announced : s.site.images.published[m]? = some image)
    {data : ImageData} (told : mySocketListenFunction parse image.announcement = some data) :
    data.item1 = imageName m ∧ OfImage put_time parse s.passes m data.item2 [] := by
  have completes := inv.follows.published m image announced
  have closed : m < closedBy s.passes.length := by
    have inside := (List.getElem?_eq_some_iff.mp announced).1
    rwa [inv.follows.published_length, List.length_map] at inside
  have first := completes.file_time
  rw [completes.announcement] at told
  obtain ⟨time, parsed, rfl⟩ : ∃ time, parse (put_time image.file_time) = some time ∧
      ⟨image.file_name, time⟩ = data := Option.map_eq_some_iff.mp told
  refine ⟨completes.file_name, MyServer.ImageThread.closedBy_of_lastRow.mp closed,
    ⟨image.file_time, ?_, parsed⟩, fun part none => (nomatch none)⟩
  rwa [List.map_map] at first

/-- **A prompt read** is of the file that the image was announced with. -/
theorem Inv.read {s : State ρ} (inv : Inv put_time parse file_times jpeg_structs initial s)
    {fetch : Fetch ρ} (inFlight : s.fetch = some fetch) {part : File ρ}
    (found : s.site.files fetch.data.item1 = some part)
    (prompt : s.site.images.fopens ≤ fetch.image + 40) :
    Inv put_time parse file_times jpeg_structs initial (s.read fetch part) := by
  obtain ⟨name, ofImage⟩ := inv.fetch fetch inFlight
  have closed := MyServer.ImageThread.closedBy_of_lastRow.mpr ofImage.complete
  rw [inv.follows.fopens, List.length_map] at prompt
  rw [name, inv.directory.shown fetch.image closed prompt] at found
  refine ⟨inv.site, fun fetch' same => ?_, inv.displays⟩
  obtain rfl := Option.some.inj same
  refine ⟨name, ofImage.complete, ofImage.time, fun part' mem => ?_⟩
  rcases List.mem_append.mp mem with before | new
  · exact ofImage.parts part' before
  · rw [List.mem_singleton.mp new]
    exact found.symm

/-- What is on display stays. -/
theorem Displays.keep {s t : State ρ} (displays : Displays put_time parse s)
    (passes : t.passes = s.passes) (myImage : t.window.myImage = s.window.myImage)
    (myTime : t.window.myTime = s.window.myTime)
    (laterTime : t.window.laterTime = s.window.laterTime) :
    Displays put_time parse t := by
  unfold Displays
  rw [passes, myImage, myTime, laterTime]
  exact displays

/-- **The callback** shows what has been read, if the window is mounted. -/
theorem Displays.complete {s : State ρ} (displays : Displays put_time parse s)
    {fetch : Fetch ρ} (some : fetch.parts ≠ [])
    (ofImage : OfImage put_time parse s.passes fetch.image fetch.data.item2 fetch.parts) :
    Displays put_time parse (s.complete fetch) := by
  unfold State.complete WindowState.imageFetched
  split
  · intro parts same
    obtain rfl := Option.some.inj same
    exact ⟨some, fetch.image, fetch.data.item2, ofImage, rfl, rfl⟩
  · exact displays.keep rfl rfl rfl rfl

/-- **The step lemma.** -/
theorem Inv.step {s t : State ρ} {e : Event ρ}
    (inv : Inv put_time parse file_times jpeg_structs initial s) (prompt : Prompt s e)
    (h : LiveImages.step put_time parse s e = some t) :
    Inv put_time parse file_times jpeg_structs initial t := by
  cases e with
  | pass row now commands =>
      obtain rfl := Option.some.inj h
      refine ⟨?_, fun fetch inFlight => ?_, fun parts same => ?_⟩
      · change s.site.rowEvent put_time _ = Site.rowEvents put_time _ (s.passes ++ [_])
        rw [Site.rowEvents_concat, ← inv.site]
      · obtain ⟨name, ofImage⟩ := inv.fetch fetch inFlight
        exact ⟨name, ofImage.pass _⟩
      · obtain ⟨nonempty, m, time, ofImage, times⟩ := inv.displays parts same
        exact ⟨nonempty, m, time, ofImage.pass _, times⟩
  | deliver m =>
      obtain ⟨image, announced, h⟩ := Option.bind_eq_some_iff.mp h
      obtain ⟨data, told, rfl⟩ := Option.map_eq_some_iff.mp h
      unfold State.deliver
      split
      · obtain ⟨myImage, myTime, laterTime⟩ := ImageTime.listen_shows s.window
        refine ⟨inv.site, fun fetch same => ?_, inv.displays.keep rfl myImage myTime laterTime⟩
        obtain rfl := Option.some.inj same
        exact inv.told announced told
      · exact inv
  | read =>
      obtain ⟨fetch, inFlight, h⟩ := Option.bind_eq_some_iff.mp h
      obtain ⟨part, found, rfl⟩ := Option.map_eq_some_iff.mp h
      exact inv.read inFlight found (prompt fetch inFlight)
  | complete =>
      obtain ⟨fetch, inFlight, h⟩ := Option.bind_eq_some_iff.mp h
      split at h
      · cases h
      · rename_i some
        obtain rfl := Option.some.inj h
        exact ⟨inv.site, fun _ none => (nomatch none),
          inv.displays.complete some (inv.fetch fetch inFlight).2⟩
  | fail =>
      obtain ⟨fetch, -, rfl⟩ := Option.map_eq_some_iff.mp h
      exact ⟨inv.site, fun _ none => (nomatch none), inv.displays.keep rfl rfl rfl rfl⟩
  | dispose =>
      obtain rfl := Option.some.inj h
      exact ⟨inv.site, inv.fetch, inv.displays.keep rfl rfl rfl rfl⟩

end Invariant

/-! ## Whole runs -/

/-- The state that passes alone lead to. -/
def passed (put_time : ℤ → String) (s : State ρ) (passes : List ((ρ × ℤ) × Commands ρ)) : State ρ :=
  { s with site := s.site.rowEvents put_time passes, passes := s.passes ++ passes }

theorem run_passes (put_time : ℤ → String) (parse : String → Option ℤ) (s : State ρ)
    (passes : List ((ρ × ℤ) × Commands ρ)) :
    (live put_time parse).run s (passes.map fun pass => .pass pass.1.1 pass.1.2 pass.2) =
      some (passed put_time s passes) := by
  induction passes generalizing s with
  | nil =>
      rw [passed, List.append_nil]
      rfl
  | cons pass passes ih =>
      rw [List.map_cons, Machine.run_cons]
      refine (ih (s.pass put_time pass)).trans ?_
      rw [passed, State.pass, List.append_assoc]
      rfl

theorem inv_passed (put_time : ℤ → String) (parse : String → Option ℤ) (file_times : Fin 4 → ℤ)
    (jpeg_structs : Fin 4 → JpegCompress ρ) (initial : Files String (File ρ))
    (passes : List ((ρ × ℤ) × Commands ρ)) :
    Inv put_time parse file_times jpeg_structs initial
      (passed put_time (start file_times jpeg_structs initial) passes) :=
  ⟨rfl, fun _ none => (nomatch none), fun _ none => (nomatch none)⟩

/-- The rows of the first image, and commands that succeed. -/
def firstPasses : List ((ℕ × ℤ) × Commands ℕ) := List.replicate 2153 ((7, 0), Commands.success)

/-- The first image is announced, fetched and shown. -/
def firstImage : List (Event ℕ) :=
  (firstPasses.map fun pass => .pass pass.1.1 pass.1.2 pass.2) ++ [.deliver 0, .read, .complete]

theorem shown_firstPasses :
    shown (commandsAt firstPasses) (pictureAt firstPasses) 0 =
      some (.jpeg (List.replicate 2153 7)) := by
  have commands : commandsAt firstPasses 0 = Commands.success := by
    have inside : lastRow 0 - 1 < 2153 := by decide
    rw [commandsAt, firstPasses, List.map_replicate, List.getElem?_replicate_of_lt inside]
    rfl
  have picture : pictureAt firstPasses 0 = List.replicate 2153 7 := by
    rw [pictureAt, firstPasses, MyServer.ImageThread.rowsBetween, List.map_replicate,
      List.map_replicate, List.drop_replicate, List.take_replicate]
    rfl
  have mv : (commandsAt firstPasses 0).mv = true := congrArg Commands.mv commands
  have jpegtran : (commandsAt firstPasses 0).jpegtran = true :=
    congrArg Commands.jpegtran commands
  rw [MyServer.ImageThread.shown_of_success _ _ mv jpegtran, picture, List.reverse_replicate]

/-- The state behind the passes: the image is announced, and its file is there. -/
theorem run_firstPasses (put_time : ℤ → String) (file_times : Fin 4 → ℤ)
    (jpeg_structs : Fin 4 → JpegCompress ℕ) (initial : Files String (File ℕ)) :
    ∃ s, (live put_time fun _ => some 0).run (start file_times jpeg_structs initial)
        (firstPasses.map fun pass => .pass pass.1.1 pass.1.2 pass.2) = some s ∧
      s.window = .initState ∧ s.site.images.fopens ≤ 40 ∧
      ∃ image, s.site.images.published[0]? = some image ∧
        mySocketListenFunction (fun _ => some 0) image.announcement =
          some ⟨image.file_name, 0⟩ ∧
        s.site.files image.file_name = some (.jpeg (List.replicate 2153 7)) := by
  have inv := inv_passed put_time (fun _ => some 0) file_times jpeg_structs initial firstPasses
  have passes : (passed put_time (start file_times jpeg_structs initial) firstPasses).passes =
      firstPasses := List.nil_append _
  have length : firstPasses.length = 2153 := List.length_replicate
  refine ⟨_, run_passes _ _ _ _, rfl, ?_⟩
  generalize passed put_time (start file_times jpeg_structs initial) firstPasses = s at inv passes ⊢
  have count : s.site.images.published.length = 1 := by
    rw [inv.follows.published_length, passes, List.length_map, length]
    decide
  obtain ⟨image, announced⟩ : ∃ image, s.site.images.published[0]? = some image :=
    ⟨_, List.getElem?_eq_getElem (by omega)⟩
  have completes := inv.follows.published 0 image announced
  refine ⟨?_, image, announced, ?_, ?_⟩
  · rw [inv.follows.fopens, passes, List.length_map, length]
    decide
  · rw [completes.announcement]
    rfl
  · have directory := inv.directory
    rw [passes, length] at directory
    rw [completes.file_name, directory.shown 0 (by decide) (by decide), shown_firstPasses]

end SpectrogramServers.FlutterSite.LiveImages
