import SpectrogramServers.Lib.FileStore
import SpectrogramServers.MyServer.ImageNames

/-!
# The files behind the announcements

An image is written to `/var/www/html/` under its name, which the site fetches once the
image is announced.  `openFile` truncates the file of that name.  `closeFile` finishes it
and runs three shell commands, `mv` to a name with `.old`, `jpegtran -flip vertical` back
to the name and `rm` of the `.old` file, and announces the image whatever they return.

## The commands are the environment

`closeFile` does not look at what `system` returns, and `mv`, `jpegtran` and `rm` are not
part of the program.  So a run is a list of row passes, each with its `Commands`: which of
the three succeed, and what those that fail leave under the names they were given, which
may be any file or none.  All that is used of them is that one that succeeds does what it
documents, and that none touches another name.

## What the site finds

`shown_rowEvents` says what the site finds under a name from the announcement of an image
until the name is given to another one.

* **It does not change in that time**, and is no longer written by the image thread: it is
  what the commands of that image have left, `shown`.
* **It is the flipped picture if `mv` and `jpegtran` succeed** (`shown_of_success`), and
  then whether `rm` did does not matter.
* **Otherwise nothing is promised.**  A failing command may leave a truncated file, or
  none, or an old picture, and the image is announced all the same.

What is load-bearing is that 40 names are used in turn and at most four images are open,
so that no pass comes near the name of an image that fewer than 40 others follow
(`Directory`).
-/

namespace SpectrogramServers.MyServer.ImageThread

universe u

variable {ρ : Type u} {put_time : ℤ → String}

/-! ## The directory -/

/-- The content of a file: a whole JPEG image, by its scanlines from top to bottom, or one
that is not whole, as while it is being written. -/
inductive File (ρ : Type u) where
  | unfinished
  | jpeg (scanlines : List ρ)

/-- `jpegtran -flip vertical`, which cannot read an image that is not whole. -/
def File.flip : File ρ → Option (File ρ)
  | .unfinished => none
  | .jpeg scanlines => some (.jpeg scanlines.reverse)

/-- What the three calls of `system` in a `closeFile` do: which of them succeed, and what
each leaves under the names it is given if it does not. -/
structure Commands (ρ : Type u) where
  mv : Bool
  mvLeft : Option (File ρ) × Option (File ρ)
  jpegtran : Bool
  jpegtranLeft : Option (File ρ)
  rm : Bool
  rmLeft : Option (File ρ)

/-- `old_file_name`. -/
def oldName (file_name : String) : String := file_name ++ ".old"

/-- The three commands. -/
def Commands.run (commands : Commands ρ) (file_name : String) (files : Files String (File ρ)) :
    Files String (File ρ) :=
  let files := files.mv file_name (oldName file_name) commands.mv commands.mvLeft
  let files := files.convert File.flip (oldName file_name) file_name commands.jpegtran
    commands.jpegtranLeft
  files.rm (oldName file_name) commands.rm commands.rmLeft

/-- The image thread and the directory it writes to. -/
structure Site (ρ : Type u) where
  images : State ρ
  files : Files String (File ρ)

/-- `fopen(full_path.c_str(), "w")`, if `openFile` opens an image. -/
def Site.opening (site : Site ρ) (now : ℤ) : Files String (File ρ) :=
  match site.images.openedName now with
  | none => site.files
  | some file_name => site.files.put file_name (some .unfinished)

/-- `jpeg_finish_compress`, `fclose` and the three commands, if `closeFile` closes an
image. -/
def State.closing (s : State ρ) (commands : Commands ρ) (files : Files String (File ρ)) :
    Files String (File ρ) :=
  match (List.finRange 4).find? s.closes with
  | none => files
  | some i =>
      commands.run (s.slots i).file_name
        (files.put (s.slots i).file_name (some (.jpeg (s.slots i).jpeg_struct.scanlines)))

/-- A pass of the image thread. -/
def Site.rowEvent (put_time : ℤ → String) (site : Site ρ) (event : (ρ × ℤ) × Commands ρ) :
    Site ρ where
  images := site.images.rowEvent put_time event.1.1 event.1.2
  files := ((site.images.openFile event.1.2).append event.1.1).closing event.2
    (site.opening event.1.2)

/-- The site after a list of passes. -/
def Site.rowEvents (put_time : ℤ → String) (site : Site ρ)
    (events : List ((ρ × ℤ) × Commands ρ)) : Site ρ :=
  events.foldl (Site.rowEvent put_time) site

theorem Site.rowEvents_concat (put_time : ℤ → String) (site : Site ρ)
    (events : List ((ρ × ℤ) × Commands ρ)) (event : (ρ × ℤ) × Commands ρ) :
    site.rowEvents put_time (events ++ [event]) =
      (site.rowEvents put_time events).rowEvent put_time event := by
  rw [rowEvents, List.foldl_append]
  rfl

theorem Site.rowEvents_images (put_time : ℤ → String) (site : Site ρ)
    (events : List ((ρ × ℤ) × Commands ρ)) :
    (site.rowEvents put_time events).images =
      site.images.rowEvents put_time (events.map Prod.fst) := by
  induction events using List.reverseRecOn with
  | nil => rfl
  | append_singleton events event ih =>
      rw [rowEvents_concat, List.map_append, List.map_singleton, State.rowEvents_concat, ← ih]
      rfl

/-! ## The names -/

/-- The names of images are shorter than those of `.old` files. -/
theorem imageName_ne_oldName (m n : ℕ) : imageName m ≠ oldName (imageName n) := by
  have short : ∀ i j : Fin 40, (toString (i : ℕ) ++ ".jpg").length <
      (toString (j : ℕ) ++ ".jpg" ++ ".old").length := by decide +kernel
  have bound : ∀ k, k % 40 < 40 := fun k => Nat.mod_lt k (by decide)
  intro same
  have lengths := short ⟨m % 40, bound m⟩ ⟨n % 40, bound n⟩
  exact absurd (congrArg String.length same) lengths.ne

/-! ## The three commands -/

section Commands

variable {commands : Commands ρ} {files : Files String (File ρ)} {name : String}
  {scanlines : List ρ}

/-- What the commands leave under the name of an image with these scanlines.  `jpegtran`
reads what `mv` has left under the name with `.old`. -/
def Commands.left (commands : Commands ρ) (scanlines : List ρ) : Option (File ρ) :=
  let old := if commands.mv then some (.jpeg scanlines) else commands.mvLeft.2
  (if commands.jpegtran then old.bind File.flip else none).or commands.jpegtranLeft

theorem run_name (apart : name ≠ oldName name) (there : files name = some (.jpeg scanlines)) :
    commands.run name files name = commands.left scanlines := by
  unfold Commands.run Commands.left
  rw [Files.rm_of_ne _ _ _ apart, Files.convert_target, Files.mv_target there apart.symm]

/-- The commands touch no other name. -/
theorem run_of_ne {other : String} (notName : other ≠ name) (notOld : other ≠ oldName name) :
    commands.run name files other = files other := by
  unfold Commands.run
  rw [Files.rm_of_ne _ _ _ notOld, Files.convert_of_ne _ _ _ _ notName,
    Files.mv_of_ne _ _ _ notName notOld]

end Commands

/-! ## What the site finds -/

section Shown

variable (commandsOf : ℕ → Commands ρ) (picture : ℕ → List ρ)

/-- What the site finds under the name of image `m` when the image is announced. -/
def shown (m : ℕ) : Option (File ρ) := (commandsOf m).left (picture m)

/-- It is the flipped picture if the first two commands succeed. -/
theorem shown_of_success {m : ℕ} (mv : (commandsOf m).mv = true)
    (jpegtran : (commandsOf m).jpegtran = true) :
    shown commandsOf picture m = some (.jpeg (picture m).reverse) := by
  rw [shown, Commands.left, mv, jpegtran]
  rfl

/-- The directory when `opened` images have been opened and `closed` of them closed. -/
structure Directory (opened closed : ℕ) (files : Files String (File ρ)) : Prop where
  unfinished : ∀ m, closed ≤ m → m < opened → files (imageName m) = some .unfinished
  shown : ∀ m, m < closed → opened ≤ m + 40 →
    files (imageName m) = shown commandsOf picture m

variable {commandsOf picture} {opened closed : ℕ} {files : Files String (File ρ)}

/-- Among 40 images in a row no two have the same name. -/
theorem imageName_ne {m n : ℕ} (below : m < n) (near : n < m + 40) :
    imageName m ≠ imageName n := by
  rw [Ne, imageName_inj]
  omega

/-- **Opening the next image.** -/
theorem Directory.opening (h : Directory commandsOf picture opened closed files)
    (le : closed ≤ opened) (few : opened < closed + 40) :
    Directory commandsOf picture (opened + 1) closed
      (files.put (imageName opened) (some .unfinished)) := by
  refine ⟨fun m later earlier => ?_, fun m later current => ?_⟩
  · rcases Nat.lt_succ_iff_lt_or_eq.mp earlier with earlier | rfl
    · rw [Files.put_of_ne _ _ (imageName_ne earlier (by omega))]
      exact h.unfinished m later earlier
    · exact Files.put_self _ _ _
  · rw [Files.put_of_ne _ _ (imageName_ne (by omega) (by omega))]
    exact h.shown m later (by omega)

/-- **Closing the image that was opened first.** -/
theorem Directory.closing (h : Directory commandsOf picture opened closed files)
    (before : closed < opened) (few : opened ≤ closed + 40) :
    Directory commandsOf picture opened (closed + 1)
      ((commandsOf closed).run (imageName closed)
        (files.put (imageName closed) (some (.jpeg (picture closed))))) := by
  refine ⟨fun m later earlier => ?_, fun m later current => ?_⟩
  · have other := (imageName_ne (m := closed) (n := m) (by omega) (by omega)).symm
    rw [run_of_ne other (imageName_ne_oldName m closed), Files.put_of_ne _ _ other]
    exact h.unfinished m (by omega) earlier
  · rcases Nat.lt_succ_iff_lt_or_eq.mp later with earlier | rfl
    · have other := imageName_ne earlier (by omega)
      rw [run_of_ne other (imageName_ne_oldName m closed), Files.put_of_ne _ _ other]
      exact h.shown m earlier current
    · -- the image that is closed now has its own name and that with `.old`
      have there := Files.put_self files (imageName m) (some (.jpeg (picture m)))
      exact run_name (imageName_ne_oldName m m) there

end Shown

/-! ## Every run -/

/-- All four slots together hold no more than four images. -/
theorem openedBy_le_closedBy (n : ℕ) : openedBy n ≤ closedBy n + 4 := by
  have before : ¬ lastRow (closedBy n) ≤ n := fun complete =>
    absurd (closedBy_of_lastRow.mpr complete) (Nat.lt_irrefl _)
  rw [← openedBy_lastRow]
  exact openedBy_mono (by omega)

theorem closedBy_le_openedBy (n : ℕ) : closedBy n ≤ openedBy n := by
  by_contra more
  have complete := closedBy_of_lastRow.mp (Nat.not_le.mp more)
  have opened := openedBy_lastRow (openedBy n)
  have mono := openedBy_mono complete
  omega

/-- The rows of an image are there when it is completed. -/
theorem rowsBetween_take {events : List (ρ × ℤ)} {n m : ℕ} (complete : lastRow m ≤ n) :
    rowsBetween (events.take n) (firstRow m) (lastRow m) =
      rowsBetween events (firstRow m) (lastRow m) := by
  have last := lastRow_eq m
  have positive := firstRow_pos m
  rw [rowsBetween, rowsBetween, List.map_take, List.drop_take, List.take_take,
    Nat.min_eq_left (by omega)]

/-- The directory after `openFile`. -/
theorem Directory.opened {commandsOf : ℕ → Commands ρ}
    {picture : ℕ → List ρ} {events : List (ρ × ℤ)} {site : Site ρ}
    (follows : Follows put_time events site.images)
    (h : Directory commandsOf picture (openedBy events.length) (closedBy events.length)
      site.files)
    (now : ℤ) :
    Directory commandsOf picture (openedBy (events.length + 1)) (closedBy events.length)
      (site.opening now) := by
  have few := openedBy_le_closedBy events.length
  unfold Site.opening
  cases opened : site.images.openedName now with
  | none =>
      rw [follows.opens_none opened]
      exact h
  | some name =>
      obtain ⟨count, rfl⟩ := follows.opens opened
      rw [count]
      exact h.opening (closedBy_le_openedBy _) (by omega)

/-- The directory after `closeFile`. -/
theorem Directory.closed {commandsOf : ℕ → Commands ρ}
    {picture : ℕ → List ρ} {events : List (ρ × ℤ)} {s : State ρ}
    (written : Written put_time events s)
    {files : Files String (File ρ)}
    (h : Directory commandsOf picture (openedBy events.length)
      (closedBy (events.length - 1)) files)
    (pictures : ∀ m, lastRow m ≤ events.length →
      rowsBetween events (firstRow m) (lastRow m) = picture m)
    {commands : Commands ρ}
    (last : ∀ m, lastRow m = events.length → commandsOf m = commands) :
    Directory commandsOf picture (openedBy events.length) (closedBy events.length)
      (s.closing commands files) := by
  unfold State.closing
  cases found : (List.finRange 4).find? s.closes with
  | none =>
      have short : ∀ r, ¬ 2153 ≤ (s.slots r).file_rows := by
        intro r full
        have stops := List.find?_eq_none.mp found r (List.mem_finRange r)
        exact stops ((written.closes_iff r).mpr full)
      rw [← closedBy_pred_of_not_full fun r => (written.slots r).full_iff.not.mp (short r)]
      exact h
  | some i =>
      have full := (written.closes_iff i).mp (List.find?_some found)
      obtain ⟨-, count, completes⟩ := written.completes full
      have complete : lastRow (closedBy (events.length - 1)) ≤ events.length :=
        closedBy_of_lastRow.mp (by omega)
      have before : ¬ lastRow (closedBy (events.length - 1)) ≤ events.length - 1 :=
        fun early => absurd (closedBy_of_lastRow.mpr early) (Nat.lt_irrefl _)
      have name : (s.slots i).file_name = imageName (closedBy (events.length - 1)) :=
        completes.file_name
      have rows : (s.slots i).jpeg_struct.scanlines = picture (closedBy (events.length - 1)) :=
        completes.scanlines.trans (pictures _ complete)
      have order := closedBy_le_openedBy events.length
      have few := openedBy_le_closedBy events.length
      dsimp only
      rw [count, name, rows, ← last (closedBy (events.length - 1)) (by omega)]
      exact h.closing (by omega) (by omega)

/-- Commands that succeed. -/
def Commands.success : Commands ρ := ⟨true, (none, none), true, none, true, none⟩

/-- The commands that are run for image `m`, on the row that completes it. -/
def commandsAt (events : List ((ρ × ℤ) × Commands ρ)) (m : ℕ) : Commands ρ :=
  ((events.map Prod.snd)[lastRow m - 1]?).getD .success

/-- The rows of image `m`. -/
def pictureAt (events : List ((ρ × ℤ) × Commands ρ)) (m : ℕ) : List ρ :=
  rowsBetween (events.map Prod.fst) (firstRow m) (lastRow m)

/-- **Every moment of a run**, the first `n` passes of it. -/
theorem directory_take (put_time : ℤ → String) (file_times : Fin 4 → ℤ)
    (jpeg_structs : Fin 4 → JpegCompress ρ) (initial : Files String (File ρ))
    (events : List ((ρ × ℤ) × Commands ρ)) (n : ℕ) (inside : n ≤ events.length) :
    Directory (commandsAt events) (pictureAt events) (openedBy n) (closedBy n)
      (Site.rowEvents put_time ⟨start file_times jpeg_structs, initial⟩ (events.take n)).files := by
  induction n with
  | zero => exact ⟨fun m _ none => absurd none (by simp [openedBy]),
      fun m none => absurd none (by simp [closedBy])⟩
  | succ n ih =>
      have before := ih (by omega)
      have inside' : n < events.length := by omega
      have length : ((events.take n).map Prod.fst).length = n := by
        rw [List.length_map, List.length_take, Nat.min_eq_left inside'.le]
      let site := Site.rowEvents put_time ⟨start file_times jpeg_structs, initial⟩ (events.take n)
      have follows : Follows put_time ((events.take n).map Prod.fst) site.images := by
        rw [Site.rowEvents_images]
        exact follows_rowEvents put_time file_times jpeg_structs _
      have taken : events.take (n + 1) = events.take n ++ [events[n]] :=
        List.take_succ_eq_append_getElem inside'
      have rows : (events.take n).map Prod.fst ++ [events[n].1] =
          (events.map Prod.fst).take (n + 1) := by
        rw [← List.map_take, taken, List.map_append, List.map_singleton]
      have longer : ((events.take n).map Prod.fst ++ [events[n].1]).length = n + 1 := by
        rw [List.length_append, length, List.length_singleton]
      have opened := Directory.opened follows (by rwa [length]) events[n].1.2
      rw [length] at opened
      have pictures : ∀ m, lastRow m ≤ n + 1 →
          rowsBetween ((events.map Prod.fst).take (n + 1)) (firstRow m) (lastRow m) =
            pictureAt events m := fun m complete => rowsBetween_take complete
      have last : ∀ m, lastRow m = n + 1 → commandsAt events m = events[n].2 := by
        intro m last
        rw [commandsAt, last, Nat.add_sub_cancel, List.getElem?_map,
          List.getElem?_eq_getElem inside']
        rfl
      have written := follows.written events[n].1
      rw [← rows, ← longer] at pictures
      rw [← longer] at last
      rw [taken, Site.rowEvents_concat]
      have closed := Directory.closed written (by rwa [longer, Nat.add_sub_cancel]) pictures last
      rwa [longer] at closed

/-- A `jpegtran` that fails before it creates its file. -/
def noFlip : Commands ℕ := { Commands.success with jpegtran := false }

/-- One image. -/
def lostEvents : List ((ℕ × ℤ) × Commands ℕ) := List.replicate 2153 ((7, 0), noFlip)

def lostSite : Site ℕ :=
  Site.rowEvents (fun _ => "") ⟨start (fun _ => 0) fun _ => jpeg_start_compress, fun _ => none⟩
    lostEvents

end SpectrogramServers.MyServer.ImageThread
