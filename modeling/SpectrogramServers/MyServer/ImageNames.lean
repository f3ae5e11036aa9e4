import SpectrogramServers.Lib.Lists
import SpectrogramServers.MyServer.ImageSchedule

/-!
# The names of the images

`openFile` numbers the images modulo 40, and opening an image under a name truncates the
file that was published under it.  A page that has just been told of an image should have
time to fetch it before that happens; how much time is a matter of how many images are
opened in between.

## Counting

Image `m` has the name of image `m + 40` (`imageName_inj`), so what matters is how many
images are open when it is published.  On the row that completes image `m`, images `m +
1`, `m + 2` and `m + 3` are open, in every cycle and in the irregular one from slot 3 to
slot 0 as well (`openedBy_lastRow`); image `m + 4` opens on the next row at the earliest.
So 36 more images are opened before the name is reused, which is nine cycles of the four
slots.

## Along a run

The names of a run are those of the images that it opens, in order, and so are those of
every continuation (`Follows.openedNames`): the schedule of `ImageSchedule` says what is
opened on which row, and nothing else opens a file.  `NamesApart` puts together what is
promised of a state that a run has reached: images that are open at the same time have
different names, and a published name is next given away after exactly 36 others.
-/

namespace SpectrogramServers.MyServer.ImageThread

universe u

variable {ρ : Type u} {put_time : ℤ → String}

/-! ## Names -/

/-- The numbers below 40 are written differently. -/
theorem toString_injective_fin : ∀ i j : Fin 40, toString (i : ℕ) = toString (j : ℕ) → i = j := by
  decide +kernel

/-- **Names repeat every 40 images.** -/
theorem imageName_inj {m n : ℕ} : imageName m = imageName n ↔ m % 40 = n % 40 := by
  constructor
  · intro same
    have bound : ∀ k, k % 40 < 40 := fun k => Nat.mod_lt k (by decide)
    have number : toString (m % 40) = toString (n % 40) := (String.append_left_inj _).mp same
    exact congrArg Fin.val (toString_injective_fin ⟨m % 40, bound m⟩ ⟨n % 40, bound n⟩ number)
  · intro same
    rw [imageName, imageName, same]

/-- The name under which `openFile` opens an image. -/
def State.openedName (s : State ρ) (now : ℤ) : Option String :=
  ((List.finRange 4).find? s.opens).map fun i => ((s.openFile now).slots i).file_name

/-- The names under which images are opened, one after the other. -/
def State.openedNames (put_time : ℤ → String) : State ρ → List (ρ × ℤ) → List String
  | _, [] => []
  | s, event :: events =>
      (s.openedName event.2).toList ++
        (s.rowEvent put_time event.1 event.2).openedNames put_time events

/-! ## What is opened when -/

/-- A row opens one image or none. -/
theorem openedBy_le_succ (n : ℕ) : openedBy n ≤ openedBy (n + 1) := by
  unfold openedBy
  omega

theorem openedBy_mono {m n : ℕ} (le : m ≤ n) : openedBy m ≤ openedBy n :=
  monotone_nat_of_le_succ openedBy_le_succ le

/-- Ten cycles open at least forty images. -/
theorem openedBy_add_cycles (n : ℕ) : openedBy n + 40 ≤ openedBy (n + 21530) := by
  unfold openedBy
  omega

/-- **Image `m` and the three after it** are open on the row that completes image `m`. -/
theorem openedBy_lastRow (m : ℕ) : openedBy (lastRow m) = m + 4 := by
  have split := Nat.div_add_mod m 4
  have bound := Nat.mod_lt m (show 0 < 4 by decide)
  have third : m + 3 < openedBy (lastRow m) := by
    rw [openedBy_of_firstRow, firstRow, lastRow]
    omega
  have fourth : ¬ m + 4 < openedBy (lastRow m) := by
    rw [openedBy_of_firstRow, firstRow, lastRow]
    omega
  omega

/-- An image is opened under its own name. -/
theorem Follows.opens {events : List (ρ × ℤ)} {s : State ρ} (h : Follows put_time events s)
    {now : ℤ} {name : String} (opened : s.openedName now = some name) :
    openedBy (events.length + 1) = openedBy events.length + 1 ∧
      name = imageName (openedBy events.length) := by
  obtain ⟨i, found, rfl⟩ := Option.map_eq_some_iff.mp opened
  obtain ⟨-, count⟩ := openedBy_succ_of_due ((h.find_opens i).mp found)
  refine ⟨count, ?_⟩
  rw [State.openFile, found]
  dsimp only
  rw [Function.update_self, openedSlot, h.file_name_index]
  rfl

theorem Follows.opens_none {events : List (ρ × ℤ)} {s : State ρ}
    (h : Follows put_time events s) {now : ℤ} (opened : s.openedName now = none) :
    openedBy (events.length + 1) = openedBy events.length := by
  apply openedBy_succ_of_not_due
  intro r due
  rw [State.openedName, (h.find_opens r).mpr due] at opened
  cases opened

/-- The names that a row event adds. -/
theorem Follows.openedName_toList {events : List (ρ × ℤ)} {s : State ρ}
    (h : Follows put_time events s) (now : ℤ) :
    (s.openedName now).toList =
      firsts (fun k => imageName (openedBy events.length + k))
        (openedBy (events.length + 1) - openedBy events.length) := by
  cases opened : s.openedName now with
  | none =>
      rw [h.opens_none opened, Nat.sub_self]
      rfl
  | some name =>
      obtain ⟨count, rfl⟩ := h.opens opened
      rw [count, Nat.add_sub_cancel_left]
      rfl

/-- **The names of a run** are those of the images that it opens. -/
theorem Follows.openedNames {events : List (ρ × ℤ)} {s : State ρ}
    (h : Follows put_time events s) (later : List (ρ × ℤ)) :
    s.openedNames put_time later =
      firsts (fun k => imageName (openedBy events.length + k))
        (openedBy (events.length + later.length) - openedBy events.length) := by
  induction later generalizing events s with
  | nil => simp [State.openedNames, firsts]
  | cons event later ih =>
      have grow : (events ++ [event]).length = events.length + 1 := by simp
      have next := ih (h.rowEvent event)
      rw [grow, Nat.add_right_comm] at next
      have first := openedBy_le_succ events.length
      have total := openedBy_mono (Nat.le_add_right (events.length + 1) later.length)
      have parts : openedBy (events.length + 1 + later.length) - openedBy events.length =
          (openedBy (events.length + 1) - openedBy events.length) +
            (openedBy (events.length + 1 + later.length) - openedBy (events.length + 1)) := by
        omega
      rw [State.openedNames, h.openedName_toList, next, List.length_cons, ← Nat.add_assoc,
        Nat.add_right_comm, parts, firsts_add]
      congr 2
      funext k
      congr 1
      omega

/-! ## The names that are in use -/

/-- A slot that is open has the name of its image. -/
theorem Follows.file_name {events : List (ρ × ℤ)} {s : State ρ}
    (h : Follows put_time events s) {r : Fin 4} {m : ℕ}
    (opened : (s.slots r).file_pointer = some m) : (s.slots r).file_name = imageName m := by
  have slot := h.slots r
  rw [Slot.Follows] at slot
  split at slot
  · rw [slot.file_pointer] at opened
    cases opened
  · rw [slot.file_pointer] at opened
    rw [slot.file_name, Option.some.inj opened]

/-- An open image is one of the last four that were opened. -/
theorem Follows.recent {events : List (ρ × ℤ)} {s : State ρ}
    (h : Follows put_time events s) {r : Fin 4} {m : ℕ}
    (opened : (s.slots r).file_pointer = some m) :
    m < openedBy events.length ∧ openedBy events.length ≤ m + 4 := by
  obtain ⟨-, first, last⟩ := (h.pointer_iff r m).mp opened
  refine ⟨openedBy_of_firstRow.mpr first, ?_⟩
  rw [← openedBy_lastRow]
  exact openedBy_mono last.le

/-- After its publication the name of `image` is next given to the image that is opened
after `gap` others. -/
structure ReusedAfter (put_time : ℤ → String) (gap : ℕ) (image : PublishedImage ρ)
    (s : State ρ) (later : List (ρ × ℤ)) : Prop where
  others : ∀ (k : ℕ) (name : String), k < gap →
    (s.openedNames put_time later)[k]? = some name → name ≠ image.file_name
  next : ∀ name : String, (s.openedNames put_time later)[gap]? = some name →
    name = image.file_name
  eventually : 21530 ≤ later.length → gap < (s.openedNames put_time later).length

/-- How the names are used in a state that a run has reached: no name is used twice at the
same time, and every published image keeps its own for 36 more openings. -/
structure NamesApart (put_time : ℤ → String) (s : State ρ) : Prop where
  /-- Slots that are open at the same time have different names. -/
  distinct : ∀ i j : Fin 4, i ≠ j → (s.slots i).file_pointer.isSome →
    (s.slots j).file_pointer.isSome → (s.slots i).file_name ≠ (s.slots j).file_name
  /-- No image is opened under the name of one that is open. -/
  unused : ∀ (now : ℤ) (name : String) (j : Fin 4), s.openedName now = some name →
    (s.slots j).file_pointer.isSome → (s.slots j).file_name ≠ name
  /-- An image that the next row publishes keeps its name for the next 36 images. -/
  reused : ∀ (event : ρ × ℤ) (image : PublishedImage ρ),
    (s.rowEvent put_time event.1 event.2).published = s.published ++ [image] →
    ∀ later : List (ρ × ℤ),
      ReusedAfter put_time 36 image (s.rowEvent put_time event.1 event.2) later

/-- The image that a row publishes. -/
theorem Follows.publishes {events : List (ρ × ℤ)} {s : State ρ}
    (h : Follows put_time events s) {event : ρ × ℤ} {image : PublishedImage ρ}
    (published : (s.rowEvent put_time event.1 event.2).published = s.published ++ [image]) :
    ∃ m, lastRow m = (events ++ [event]).length ∧ image.file_name = imageName m := by
  have next := h.rowEvent event
  have found : (s.rowEvent put_time event.1 event.2).published[s.published.length]? =
      some image := by
    rw [published, List.getElem?_concat_length]
  have count : (s.rowEvent put_time event.1 event.2).published.length =
      s.published.length + 1 := by
    rw [published, List.length_append, List.length_singleton]
  rw [h.published_length, next.published_length] at count
  have last : lastRow (closedBy events.length) ≤ (events ++ [event]).length :=
    closedBy_of_lastRow.mp (by omega)
  have before : ¬ lastRow (closedBy events.length) ≤ events.length :=
    fun early => absurd (closedBy_of_lastRow.mpr early) (Nat.lt_irrefl _)
  refine ⟨closedBy events.length, ?_, ?_⟩
  · rw [List.length_append, List.length_singleton] at last ⊢
    omega
  · rw [← h.published_length]
    exact (next.published _ image found).file_name

theorem Follows.reusedAfter {events : List (ρ × ℤ)} {s : State ρ}
    (h : Follows put_time events s) {image : PublishedImage ρ} {m : ℕ}
    (completed : lastRow m = events.length) (name : image.file_name = imageName m)
    (later : List (ρ × ℤ)) : ReusedAfter put_time 36 image s later := by
  have names := h.openedNames later
  rw [← completed, openedBy_lastRow] at names
  have entry : ∀ (k : ℕ) (other : String), (s.openedNames put_time later)[k]? = some other →
      other = imageName (m + 4 + k) := by
    intro k other found
    rw [names, firsts, List.getElem?_map, Option.map_eq_some_iff] at found
    obtain ⟨l, position, rfl⟩ := found
    obtain ⟨inside, rfl⟩ := List.getElem?_eq_some_iff.mp position
    rw [List.getElem_range]
  refine ⟨fun k other few found => ?_, fun other found => ?_, fun long => ?_⟩
  · rw [entry k other found, name]
    rw [Ne, imageName_inj]
    omega
  · rw [entry 36 other found, name, imageName_inj]
    omega
  · rw [names, length_firsts]
    have cycles := openedBy_add_cycles (lastRow m)
    have mono : openedBy (lastRow m + 21530) ≤ openedBy (lastRow m + later.length) :=
      openedBy_mono (by omega)
    rw [openedBy_lastRow] at cycles
    omega

/-- **Reuse of names.**  In every run of row events, images that are open at the same time
have different names, no image is opened under the name of one that is still open, and
exactly 36 images are opened under other names between the publication of an image and the
next opening of its name. -/
theorem namesApart_rowEvents (put_time : ℤ → String) (file_times : Fin 4 → ℤ)
    (jpeg_structs : Fin 4 → JpegCompress ρ) (events : List (ρ × ℤ)) :
    NamesApart put_time ((start file_times jpeg_structs).rowEvents put_time events) := by
  have h := follows_rowEvents put_time file_times jpeg_structs events
  refine ⟨fun i j different openI openJ same => ?_, fun now name j opened openJ same => ?_,
    fun event image published later => ?_⟩
  · obtain ⟨m, pointerI⟩ := Option.isSome_iff_exists.mp openI
    obtain ⟨n, pointerJ⟩ := Option.isSome_iff_exists.mp openJ
    rw [h.file_name pointerI, h.file_name pointerJ, imageName_inj] at same
    obtain ⟨lowI, highI⟩ := h.recent pointerI
    obtain ⟨lowJ, highJ⟩ := h.recent pointerJ
    -- both are among the last four images, so they are the same image in the same slot
    have image : m = n := by omega
    obtain ⟨slotI, -⟩ := (h.pointer_iff i m).mp pointerI
    obtain ⟨slotJ, -⟩ := (h.pointer_iff j n).mp pointerJ
    exact different (Fin.ext (by omega))
  · obtain ⟨m, pointer⟩ := Option.isSome_iff_exists.mp openJ
    obtain ⟨low, high⟩ := h.recent pointer
    obtain ⟨-, rfl⟩ := h.opens opened
    rw [h.file_name pointer, imageName_inj] at same
    omega
  · obtain ⟨m, completed, name⟩ := h.publishes published
    exact (h.rowEvent event).reusedAfter completed name later

end SpectrogramServers.MyServer.ImageThread
