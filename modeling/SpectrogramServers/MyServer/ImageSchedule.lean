import Mathlib.Data.List.Induction
import Mathlib.Data.List.Pairwise
import SpectrogramServers.MyServer.ImageThread

/-!
# The schedule of the images

The image thread keeps up to four files open and appends every row to all of them, each
file a quarter of an image behind the one before.  When a file has its 2153 rows it is
closed and published, and its slot opens the next image.

## The abstract schedule

Image `m` is appended to slot `m % 4`, from row `firstRow m` to row `lastRow m` (rows are
counted from 1). The slots start 538, 538, 538 and 539 rows apart, so slot 0 reopens one
row later than its predecessor's 538 rows would allow; what keeps it in step is that all
four counters are functions of the number of rows alone.  `openedBy` and `closedBy` count
the images, and both say of an image by which row it has been opened and completed
(`openedBy_of_firstRow`, `closedBy_of_lastRow`).

## The refinement

`Follows` is the invariant that joins the code to the schedule: after `n` rows, slot `r`
has `(n - 538 r) % 2153` rows of image `4 ((n - 538 r) / 2153) + r`.  A row event is
`openFile`, the append loop and `closeFile`, and `Written` is what holds between the last
two.  `Follows.rowEvent` is the step lemma and `follows_rowEvents` the run; everything the
schedule promises (`Staggered`) is read off it with linear arithmetic.

That `openFile` tests the rows of the *previous* slot, and stops at the first slot that
passes, is covered by `Due`: at most one slot is due on a row, and it is the one that is
found.
-/

namespace SpectrogramServers.MyServer.ImageThread

universe u

variable {ρ : Type u} {put_time : ℤ → String}

/-! ## The abstract schedule -/

/-- The first row of image `m`. -/
def firstRow (m : ℕ) : ℕ := 2153 * (m / 4) + 538 * (m % 4) + 1

/-- The row that completes image `m`. -/
def lastRow (m : ℕ) : ℕ := 2153 * (m / 4) + 538 * (m % 4) + 2153

/-- The name image `m` is opened under. -/
def imageName (m : ℕ) : String := toString (m % 40) ++ ".jpg"

/-- The image slot `r` is at, or is to open next, after `n` rows. -/
def imageAt (n r : ℕ) : ℕ := 4 * ((n - 538 * r) / 2153) + r

/-- How many images have been opened after `n` rows. -/
def openedBy (n : ℕ) : ℕ :=
  (n + 2152) / 2153 + (n - 538 + 2152) / 2153 + (n - 1076 + 2152) / 2153 +
    (n - 1614 + 2152) / 2153

/-- How many images have been completed after `n` rows. -/
def closedBy (n : ℕ) : ℕ :=
  n / 2153 + (n - 538) / 2153 + (n - 1076) / 2153 + (n - 1614) / 2153

/-- Rows `a`, …, `b` of the events. -/
def rowsBetween (events : List (ρ × ℤ)) (a b : ℕ) : List ρ :=
  ((events.map Prod.fst).drop (a - 1)).take (b + 1 - a)

theorem firstRow_imageAt (n : ℕ) (r : Fin 4) :
    firstRow (imageAt n r) = 2153 * ((n - 538 * r) / 2153) + 538 * r + 1 := by
  have bound := r.isLt
  rw [firstRow, imageAt]
  omega

theorem firstRow_pos (m : ℕ) : 0 < firstRow m := Nat.succ_pos _

theorem lastRow_eq (m : ℕ) : lastRow m = firstRow m + 2152 := by
  rw [lastRow, firstRow]

/-- An image has been opened from its first row on. -/
theorem openedBy_of_firstRow {m n : ℕ} : m < openedBy n ↔ firstRow m ≤ n := by
  have split := Nat.div_add_mod m 4
  have bound := Nat.mod_lt m (show 0 < 4 by decide)
  rw [openedBy, firstRow]
  rcases (show m % 4 = 0 ∨ m % 4 = 1 ∨ m % 4 = 2 ∨ m % 4 = 3 by omega) with h | h | h | h <;>
    rw [h] at split ⊢ <;> omega

/-- An image has been completed from its last row on. -/
theorem closedBy_of_lastRow {m n : ℕ} : m < closedBy n ↔ lastRow m ≤ n := by
  have split := Nat.div_add_mod m 4
  have bound := Nat.mod_lt m (show 0 < 4 by decide)
  rw [closedBy, lastRow]
  rcases (show m % 4 = 0 ∨ m % 4 = 1 ∨ m % 4 = 2 ∨ m % 4 = 3 by omega) with h | h | h | h <;>
    rw [h] at split ⊢ <;> omega

/-- A slot opens an image exactly when its previous image has just been
completed, or when its turn comes for the first time. -/
def Due (n r : ℕ) : Prop := 538 * r ≤ n ∧ (n - 538 * r) % 2153 = 0

instance (n r : ℕ) : Decidable (Due n r) := inferInstanceAs (Decidable (_ ∧ _))

theorem due_unique {n : ℕ} {r t : Fin 4} (hr : Due n r) (ht : Due n t) : r = t := by
  have hr4 := r.isLt
  have ht4 := t.isLt
  obtain ⟨hr1, hr2⟩ := hr
  obtain ⟨ht1, ht2⟩ := ht
  ext
  omega

/-- Four counters that have made `q` turns, the first `r` of them one more. -/
theorem four_turns (f : ℕ → ℕ) {q r : ℕ} (bound : r ≤ 4)
    (turns : ∀ t, t < 4 → f t = q + if t < r then 1 else 0) :
    f 0 + f 1 + f 2 + f 3 = 4 * q + r := by
  rw [turns 0 (by decide), turns 1 (by decide), turns 2 (by decide), turns 3 (by decide)]
  rcases (show r = 0 ∨ r = 1 ∨ r = 2 ∨ r = 3 ∨ r = 4 by omega)
    with rfl | rfl | rfl | rfl | rfl <;> simp <;> omega

/-- Slot by slot, what `openedBy` adds up. -/
theorem openedBy_eq (n : ℕ) : openedBy n =
    (n - 538 * 0 + 2152) / 2153 + (n - 538 * 1 + 2152) / 2153 +
      (n - 538 * 2 + 2152) / 2153 + (n - 538 * 3 + 2152) / 2153 := rfl

/-- Slot by slot, what `closedBy` adds up. -/
theorem closedBy_eq (n : ℕ) : closedBy n =
    (n - 538 * 0) / 2153 + (n - 538 * 1) / 2153 + (n - 538 * 2) / 2153 +
      (n - 538 * 3) / 2153 := rfl

theorem openedBy_succ_of_due {n : ℕ} {r : Fin 4} (h : Due n r) :
    openedBy n = imageAt n r ∧ openedBy (n + 1) = openedBy n + 1 := by
  obtain ⟨started, multiple⟩ := h
  have bound := r.isLt
  -- the slots before `r` have made one turn more
  obtain ⟨q, rows⟩ : ∃ q, n = 538 * r + 2153 * q := ⟨(n - 538 * r) / 2153, by omega⟩
  have image : imageAt n r = 4 * q + r := by
    rw [imageAt, rows, Nat.add_sub_cancel_left, Nat.mul_div_cancel_left q (by decide)]
  have before : openedBy n = 4 * q + r := by
    rw [openedBy_eq]
    refine four_turns (fun t => (n - 538 * t + 2152) / 2153) bound.le fun t ht => ?_
    split <;> omega
  have after : openedBy (n + 1) = 4 * q + (r + 1) := by
    rw [openedBy_eq]
    refine four_turns (fun t => (n + 1 - 538 * t + 2152) / 2153) bound fun t ht => ?_
    split <;> omega
  rw [image, after, before]
  exact ⟨rfl, rfl⟩

theorem openedBy_succ_of_not_due {n : ℕ} (h : ∀ r : Fin 4, ¬ Due n r) :
    openedBy (n + 1) = openedBy n := by
  have still : ∀ r : Fin 4, (n + 1 - 538 * r + 2152) / 2153 = (n - 538 * r + 2152) / 2153 := by
    intro r
    have notDue := h r
    unfold Due at notDue
    omega
  rw [openedBy_eq, openedBy_eq]
  exact congrArg₂ _ (congrArg₂ _ (congrArg₂ _ (still 0) (still 1)) (still 2)) (still 3)

theorem closedBy_pred_of_full {n : ℕ} {r : Fin 4} (started : 538 * (r : ℕ) < n)
    (complete : (n - 538 * r) % 2153 = 0) :
    closedBy (n - 1) = imageAt (n - 1) r ∧ closedBy n = closedBy (n - 1) + 1 := by
  have bound := r.isLt
  obtain ⟨q, rows⟩ : ∃ q, n = 538 * r + 2153 * (q + 1) :=
    ⟨(n - 538 * r) / 2153 - 1, by omega⟩
  have image : imageAt (n - 1) r = 4 * q + r := by
    rw [imageAt]
    omega
  have before : closedBy (n - 1) = 4 * q + r := by
    rw [closedBy_eq]
    refine four_turns (fun t => (n - 1 - 538 * t) / 2153) bound.le fun t ht => ?_
    split <;> omega
  have after : closedBy n = 4 * q + (r + 1) := by
    rw [closedBy_eq]
    refine four_turns (fun t => (n - 538 * t) / 2153) bound fun t ht => ?_
    split <;> omega
  rw [image, after, before]
  exact ⟨rfl, rfl⟩

theorem closedBy_pred_of_not_full {n : ℕ}
    (h : ∀ r : Fin 4, ¬ (538 * (r : ℕ) < n ∧ (n - 538 * r) % 2153 = 0)) :
    closedBy (n - 1) = closedBy n := by
  have still : ∀ r : Fin 4, (n - 1 - 538 * r) / 2153 = (n - 538 * r) / 2153 := by
    intro r
    have notFull := h r
    omega
  rw [closedBy_eq, closedBy_eq]
  exact congrArg₂ _ (congrArg₂ _ (congrArg₂ _ (still 0) (still 1)) (still 2)) (still 3)

/-! ## One slot -/

/-- The slot has image `m` open, with every row since its first. -/
structure Slot.Holds (events : List (ρ × ℤ)) (m : ℕ) (slot : Slot ρ) : Prop where
  file_pointer : slot.file_pointer = some m
  file_atomic : slot.file_atomic = true
  file_rows : slot.file_rows + firstRow m = events.length + 1
  file_name : slot.file_name = imageName m
  file_time : (events.map Prod.snd)[firstRow m - 1]? = some slot.file_time
  image_height : slot.jpeg_struct.image_height = 2153
  scanlines : slot.jpeg_struct.scanlines = (events.map Prod.fst).drop (firstRow m - 1)

structure Slot.Idle (slot : Slot ρ) : Prop where
  file_pointer : slot.file_pointer = none
  file_atomic : slot.file_atomic = false
  file_rows : slot.file_rows = 0

/-- What slot `r` looks like after the events, between two passes. -/
def Slot.Follows (events : List (ρ × ℤ)) (r : Fin 4) (slot : Slot ρ) : Prop :=
  if (events.length - 538 * r) % 2153 = 0 then slot.Idle
  else slot.Holds events (imageAt events.length r)

/-- What slot `r` looks like after the append loop of the last of the events. -/
def Slot.Written (events : List (ρ × ℤ)) (r : Fin 4) (slot : Slot ρ) : Prop :=
  if events.length ≤ 538 * r then slot.Idle
  else slot.Holds events (imageAt (events.length - 1) r)

theorem Slot.Follows.file_rows {events : List (ρ × ℤ)} {r : Fin 4} {slot : Slot ρ}
    (h : slot.Follows events r) :
    slot.file_rows = (events.length - 538 * r) % 2153 := by
  rw [Slot.Follows] at h
  split at h
  next idle => rw [h.file_rows, idle]
  next busy =>
      have rows := h.file_rows
      rw [firstRow_imageAt] at rows
      omega

theorem Slot.Follows.file_pointer {events : List (ρ × ℤ)} {r : Fin 4} {slot : Slot ρ}
    (h : slot.Follows events r) :
    slot.file_pointer =
      if (events.length - 538 * r) % 2153 = 0 then none
      else some (imageAt events.length r) := by
  rw [Slot.Follows] at h
  split at h
  next idle => rw [if_pos idle, h.file_pointer]
  next busy => rw [if_neg busy, h.file_pointer]

theorem Slot.Written.file_rows {events : List (ρ × ℤ)} {r : Fin 4} {slot : Slot ρ}
    (h : slot.Written events r) :
    slot.file_rows =
      if events.length ≤ 538 * r then 0 else (events.length - 1 - 538 * r) % 2153 + 1 := by
  rw [Slot.Written] at h
  split at h
  next early => rw [if_pos early, h.file_rows]
  next started =>
      have rows := h.file_rows
      rw [firstRow_imageAt] at rows
      rw [if_neg started]
      omega

/-- A row is added to an image that is open and not complete. -/
theorem Slot.Holds.append {events : List (ρ × ℤ)} {m : ℕ} {slot : Slot ρ}
    (h : slot.Holds events m) (started : firstRow m ≤ events.length)
    (room : events.length < lastRow m) (event : ρ × ℤ) :
    (slot.append event.1).Holds (events ++ [event]) m := by
  have written : slot.jpeg_struct.jpeg_write_scanlines event.1 =
      { slot.jpeg_struct with scanlines := slot.jpeg_struct.scanlines ++ [event.1] } := by
    have short : (events.map Prod.fst).length - (firstRow m - 1) < 2153 := by
      rw [lastRow_eq] at room
      rw [List.length_map]
      omega
    apply if_pos
    rw [h.scanlines, h.image_height, List.length_drop]
    exact short
  have step : slot.append event.1 =
      { slot with
        file_rows := slot.file_rows + 1
        jpeg_struct :=
          { slot.jpeg_struct with
            scanlines := slot.jpeg_struct.scanlines ++ [event.1] } } := by
    rw [Slot.append, if_pos h.file_atomic, written]
  have rows := h.file_rows
  have positive := firstRow_pos m
  rw [step]
  refine ⟨h.file_pointer, h.file_atomic, ?_, h.file_name, ?_, h.image_height, ?_⟩
  · show slot.file_rows + 1 + firstRow m = (events ++ [event]).length + 1
    rw [List.length_append, List.length_singleton]
    omega
  · rw [List.map_append, List.getElem?_append_left (by rw [List.length_map]; omega)]
    exact h.file_time
  · show slot.jpeg_struct.scanlines ++ [event.1] = _
    rw [h.scanlines, List.map_append, List.drop_append_of_le_length
      (by rw [List.length_map]; omega)]
    rfl

/-- The first row of a newly opened image. -/
theorem holds_openedSlot {events : List (ρ × ℤ)} {m : ℕ}
    (first : firstRow m = events.length + 1) (event : ρ × ℤ) :
    ((openedSlot m (m % 40) event.2).append event.1).Holds (events ++ [event]) m := by
  have position : firstRow m - 1 = events.length := by omega
  refine ⟨rfl, rfl, ?_, rfl, ?_, rfl, ?_⟩
  · show 0 + 1 + firstRow m = (events ++ [event]).length + 1
    rw [List.length_append, List.length_singleton]
    omega
  · rw [position, List.map_append, List.getElem?_append_right (by rw [List.length_map]),
      List.length_map, Nat.sub_self]
    rfl
  · rw [position, List.map_append, List.drop_append_of_le_length
      (by rw [List.length_map]), List.drop_of_length_le (by rw [List.length_map])]
    rfl

theorem Slot.Idle.append {slot : Slot ρ} (h : slot.Idle) (row : ρ) :
    slot.append row = slot := by
  rw [Slot.append, h.file_atomic]
  rfl

theorem Slot.idle_closed (slot : Slot ρ) : slot.closed.Idle := ⟨rfl, rfl, rfl⟩

/-- **One pass over one slot, up to the append loop.** -/
theorem Slot.Follows.written {events : List (ρ × ℤ)} {r : Fin 4} {slot : Slot ρ}
    (h : slot.Follows events r) (event : ρ × ℤ) :
    ((if Due events.length r then
        openedSlot (imageAt events.length r) (imageAt events.length r % 40) event.2
      else slot).append event.1).Written (events ++ [event]) r := by
  have grow : (events ++ [event]).length = events.length + 1 := by simp
  rw [Slot.Written, grow, Nat.add_sub_cancel]
  by_cases due : Due events.length r
  · rw [if_pos due]
    obtain ⟨turn, full⟩ := due
    rw [if_neg (by omega)]
    apply holds_openedSlot
    rw [firstRow_imageAt]
    omega
  · rw [if_neg due]
    rw [Slot.Follows] at h
    by_cases turn : 538 * (r : ℕ) ≤ events.length
    · have busy : (events.length - 538 * r) % 2153 ≠ 0 := fun full => due ⟨turn, full⟩
      rw [if_neg busy] at h
      rw [if_neg (by omega)]
      apply h.append
      · rw [firstRow_imageAt]
        omega
      · rw [lastRow_eq, firstRow_imageAt]
        omega
    · rw [if_pos (by omega)] at h
      rw [if_pos (by omega), h.append]
      exact h

/-- A slot is full after the append loop exactly when its image is complete. -/
theorem Slot.Written.full_iff {events : List (ρ × ℤ)} {r : Fin 4} {slot : Slot ρ}
    (h : slot.Written events r) :
    2153 ≤ slot.file_rows ↔
      538 * r < events.length ∧ (events.length - 538 * r) % 2153 = 0 := by
  rw [h.file_rows]
  split
  · omega
  · omega

/-- **One pass over one slot, from the append loop on.** -/
theorem Slot.Written.follows {events : List (ρ × ℤ)} {r : Fin 4} {slot : Slot ρ}
    (h : slot.Written events r) :
    (if 2153 ≤ slot.file_rows then slot.closed else slot).Follows events r := by
  rw [Slot.Follows]
  by_cases full : 2153 ≤ slot.file_rows
  · obtain ⟨started, complete⟩ := h.full_iff.mp full
    rw [if_pos full, if_pos complete]
    exact slot.idle_closed
  · rw [if_neg full]
    rw [h.full_iff] at full
    rw [Slot.Written] at h
    by_cases turn : events.length ≤ 538 * r
    · rw [if_pos turn] at h
      rw [if_pos (by omega)]
      exact h
    · rw [if_neg turn] at h
      have same : imageAt (events.length - 1) r = imageAt events.length r := by
        rw [imageAt, imageAt]
        omega
      rw [if_neg fun complete => full ⟨by omega, complete⟩, ← same]
      exact h

/-! ## One pass over the four slots -/

/-- What is published of image `m`. -/
structure PublishedImage.Completes (put_time : ℤ → String) (events : List (ρ × ℤ)) (m : ℕ)
    (image : PublishedImage ρ) : Prop where
  file : image.file = m
  slot : (image.slot : ℕ) = m % 4
  file_name : image.file_name = imageName m
  file_time : (events.map Prod.snd)[firstRow m - 1]? = some image.file_time
  image_height : image.image_height = 2153
  scanlines : image.scanlines = rowsBetween events (firstRow m) (lastRow m)
  announcement : image.announcement =
    .object [("Image Name", .string image.file_name),
      ("Image Time", .string (put_time image.file_time)), ("Served", .bool true)]

/-- What is published of an image does not depend on later rows. -/
theorem PublishedImage.Completes.concat {events : List (ρ × ℤ)} {m : ℕ}
    {image : PublishedImage ρ} (h : image.Completes put_time events m)
    (complete : lastRow m ≤ events.length) (event : ρ × ℤ) :
    image.Completes put_time (events ++ [event]) m := by
  have last := lastRow_eq m
  have positive := firstRow_pos m
  refine { h with file_time := ?_, scanlines := ?_ }
  · rw [List.map_append, List.getElem?_append_left (by rw [List.length_map]; omega)]
    exact h.file_time
  · rw [h.scanlines, rowsBetween, rowsBetween, List.map_append,
      List.drop_append_of_le_length (by rw [List.length_map]; omega),
      List.take_append_of_le_length (by rw [List.length_drop, List.length_map]; omega)]

/-- **The schedule invariant.** -/
structure Follows (put_time : ℤ → String) (events : List (ρ × ℤ)) (s : State ρ) : Prop where
  slots : ∀ r, (s.slots r).Follows events r
  first_file : s.first_file = decide (0 < events.length)
  file_name_index : s.file_name_index = openedBy events.length % 40
  fopens : s.fopens = openedBy events.length
  published_length : s.published.length = closedBy events.length
  published : ∀ (m : ℕ) (image : PublishedImage ρ), s.published[m]? = some image →
    image.Completes put_time events m

/-- The four slots and the history between the append loop and `closeFile`. -/
structure Written (put_time : ℤ → String) (events : List (ρ × ℤ)) (s : State ρ) : Prop where
  slots : ∀ r, (s.slots r).Written events r
  first_file : s.first_file = true
  file_name_index : s.file_name_index = openedBy events.length % 40
  fopens : s.fopens = openedBy events.length
  published_length : s.published.length = closedBy (events.length - 1)
  published : ∀ (m : ℕ) (image : PublishedImage ρ), s.published[m]? = some image →
    image.Completes put_time events m

theorem previousIndex_rows {n : ℕ} (positive : 0 < n) (r : Fin 4) :
    ((n - 538 * r) % 2153 = 0 ∧ 538 ≤ (n - 538 * (previousIndex r : ℕ)) % 2153) ↔
      Due n r := by
  -- slot 0 follows slot 3, which starts 539 rows before it and not 538
  rw [Due, previousIndex]
  rcases (show r = 0 ∨ r = 1 ∨ r = 2 ∨ r = 3 by omega) with rfl | rfl | rfl | rfl
  · simp
    omega
  · simp
    omega
  · simp
    omega
  · simp
    omega

/-- `openFile` opens the slot whose turn it is. -/
theorem Follows.find_opens {events : List (ρ × ℤ)} {s : State ρ}
    (h : Follows put_time events s) (r : Fin 4) :
    (List.finRange 4).find? s.opens = some r ↔ Due events.length r := by
  have own := fun i => (h.slots i).file_pointer
  have previous := fun i => (h.slots (previousIndex i)).file_rows
  rcases Nat.eq_zero_or_pos events.length with empty | positive
  · -- before the first row every slot is free and `first_file` stops at slot 0
    have all : s.opens = fun _ => true := by
      funext i
      simp [State.opens, own, h.first_file, empty]
    have zero : Due 0 r ↔ r = 0 := by
      rw [Due]
      omega
    rw [all, empty, zero]
    show some (0 : Fin 4) = some r ↔ r = 0
    rw [Option.some_inj, eq_comm]
  · have opens : ∀ i, s.opens i = true ↔ Due events.length i := by
      intro i
      rw [← previousIndex_rows positive i, State.opens, h.first_file, own, previous]
      by_cases idle : (events.length - 538 * i) % 2153 = 0
      · simp [idle, positive]
      · simp [idle]
    rw [find?_finRange_eq_some_iff _ r, opens]
    intro i j hi hj
    exact due_unique ((opens i).mp hi) ((opens j).mp hj)

/-- A row that arrives later changes nothing about what is published. -/
theorem Follows.published_concat {events : List (ρ × ℤ)} {s : State ρ}
    (h : Follows put_time events s) (event : ρ × ℤ) (m : ℕ) (image : PublishedImage ρ)
    (found : s.published[m]? = some image) :
    image.Completes put_time (events ++ [event]) m := by
  have inside : m < closedBy events.length := by
    rw [← h.published_length]
    exact (List.getElem?_eq_some_iff.mp found).1
  exact (h.published m image found).concat (closedBy_of_lastRow.mp inside) event

/-- **`openFile` and the append loop.** -/
theorem Follows.written {events : List (ρ × ℤ)} {s : State ρ}
    (h : Follows put_time events s) (event : ρ × ℤ) :
    Written put_time (events ++ [event]) ((s.openFile event.2).append event.1) := by
  have grow : (events ++ [event]).length = events.length + 1 := by simp
  cases found : (List.finRange 4).find? s.opens with
  | none =>
      have notDue : ∀ r : Fin 4, ¬ Due events.length r := by
        intro r due
        rw [(h.find_opens r).mpr due] at found
        cases found
      -- before the first row slot 0 is due
      have started : 0 < events.length := by
        rcases Nat.eq_zero_or_pos events.length with empty | positive
        · exact absurd (show Due events.length (0 : Fin 4) by rw [empty]; decide) (notDue 0)
        · exact positive
      have count := openedBy_succ_of_not_due notDue
      have same : s.openFile event.2 = s := by rw [State.openFile, found]
      rw [same]
      refine ⟨fun r => ?_, ?_, ?_, ?_, ?_, h.published_concat event⟩
      · have slot := (h.slots r).written event
        rwa [if_neg (notDue r)] at slot
      · show s.first_file = true
        rw [h.first_file, decide_eq_true started]
      · rw [grow, count]
        exact h.file_name_index
      · rw [grow, count]
        exact h.fopens
      · rw [grow, Nat.add_sub_cancel]
        exact h.published_length
  | some i =>
      have due := (h.find_opens i).mp found
      obtain ⟨next, count⟩ := openedBy_succ_of_due due
      have opened : s.openFile event.2 =
          { s with
            slots := Function.update s.slots i
              (openedSlot s.fopens s.file_name_index event.2)
            first_file := true
            file_name_index := nextNameIndex s.file_name_index
            fopens := s.fopens + 1 } := by
        rw [State.openFile, found]
      rw [opened]
      refine ⟨?_, rfl, ?_, ?_, ?_, h.published_concat event⟩
      · refine (Function.forall_update_iff s.slots fun r (slot : Slot ρ) =>
          (slot.append event.1).Written (events ++ [event]) r).mpr ⟨?_, fun r other => ?_⟩
        · have slot := (h.slots i).written event
          rw [h.fopens, h.file_name_index]
          rwa [if_pos due, ← next] at slot
        · have slot := (h.slots r).written event
          rwa [if_neg fun due' => other (due_unique due' due)] at slot
      · show nextNameIndex s.file_name_index = _
        rw [h.file_name_index, grow, count, nextNameIndex]
        split <;> omega
      · show s.fopens + 1 = _
        rw [h.fopens, grow, count]
      · rw [grow, Nat.add_sub_cancel]
        exact h.published_length

/-- `closeFile` stops at the slot whose image is complete. -/
theorem Written.closes_iff {events : List (ρ × ℤ)} {s : State ρ}
    (h : Written put_time events s) (r : Fin 4) :
    s.closes r = true ↔ 2153 ≤ (s.slots r).file_rows := by
  rw [State.closes, Bool.and_eq_true, decide_eq_true_eq]
  constructor
  · intro both
    exact both.2
  · intro full
    refine ⟨?_, full⟩
    have slot := h.slots r
    rw [Slot.Written] at slot
    split at slot
    next =>
        rw [slot.file_rows] at full
        omega
    next =>
        rw [slot.file_pointer]
        rfl

/-- At most one image is complete at a time. -/
theorem Written.full_unique {events : List (ρ × ℤ)} {s : State ρ}
    (h : Written put_time events s) {i j : Fin 4} (hi : 2153 ≤ (s.slots i).file_rows)
    (hj : 2153 ≤ (s.slots j).file_rows) : i = j := by
  obtain ⟨hi1, hi2⟩ := (h.slots i).full_iff.mp hi
  obtain ⟨hj1, hj2⟩ := (h.slots j).full_iff.mp hj
  exact due_unique (n := events.length) ⟨hi1.le, hi2⟩ ⟨hj1.le, hj2⟩

/-- The slot that is complete holds its image with all 2153 rows. -/
theorem Written.completes {events : List (ρ × ℤ)} {s : State ρ}
    (h : Written put_time events s) {i : Fin 4} (full : 2153 ≤ (s.slots i).file_rows) :
    (s.slots i).file_pointer = some (closedBy (events.length - 1)) ∧
      closedBy events.length = closedBy (events.length - 1) + 1 ∧
      (publishedImage put_time s.sample_json (closedBy (events.length - 1)) i
        (s.slots i)).Completes put_time events (closedBy (events.length - 1)) := by
  obtain ⟨started, complete⟩ := (h.slots i).full_iff.mp full
  have holds := h.slots i
  rw [Slot.Written, if_neg (by omega)] at holds
  obtain ⟨current, next⟩ := closedBy_pred_of_full started complete
  have first := firstRow_imageAt (events.length - 1) i
  have place : imageAt (events.length - 1) i % 4 = i := by
    have bound := i.isLt
    rw [imageAt]
    omega
  rw [← current] at holds first place
  refine ⟨holds.file_pointer, next, rfl, place.symm, holds.file_name, holds.file_time,
    holds.image_height, ?_, ?_⟩
  · show (s.slots i).jpeg_struct.scanlines = _
    rw [holds.scanlines, rowsBetween, List.take_of_length_le]
    rw [List.length_drop, List.length_map, lastRow_eq]
    omega
  · show announce put_time s.sample_json (s.slots i) = _
    rw [announce, Json.set_clear]
    rfl

/-- **`closeFile`.**  The slot that is full is closed and its image published; the others
go on. -/
theorem Written.follows {events : List (ρ × ℤ)} {s : State ρ}
    (h : Written put_time events s) (started : 0 < events.length) :
    Follows put_time events (s.closeFile put_time) := by
  have unique : ∀ i j, s.closes i = true → s.closes j = true → i = j := by
    intro i j hi hj
    exact h.full_unique ((h.closes_iff i).mp hi) ((h.closes_iff j).mp hj)
  have first : s.first_file = decide (0 < events.length) := by
    rw [h.first_file, decide_eq_true started]
  cases found : (List.finRange 4).find? s.closes with
  | none =>
      have short : ∀ r, ¬ 2153 ≤ (s.slots r).file_rows := by
        intro r full
        rw [(find?_finRange_eq_some_iff unique r).mpr ((h.closes_iff r).mpr full)] at found
        cases found
      have same : s.closeFile put_time = s := by rw [State.closeFile, found]
      rw [same]
      refine ⟨fun r => ?_, first, h.file_name_index, h.fopens, ?_, h.published⟩
      · have slot := (h.slots r).follows
        rwa [if_neg (short r)] at slot
      · rw [h.published_length, closedBy_pred_of_not_full]
        intro r
        rw [← (h.slots r).full_iff]
        exact short r
  | some i =>
      have full := (h.closes_iff i).mp (List.find?_some found)
      obtain ⟨file, count, completes⟩ := h.completes full
      have closed : s.closeFile put_time =
          { s with
            slots := Function.update s.slots i (s.slots i).closed
            sample_json := announce put_time s.sample_json (s.slots i)
            published := s.published ++
              [publishedImage put_time s.sample_json (closedBy (events.length - 1)) i
                (s.slots i)] } := by
        rw [State.closeFile, found]
        dsimp only
        rw [file]
        rfl
      rw [closed]
      refine ⟨?_, first, h.file_name_index, h.fopens, ?_, ?_⟩
      · refine (Function.forall_update_iff s.slots fun r (slot : Slot ρ) =>
          slot.Follows events r).mpr ⟨?_, fun r other => ?_⟩
        · have slot := (h.slots i).follows
          rwa [if_pos full] at slot
        · have slot := (h.slots r).follows
          rwa [if_neg fun full' => other (h.full_unique full' full)] at slot
      · show (s.published ++ [_]).length = _
        rw [List.length_append, h.published_length, count]
        rfl
      · intro m image image_eq
        rw [List.getElem?_append] at image_eq
        split at image_eq
        next => exact h.published m image image_eq
        next out =>
            rw [h.published_length] at out image_eq
            obtain ⟨position, rfl⟩ := List.getElem?_eq_some_iff.mp image_eq
            rw [List.length_singleton] at position
            obtain rfl : m = closedBy (events.length - 1) := by omega
            rwa [List.getElem_singleton]

/-! ## Every run -/

theorem follows_start (file_times : Fin 4 → ℤ) (jpeg_structs : Fin 4 → JpegCompress ρ) :
    Follows put_time [] (start file_times jpeg_structs) := by
  refine ⟨fun r => ?_, rfl, ?_, ?_, ?_, fun m image found => ?_⟩
  · rw [Slot.Follows, if_pos (by simp)]
    exact ⟨rfl, rfl, rfl⟩
  · simp [start, openedBy]
  · simp [start, openedBy]
  · simp [start, closedBy]
  · cases found

/-- **One row event.** -/
theorem Follows.rowEvent {events : List (ρ × ℤ)} {s : State ρ}
    (h : Follows put_time events s) (event : ρ × ℤ) :
    Follows put_time (events ++ [event]) (s.rowEvent put_time event.1 event.2) :=
  (h.written event).follows (by simp)

/-- **Every run follows the schedule**, whatever the rows hold and whenever they come. -/
theorem follows_rowEvents (put_time : ℤ → String) (file_times : Fin 4 → ℤ)
    (jpeg_structs : Fin 4 → JpegCompress ρ) (events : List (ρ × ℤ)) :
    Follows put_time events
      ((start file_times jpeg_structs).rowEvents put_time events) := by
  induction events using List.reverseRecOn with
  | nil => exact follows_start file_times jpeg_structs
  | append_singleton events event ih =>
      rw [State.rowEvents_concat]
      exact ih.rowEvent event

/-! ## What the schedule promises -/

/-- Slot `r` holds image `m` from its first row up to the row before its last. -/
theorem Follows.pointer_iff {events : List (ρ × ℤ)} {s : State ρ}
    (h : Follows put_time events s) (r : Fin 4) (m : ℕ) :
    (s.slots r).file_pointer = some m ↔
      (r : ℕ) = m % 4 ∧ firstRow m ≤ events.length ∧ events.length < lastRow m := by
  have bound := r.isLt
  have split := Nat.div_add_mod m 4
  rw [(h.slots r).file_pointer, lastRow, firstRow]
  by_cases idle : (events.length - 538 * r) % 2153 = 0
  · rw [if_pos idle]
    constructor
    · intro absurdity
      cases absurdity
    · rintro ⟨same, first, last⟩
      rw [← same] at first last
      omega
  · rw [if_neg idle, Option.some_inj, imageAt]
    constructor
    · rintro rfl
      omega
    · rintro ⟨same, first, last⟩
      rw [← same] at first last split
      omega

/-- An open image has every row since its first. -/
theorem Follows.scanlines {events : List (ρ × ℤ)} {s : State ρ}
    (h : Follows put_time events s) {r : Fin 4} {m : ℕ}
    (holds : (s.slots r).file_pointer = some m) :
    (s.slots r).jpeg_struct.scanlines = rowsBetween events (firstRow m) events.length := by
  have slot := h.slots r
  have pointer := (h.slots r).file_pointer
  rw [holds] at pointer
  rw [Slot.Follows] at slot
  split at slot
  next idle =>
      rw [if_pos idle] at pointer
      cases pointer
  next busy =>
      rw [if_neg busy, Option.some_inj] at pointer
      rw [slot.scanlines, ← pointer, rowsBetween, List.take_of_length_le]
      rw [List.length_drop, List.length_map]
      have positive := firstRow_pos m
      omega

theorem Slot.append_file_atomic (slot : Slot ρ) (row : ρ) :
    (slot.append row).file_atomic = slot.file_atomic := by
  rw [Slot.append]
  split <;> rfl

/-- The slots a row goes to: slot `r` from row `538 r + 1` on. -/
theorem Follows.receivers {events : List (ρ × ℤ)} {s : State ρ}
    (h : Follows put_time events s) (event : ρ × ℤ) :
    (s.openFile event.2).receivers =
      (List.finRange 4).filter fun r : Fin 4 => decide (538 * (r : ℕ) ≤ events.length) := by
  apply List.filter_congr
  intro r _
  have slot := (h.written event).slots r
  have atomic := ((s.openFile event.2).slots r).append_file_atomic event.1
  rw [Slot.Written, List.length_append, List.length_singleton] at slot
  by_cases turn : 538 * (r : ℕ) ≤ events.length
  · rw [if_neg (by omega)] at slot
    rw [decide_eq_true turn, ← slot.file_atomic]
    exact atomic.symm
  · rw [if_pos (by omega)] at slot
    rw [decide_eq_false turn, ← slot.file_atomic]
    exact atomic.symm

/-- The schedule as the slots and the publications show it: what `events` row
events make of the images. -/
structure Staggered (put_time : ℤ → String) (events : List (ρ × ℤ)) (s : State ρ) :
    Prop where
  /-- Image `m` is opened on its first row. -/
  opened : ∀ m, m < s.fopens ↔ firstRow m ≤ events.length
  /-- It lives in slot `m % 4`, from its first row until its last. -/
  held : ∀ (r : Fin 4) m, (s.slots r).file_pointer = some m ↔
    (r : ℕ) = m % 4 ∧ firstRow m ≤ events.length ∧ events.length < lastRow m
  /-- It receives every row since its first, in order, and no other. -/
  received : ∀ (r : Fin 4) m, (s.slots r).file_pointer = some m →
    (s.slots r).jpeg_struct.scanlines = rowsBetween events (firstRow m) events.length
  /-- It is published on its last row, … -/
  closed : ∀ m, m < s.published.length ↔ lastRow m ≤ events.length
  /-- … as the `m`-th publication, with exactly its rows. -/
  published : ∀ (m : ℕ) (image : PublishedImage ρ), s.published[m]? = some image →
    image.Completes put_time events m
  /-- A published image has exactly the declared number of scanlines. -/
  complete : ∀ image ∈ s.published,
    image.image_height = 2153 ∧ image.scanlines.length = image.image_height
  /-- The next row is written to at least one image, … -/
  written : ∀ event : ρ × ℤ, (s.openFile event.2).receivers ≠ []
  /-- … and from row 1615 on to exactly four. -/
  writtenToFour : ∀ event : ρ × ℤ, 1614 ≤ events.length →
    (s.openFile event.2).receivers.length = 4
  /-- At most one image reaches 2153 rows on the next row. -/
  oneFull : ∀ (event : ρ × ℤ) (i j : Fin 4),
    2153 ≤ (((s.openFile event.2).append event.1).slots i).file_rows →
    2153 ≤ (((s.openFile event.2).append event.1).slots j).file_rows → i = j
  /-- With a clock that does not go back, neither do the published times. -/
  ordered : (events.map Prod.snd).Pairwise (· ≤ ·) →
    (s.published.map PublishedImage.file_time).Pairwise (· ≤ ·)

/-- Publications are in opening order, so their times are those of later and
later rows. -/
theorem Follows.ordered {events : List (ρ × ℤ)} {s : State ρ}
    (h : Follows put_time events s) (clock : (events.map Prod.snd).Pairwise (· ≤ ·)) :
    (s.published.map PublishedImage.file_time).Pairwise (· ≤ ·) := by
  rw [List.pairwise_map, List.pairwise_iff_getElem]
  intro i j hi hj before
  have earlier := (h.published i _ (List.getElem?_eq_getElem hi)).file_time
  have later := (h.published j _ (List.getElem?_eq_getElem hj)).file_time
  obtain ⟨inside, timeI⟩ := List.getElem?_eq_some_iff.mp earlier
  obtain ⟨inside', timeJ⟩ := List.getElem?_eq_some_iff.mp later
  rw [← timeI, ← timeJ]
  apply List.pairwise_iff_getElem.mp clock
  rw [firstRow, firstRow]
  omega

/-- **The staggered images.**  For every sequence of row events, image
`m = 4 q + r` lives in slot `r`, receives exactly the rows
`2153 q + 538 r + 1`, …, `2153 q + 538 r + 2153`, and is published on the last of
them. -/
theorem staggered_rowEvents (put_time : ℤ → String) (file_times : Fin 4 → ℤ)
    (jpeg_structs : Fin 4 → JpegCompress ρ) (events : List (ρ × ℤ)) :
    Staggered put_time events
      ((start file_times jpeg_structs).rowEvents put_time events) := by
  have h := follows_rowEvents put_time file_times jpeg_structs events
  refine
    { opened := fun m => ?_
      held := h.pointer_iff
      received := fun r m => h.scanlines
      closed := fun m => ?_
      published := h.published
      complete := fun image member => ?_
      written := fun event empty => ?_
      writtenToFour := fun event late => ?_
      oneFull := fun event i j => (h.written event).full_unique
      ordered := h.ordered }
  · rw [h.fopens, openedBy_of_firstRow]
  · rw [h.published_length, closedBy_of_lastRow]
  · obtain ⟨m, found⟩ := List.mem_iff_getElem?.mp member
    have completes := h.published m image found
    have inside : lastRow m ≤ events.length := by
      rw [← closedBy_of_lastRow, ← h.published_length]
      exact (List.getElem?_eq_some_iff.mp found).1
    refine ⟨completes.image_height, ?_⟩
    rw [completes.image_height, completes.scanlines, rowsBetween, List.length_take,
      List.length_drop, List.length_map]
    have last := lastRow_eq m
    have positive := firstRow_pos m
    omega
  · rw [h.receivers event, List.filter_eq_nil_iff] at empty
    exact empty 0 (List.mem_finRange 0) (by simp)
  · have all : ∀ r ∈ List.finRange 4, decide (538 * (r : ℕ) ≤ events.length) = true := by
      intro r _
      have bound := r.isLt
      rw [decide_eq_true_eq]
      omega
    rw [h.receivers event, List.filter_eq_self.mpr all]
    rfl

end SpectrogramServers.MyServer.ImageThread
