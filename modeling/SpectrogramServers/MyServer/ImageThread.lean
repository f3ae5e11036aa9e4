import Mathlib.Data.Fin.Basic
import Mathlib.Data.List.FinRange
import Mathlib.Data.Int.Notation
import SpectrogramServers.Json

/-!
# The image thread of `IQWebSocketServer`

The image thread owns four slots.  On every spectrum row it opens at most one new image
(`openFile`), appends the row to every open image, and closes and publishes at most one
full image (`closeFile`).  One such pass under `image_mutex` is `rowEvent`, and it is the
only thing in the server that changes the slots.

## What the model keeps

* **libjpeg** is kept as far as the code relies on it: the declared image size, and the
  scanlines the compressor has been given, of which `jpeg_write_scanlines` takes no more
  than `image_height`.
* **`fopen` succeeds.**  The code does not test it, and would pass a null pointer on.
* **The three shell commands** that `closeFile` runs on a finished image change no
  variable of the server, and their exit statuses are ignored, so a slot is published
  whatever they do.  What becomes of the files is the subject of `PublishedFiles`.

The two searches stop at the first slot that passes, as the loops of the source do.  That
the tests are about the rows of the *previous* slot, and that its index goes round from 0
to 3, is in `State.opens`.

## History

`fopens` and `published` are history: the number of `fopen` calls so far, which numbers
the images in the order they are opened, and the images closed so far.  `ImageSchedule`
says when which of them happens.
-/

namespace SpectrogramServers.MyServer.ImageThread

universe u

variable {ρ : Type u}

/-- `jpeg_compress_struct`, with the scanlines written so far. -/
structure JpegCompress (ρ : Type u) where
  image_width : ℕ
  image_height : ℕ
  input_components : ℕ
  quality : ℕ
  scanlines : List ρ

/-- The parameters `openFile` sets before `jpeg_start_compress`. -/
def jpeg_start_compress : JpegCompress ρ where
  image_width := 1024
  image_height := 2153
  input_components := 1
  quality := 60
  scanlines := []

/-- `jpeg_write_scanlines` of one row: a row beyond the declared height is
dropped with a warning. -/
def JpegCompress.jpeg_write_scanlines (cinfo : JpegCompress ρ) (row : ρ) :
    JpegCompress ρ :=
  if cinfo.scanlines.length < cinfo.image_height then
    { cinfo with scanlines := cinfo.scanlines ++ [row] }
  else cinfo

/-- Entry `i` of the arrays `file_pointers`, `file_times`, `file_names`,
`file_atomics`, `file_rows` and `jpeg_structs`.  A non-null `file_pointer` is
the number of the `fopen` call it came from. -/
structure Slot (ρ : Type u) where
  file_pointer : Option ℕ
  file_time : ℤ
  file_name : String
  file_atomic : Bool
  file_rows : ℕ
  jpeg_struct : JpegCompress ρ

/-- An image at the moment `closeFile` announces it. -/
structure PublishedImage (ρ : Type u) where
  file : ℕ
  slot : Fin 4
  file_name : String
  file_time : ℤ
  image_height : ℕ
  scanlines : List ρ
  announcement : Json

/-- The image thread's variables: the four slots, whether a first image has been opened,
the number for the next name, and `sample_json`; and the history. -/
structure State (ρ : Type u) where
  slots : Fin 4 → Slot ρ
  first_file : Bool
  file_name_index : ℕ
  sample_json : Json
  fopens : ℕ
  published : List (PublishedImage ρ)

/-- The slots before the first row.  `file_times` and `jpeg_structs` hold
whatever they hold. -/
def start (file_times : Fin 4 → ℤ) (jpeg_structs : Fin 4 → JpegCompress ρ) : State ρ where
  slots i :=
    { file_pointer := none
      file_time := file_times i
      file_name := ""
      file_atomic := false
      file_rows := 0
      jpeg_struct := jpeg_structs i }
  first_file := false
  file_name_index := 0
  sample_json := .null
  fopens := 0
  published := []

/-! ## `openFile` -/

/-- `i == 0 ? 3 : i - 1`. -/
def previousIndex (i : Fin 4) : Fin 4 := if i = 0 then 3 else i - 1

/-- The search of `openFile` stops at slot `i`. -/
def State.opens (s : State ρ) (i : Fin 4) : Bool :=
  (s.slots i).file_pointer.isNone &&
    !(s.first_file && decide ((s.slots (previousIndex i)).file_rows < 538))

/-- `file_name_index` after it has been used and incremented. -/
def nextNameIndex (file_name_index : ℕ) : ℕ :=
  if 40 ≤ file_name_index + 1 then 0 else file_name_index + 1

/-- Slot `i` after the body of `if (i != 4)` in `openFile`. -/
def openedSlot (file file_name_index : ℕ) (now : ℤ) : Slot ρ where
  file_pointer := some file
  file_time := now
  file_name := toString file_name_index ++ ".jpg"
  file_atomic := true
  file_rows := 0
  jpeg_struct := jpeg_start_compress

/-- `openFile`, with `now` the value of `std::time(nullptr)`. -/
def State.openFile (s : State ρ) (now : ℤ) : State ρ :=
  match (List.finRange 4).find? s.opens with
  | none => s
  | some i =>
      { s with
        slots := Function.update s.slots i (openedSlot s.fopens s.file_name_index now)
        first_file := true
        file_name_index := nextNameIndex s.file_name_index
        fopens := s.fopens + 1 }

/-! ## The append loop -/

/-- One iteration of the loop over `file_atomics`. -/
def Slot.append (slot : Slot ρ) (row : ρ) : Slot ρ :=
  if slot.file_atomic then
    { slot with
      file_rows := slot.file_rows + 1
      jpeg_struct := slot.jpeg_struct.jpeg_write_scanlines row }
  else slot

/-- The loop over `file_atomics`; iteration `i` touches slot `i` only. -/
def State.append (s : State ρ) (row : ρ) : State ρ :=
  { s with slots := fun i => (s.slots i).append row }

/-- The slots the append loop writes a row to. -/
def State.receivers (s : State ρ) : List (Fin 4) :=
  (List.finRange 4).filter fun i => (s.slots i).file_atomic

/-! ## `closeFile` -/

/-- The search of `closeFile` stops at slot `i`. -/
def State.closes (s : State ρ) (i : Fin 4) : Bool :=
  (s.slots i).file_pointer.isSome && decide (2153 ≤ (s.slots i).file_rows)

/-- The slot after `fclose` and the resets around it. -/
def Slot.closed (slot : Slot ρ) : Slot ρ :=
  { slot with file_pointer := none, file_atomic := false, file_rows := 0 }

/-- What `closeFile` leaves in `sample_json`. -/
def announce (put_time : ℤ → String) (sample_json : Json) (slot : Slot ρ) : Json :=
  ((sample_json.clear.set "Image Name" (.string slot.file_name)).set
    "Image Time" (.string (put_time slot.file_time))).set "Served" (.bool true)

/-- The image in slot `i` as it is announced. -/
def publishedImage (put_time : ℤ → String) (sample_json : Json) (file : ℕ) (i : Fin 4)
    (slot : Slot ρ) : PublishedImage ρ where
  file := file
  slot := i
  file_name := slot.file_name
  file_time := slot.file_time
  image_height := slot.jpeg_struct.image_height
  scanlines := slot.jpeg_struct.scanlines
  announcement := announce put_time sample_json slot

/-- `closeFile`, with `put_time` the rendering of a time in the local zone. -/
def State.closeFile (put_time : ℤ → String) (s : State ρ) : State ρ :=
  match (List.finRange 4).find? s.closes with
  | none => s
  | some i =>
      { s with
        slots := Function.update s.slots i (s.slots i).closed
        sample_json := announce put_time s.sample_json (s.slots i)
        published := s.published ++
          (s.slots i).file_pointer.toList.map fun file =>
            publishedImage put_time s.sample_json file i (s.slots i) }

/-! ## Row events -/

/-- The image thread's pass under `image_mutex`. -/
def State.rowEvent (put_time : ℤ → String) (s : State ρ) (row : ρ) (now : ℤ) : State ρ :=
  ((s.openFile now).append row).closeFile put_time

/-- The state after a list of row events, each with its row and its time. -/
def State.rowEvents (put_time : ℤ → String) (s : State ρ) (events : List (ρ × ℤ)) : State ρ :=
  events.foldl (fun s event => s.rowEvent put_time event.1 event.2) s

theorem State.rowEvents_concat (put_time : ℤ → String) (s : State ρ)
    (events : List (ρ × ℤ)) (event : ρ × ℤ) :
    s.rowEvents put_time (events ++ [event]) =
      (s.rowEvents put_time events).rowEvent put_time event.1 event.2 := by
  rw [rowEvents, List.foldl_append]
  rfl

/-! ## The searches -/

/-- A search over the slots in which at most one slot is eligible finds it, whatever the
order. -/
theorem find?_finRange_eq_some_iff {p : Fin 4 → Bool}
    (unique : ∀ i j, p i = true → p j = true → i = j) (i : Fin 4) :
    (List.finRange 4).find? p = some i ↔ p i = true := by
  constructor
  · intro h
    exact List.find?_some h
  · intro hi
    have found : ((List.finRange 4).find? p).isSome :=
      List.find?_isSome.mpr ⟨i, List.mem_finRange i, hi⟩
    obtain ⟨j, hj⟩ := Option.isSome_iff_exists.mp found
    rw [hj, unique i j hi (List.find?_some hj)]

end SpectrogramServers.MyServer.ImageThread
