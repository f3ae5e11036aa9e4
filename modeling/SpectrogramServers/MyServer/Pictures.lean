import SpectrogramServers.Lib.Fourier
import SpectrogramServers.MyServer.GreyLevel
import SpectrogramServers.MyServer.RowHandover
import SpectrogramServers.MyServer.SpectrogramInput

/-!
# From the radio to the pictures

`main`, `writeToBuffer` and the image thread as one machine: a round of `main` calls
`writeToBuffer` for the block it has processed, a transform copies a row to the image
thread, and the image thread appends rows to its images.  The parts have modules of their
own; what is new here is that they run together.

## What the site shows of the radio

Nothing.  The load-bearing fact about `main` is that it hands over zeros: `bufferFiltered`
is cleared and never filled (`SpectrogramInput`).  Here it is carried to the end.  The
transforms are given zeros however the calls are cut into blocks, a bin without magnitude
has level 211 (`GreyLevel`), and no interleaving with the image thread adds anything else.
So every row of every picture is one shade of grey, whatever is received
(`pictures_blank`).

Before the first copy the image thread may append what `magnitude_buffer` held when the
object was made, since it does not wait for a row to be there.  `Blank` allows for these
rows and no others.

## What is assumed

The library's transform of zeros is zero, the modulus of zero is zero, and the logarithm
is exact (`Plain`). The radio and the mixer do not matter at all, so the result does not
depend on how exact their arithmetic is.
-/

namespace SpectrogramServers.MyServer.Pictures

open Receiver Spectrogram

universe u

/-- A row of a picture. -/
abbrev Pixels := CArray ℤ 1024

/-- The first 1024 cells of `magnitude_buffer`, which is what the image thread reads. -/
def row {K : Type u} (buffers : Buffers K) : Pixels := fun i =>
  buffers.magnitude_buffer (i.castLE (by decide))

/-- The two threads.  `ended` says that `main` has left its loop, after which only the
image thread goes on. -/
structure State (K : Type u) where
  main : MainState K
  ended : Bool
  buffers : Buffers K
  rows : RowHandover.State Pixels

inductive Event where
  /-- `main` makes a pass, up to the copy into `magnitude_buffer` if there is one. -/
  | round (r : Round)
  /-- `image_cv.notify_all()`. -/
  | notify_all
  /-- The image thread locks `image_mutex` and blocks in `image_cv.wait`. -/
  | wait
  /-- A spurious wake-up. -/
  | wake
  /-- The image thread, woken, reacquires `image_mutex` and makes its pass. -/
  | pass (now : ℤ)

section

variable {K : Type u} [Field K] [LinearOrder K] [FloorRing K]

/-- `writeToBuffer(buffer)`.  What follows the copy works on `i_buffer` and `q_buffer`,
which the image thread does not read. -/
def State.writeToBuffer (library : Library K) (put_time : ℤ → String) (s : State K)
    (buffer : CArray K argumentLength) : Option (State K) :=
  (s.buffers.append buffer).bind fun buffers =>
  if 2048 ≤ buffers.buffer_index then
    (buffers.transform library).bind fun buffers =>
    (RowHandover.step put_time s.rows (.copy (row buffers))).bind fun rows =>
    buffers.rewind.bind fun buffers => some { s with buffers := buffers, rows := rows }
  else some { s with buffers := buffers }

/-- The calls of `writeToBuffer` in a pass of `main`. -/
def State.writeBlocks (library : Library K) (put_time : ℤ → String) :
    State K → List (CArray K bufferCount × Block K) → Option (State K)
  | s, [] => some s
  | s, processed :: rest =>
      (s.writeToBuffer library put_time processed.2.handedOver).bind fun s =>
        State.writeBlocks library put_time s rest

/-- A pass of `main`. -/
def State.round (library : Library K) (put_time : ℤ → String) (platform : Platform)
    (fast_atan2f : K → K → K) (s : State K) (r : Round) : Option (State K) :=
  (s.main.pass platform fast_atan2f r).bind fun passed =>
  (s.writeBlocks library put_time (s.main.processedIn r passed.1)).bind fun t =>
  some { t with main := passed.1, ended := decide (passed.2 = .broken) }

/-- The step of the two threads that does not belong to `main`'s pass. -/
def Event.handover : Event → Option (RowHandover.Event Pixels)
  | .round _ => none
  | .notify_all => some .notify_all
  | .wait => some .wait
  | .wake => some .wake
  | .pass now => some (.pass now)

/-- One step of either thread.  A round of `main` is enabled when the call of `notify_all`
that belongs to the last copy has been made. -/
def step (library : Library K) (put_time : ℤ → String) (platform : Platform)
    (fast_atan2f : K → K → K) (s : State K) (e : Event) : Option (State K) :=
  match e with
  | .round r =>
      if s.ended = false ∧ s.rows.producer = .idle then
        s.round library put_time platform fast_atan2f r
      else none
  | e => e.handover.bind fun e =>
      (RowHandover.step put_time s.rows e).map fun rows => { s with rows := rows }

/-- Before the loop of `main`, with the arrays holding whatever they hold. -/
def start (buffer : CArray ℤ bufferCount) (bufferShifted : CArray K bufferCount)
    (i_buffer q_buffer : CArray K 3048) (fft_in : CArray (K × K) 2048)
    (magnitude_buffer : CArray ℤ 2048) (file_times : Fin 4 → ℤ)
    (jpeg_structs : Fin 4 → ImageThread.JpegCompress (RowHandover.Row Pixels)) : State K where
  main := Receiver.start buffer bufferShifted
  ended := false
  buffers := Spectrogram.start i_buffer q_buffer fft_in magnitude_buffer
  rows := RowHandover.start
    (row (Spectrogram.start i_buffer q_buffer fft_in magnitude_buffer)) file_times jpeg_structs

/-- `main` and the image thread. -/
def pictures (library : Library K) (put_time : ℤ → String) (platform : Platform)
    (fast_atan2f : K → K → K) : Machine (State K) Event where
  init s := ∃ buffer bufferShifted i_buffer q_buffer fft_in magnitude_buffer file_times
    jpeg_structs, s = start buffer bufferShifted i_buffer q_buffer fft_in magnitude_buffer
      file_times jpeg_structs
  step := step library put_time platform fast_atan2f

/-- The buffers go through `writeToBuffer` of the model of that function. -/
theorem writeToBuffer_buffers {library : Library K} {put_time : ℤ → String} {s t : State K}
    {buffer : CArray K argumentLength} (h : s.writeToBuffer library put_time buffer = some t) :
    s.buffers.writeToBuffer library buffer = some t.buffers := by
  obtain ⟨appended, append, rest⟩ := Option.bind_eq_some_iff.mp h
  unfold Buffers.writeToBuffer
  rw [append, Option.bind_some]
  split at rest
  next full =>
      obtain ⟨transformed, transform, rest⟩ := Option.bind_eq_some_iff.mp rest
      obtain ⟨rows, -, rest⟩ := Option.bind_eq_some_iff.mp rest
      obtain ⟨rewound, rewind, rest⟩ := Option.bind_eq_some_iff.mp rest
      obtain rfl := Option.some.inj rest
      rw [if_pos full, transform, Option.bind_some, rewind]
  next short =>
      obtain rfl := Option.some.inj rest
      rw [if_neg short]

end

/-! ## Silence through a transform -/

section

variable {K : Type u} [Field K] [LinearOrder K] [FloorRing K]

/-- The levels of all bins. -/
theorem succeeds_levels (abs : K × K → K) (log10 : K → K) (fft_out : CArray (K × K) 2048) :
    Succeeds (levels abs log10 fft_out) fun local_buffer =>
      local_buffer.Holds 1024 fun i => level log10 (abs ((fft_out.get? i).getD (0, 0))) := by
  refine CArray.succeeds_fill _ _ fun i local_buffer hi _ => ?_
  have bin := fft_out.get?_of_lt (by omega : i < 2048)
  refine succeeds_bind_of_eq bin ?_
  refine (local_buffer.succeeds_set? _ hi).mono fun written cells => ⟨?_, fun j other => ?_⟩
  · rw [cells, if_pos rfl, bin]
    rfl
  · rw [cells, if_neg other]

/-- **The row of a transform** is the levels of what `fftw_execute` makes of `fft_in`. -/
theorem row_of_transform {library : Library K} {s t : Buffers K}
    (h : s.transform library = some t) (i : Fin 1024) :
    row t i = level library.log10 (library.abs
      (library.fftw_execute t.fft_in (i.castLE (by decide)))) := by
  obtain ⟨fft_in, window, rest⟩ := Option.bind_eq_some_iff.mp h
  obtain ⟨local_buffer, levelled, rest⟩ := Option.bind_eq_some_iff.mp rest
  obtain ⟨magnitude_buffer, moved, rest⟩ := Option.bind_eq_some_iff.mp rest
  obtain rfl := Option.some.inj rest
  obtain ⟨local_buffer', levelled', holds⟩ :=
    succeeds_levels library.abs library.log10 (library.fftw_execute fft_in)
  obtain rfl : local_buffer = local_buffer' := Option.some.inj (levelled.symm.trans levelled')
  obtain ⟨magnitude_buffer', moved', cells⟩ :=
    s.magnitude_buffer.succeeds_move? local_buffer 0 0 1024 (by omega) (by omega)
  obtain rfl : magnitude_buffer = magnitude_buffer' := Option.some.inj (moved.symm.trans moved')
  have inside : (i : ℕ) < 1024 := i.isLt
  have cell := cells i
  rw [if_pos ⟨Nat.zero_le _, by omega⟩, Nat.sub_zero, Nat.zero_add, holds i inside,
    CArray.get?_of_lt _ (by omega)] at cell
  have bin := (library.fftw_execute fft_in).get?_of_lt (by omega : (i : ℕ) < 2048)
  dsimp only at cell
  rw [bin] at cell
  exact Option.some.inj cell

/-- The argument of every call. -/
def zeros : CArray K argumentLength := fun _ => 0

/-- The buffers after some number of calls with zeros. -/
def Silent (b : Buffers K) : Prop := ∃ n, Tracked (stream fun _ => (zeros : CArray K _)) n b

omit [LinearOrder K] [FloorRing K] in
/-- A block of the stream of zeros is zero, wherever it begins. -/
theorem Silent.blocks {b : Buffers K} (silent : Silent b) :
    ∀ block ∈ b.blocks, block = fun _ => (0, 0) := by
  obtain ⟨n, tracked⟩ := silent
  have zero : ∀ p, stream (fun _ => (zeros : CArray K _)) p = (0, 0) := by
    intro p
    have inside := Nat.mod_lt p (by decide : 1000 > 0)
    have length : argumentLength = 23452 := rfl
    unfold stream taken
    rw [CArray.get?_of_lt _ (by omega), CArray.get?_of_lt _ (by omega)]
    rfl
  intro block member
  obtain ⟨k, at_k⟩ := List.mem_iff_getElem?.mp member
  have windowed := tracked.windowed.mpr fun k _ j _ _ => by rw [zero, zero]
  funext j
  rw [windowed_iff.mp windowed k block at_k j, zero]

theorem Silent.writeToBuffer {library : Library K} {b t : Buffers K} (silent : Silent b)
    (h : b.writeToBuffer library zeros = some t) : Silent t := by
  obtain ⟨n, tracked⟩ := silent
  obtain ⟨u, called, next⟩ := tracked.writeToBuffer library (by decide)
  obtain rfl : t = u := Option.some.inj (h.symm.trans called)
  exact ⟨n + 1, next⟩

omit [Field K] [LinearOrder K] [FloorRing K] in
theorem rewind_blocks {s t : Buffers K} (h : s.rewind = some t) : t.blocks = s.blocks := by
  obtain ⟨i_buffer, -, rest⟩ := Option.bind_eq_some_iff.mp h
  obtain ⟨q_buffer, -, rest⟩ := Option.bind_eq_some_iff.mp rest
  obtain rfl := Option.some.inj rest
  rfl

end

/-! ## What the pictures show -/

section

variable {library : Library ℝ} {put_time : ℤ → String} {platform : Platform}
  {fast_atan2f : ℝ → ℝ → ℝ} {first : Pixels}

/-- The row of bins without magnitude. -/
def unlit : Pixels := fun _ => 211

/-- A row that tells nothing: a copy of `unlit`, or what was there before the first copy. -/
def Blank (first : Pixels) (row : RowHandover.Row Pixels) : Prop :=
  row = (none, first) ∨ ∃ copy, row = (some copy, unlit)

/-- The transform of zeros is zero, and so is its modulus; the logarithm is exact. -/
structure Plain (library : Library ℝ) : Prop where
  fftw_execute : library.fftw_execute (fun _ => (0, 0)) = fun _ => (0, 0)
  abs : library.abs (0, 0) = 0
  log10 : library.log10 = log10

/-- The invariant of the machine. -/
structure Unlit (put_time : ℤ → String) (first : Pixels) (s : State ℝ) : Prop where
  silent : Silent s.buffers
  consistent : RowHandover.Consistent put_time s.rows
  magnitude_buffer : Blank first s.rows.magnitude_buffer
  appended : ∀ row ∈ s.rows.appended, Blank first row

/-- **The row of a transform in silence.** -/
theorem row_of_silence (plain : Plain library) {s t : Buffers ℝ}
    (block : s.block = fun _ => (0, 0)) (h : s.transform library = some t) : row t = unlit := by
  obtain ⟨u, transformed, -, -, -, fft_in⟩ := succeeds_transform library s
  obtain rfl : t = u := Option.some.inj (h.symm.trans transformed)
  have nothing : t.fft_in = fun _ => (0, 0) := by
    funext j
    rw [fft_in j, block]
    simp
  funext i
  rw [row_of_transform h i, nothing, plain.fftw_execute, plain.abs, plain.log10, level_zero]
  rfl

/-- What the two threads do with a row that tells nothing. -/
theorem Unlit.handover {s : State ℝ} (unlit' : Unlit put_time first s)
    {e : RowHandover.Event Pixels} (copies : ∀ pixels, e = .copy pixels → pixels = unlit)
    {rows : RowHandover.State Pixels} (h : RowHandover.step put_time s.rows e = some rows) :
    Unlit put_time first { s with rows := rows } := by
  have consistent := unlit'.consistent.step h
  cases RowHandover.step_cases h with
  | copy pixels =>
      obtain rfl := copies pixels rfl
      exact ⟨unlit'.silent, consistent, .inr ⟨_, rfl⟩, unlit'.appended⟩
  | pass now =>
      refine ⟨unlit'.silent, consistent, unlit'.magnitude_buffer, fun row member => ?_⟩
      rcases List.mem_append.mp member with earlier | new
      · exact unlit'.appended row earlier
      · rw [List.mem_singleton.mp new]
        exact unlit'.magnitude_buffer
  | quiet =>
      exact ⟨unlit'.silent, consistent, unlit'.magnitude_buffer, unlit'.appended⟩

/-- **A call with zeros.** -/
theorem Unlit.writeToBuffer (plain : Plain library) {s t : State ℝ}
    (unlit' : Unlit put_time first s) (h : s.writeToBuffer library put_time zeros = some t) :
    Unlit put_time first t := by
  have silent := unlit'.silent.writeToBuffer (writeToBuffer_buffers h)
  obtain ⟨appended, append, rest⟩ := Option.bind_eq_some_iff.mp h
  split at rest
  next full =>
      obtain ⟨transformed, transform, rest⟩ := Option.bind_eq_some_iff.mp rest
      obtain ⟨rows, copy, rest⟩ := Option.bind_eq_some_iff.mp rest
      obtain ⟨rewound, rewind, rest⟩ := Option.bind_eq_some_iff.mp rest
      obtain rfl := Option.some.inj rest
      have block : appended.block = fun _ => (0, 0) := by
        refine silent.blocks _ ?_
        obtain ⟨u, made, -, blocks, -⟩ := succeeds_transform library appended
        obtain rfl : transformed = u := Option.some.inj (transform.symm.trans made)
        change appended.block ∈ rewound.blocks
        rw [rewind_blocks rewind, blocks]
        exact List.mem_append_right _ (List.mem_singleton_self _)
      have pixels : row transformed = unlit := row_of_silence plain block transform
      have after := unlit'.handover (fun other same => by cases same; exact pixels) copy
      exact ⟨silent, after.consistent, after.magnitude_buffer, after.appended⟩
  next short =>
      obtain rfl := Option.some.inj rest
      exact ⟨silent, unlit'.consistent, unlit'.magnitude_buffer, unlit'.appended⟩

/-- The calls of a pass. -/
theorem Unlit.writeBlocks (plain : Plain library) {s t : State ℝ}
    {processed : List (CArray ℝ bufferCount × Block ℝ)}
    (handedOver : ∀ p ∈ processed, p.2.handedOver = zeros) (unlit' : Unlit put_time first s)
    (h : s.writeBlocks library put_time processed = some t) : Unlit put_time first t := by
  induction processed generalizing s with
  | nil =>
      obtain rfl : s = t := Option.some.inj h
      exact unlit'
  | cons p rest ih =>
      obtain ⟨u, call, later⟩ := Option.bind_eq_some_iff.mp h
      rw [handedOver p List.mem_cons_self] at call
      exact ih (fun p member => handedOver p (List.mem_cons_of_mem _ member))
        (unlit'.writeToBuffer plain call) later

/-- **The step lemma.** -/
theorem Unlit.step (plain : Plain library) {s t : State ℝ} {e : Event}
    (unlit' : Unlit put_time first s)
    (h : Pictures.step library put_time platform fast_atan2f s e = some t) :
    Unlit put_time first t := by
  cases e with
  | round r =>
      obtain ⟨-, whole⟩ := Option.ite_none_right_eq_some.mp h
      obtain ⟨passed, pass, rest⟩ := Option.bind_eq_some_iff.mp whole
      obtain ⟨u, calls, rest⟩ := Option.bind_eq_some_iff.mp rest
      obtain rfl := Option.some.inj rest
      have handedOver : ∀ p ∈ s.main.processedIn r passed.1, p.2.handedOver = zeros := by
        intro p member
        have processed := processBlock_of_mem_processedIn pass member
        funext i
        unfold Block.handedOver
        rw [bufferFiltered_eq_zero processed]
        rfl
      have after := unlit'.writeBlocks plain handedOver calls
      exact ⟨after.silent, after.consistent, after.magnitude_buffer, after.appended⟩
  | notify_all | wait | wake | pass now =>
      obtain ⟨rows, moved, rfl⟩ := Option.map_eq_some_iff.mp h
      exact unlit'.handover (fun _ copy => by cases copy) moved

/-- The pictures tell nothing. -/
structure ShowNothing (first : Pixels) (s : State ℝ) : Prop where
  published : ∀ image ∈ s.rows.images.published, ∀ row ∈ image.scanlines, Blank first row
  openImages : ∀ i m, (s.rows.images.slots i).file_pointer = some m →
    ∀ row ∈ (s.rows.images.slots i).jpeg_struct.scanlines, Blank first row

/-- The rows of the images are among those that were appended. -/
theorem Unlit.showNothing {s : State ℝ} (unlit' : Unlit put_time first s) :
    ShowNothing first s := by
  obtain ⟨events, rows, follows⟩ := unlit'.consistent.images
  have appended : ∀ a b, ∀ row ∈ ImageThread.rowsBetween events a b, Blank first row := by
    intro a b row member
    refine unlit'.appended row ?_
    rw [ImageThread.rowsBetween, rows] at member
    exact List.mem_of_mem_drop (List.mem_of_mem_take member)
  constructor
  · intro image member
    obtain ⟨m, found⟩ := List.mem_iff_getElem?.mp member
    rw [(follows.published m image found).scanlines]
    exact appended _ _
  · intro i m holds
    rw [follows.scanlines holds]
    exact appended _ _

/-- **What the site shows of the radio.**  Whatever is received, on either platform,
whatever the buffers held and on every interleaving of `main` with the image thread: at
every moment every row of every picture, published or open, is the row of bins without
magnitude, or what `magnitude_buffer` held before the first copy.  It is an invariant of
the whole machine, by one step lemma (`Unlit.step`). -/
theorem pictures_blank (library : Library ℝ) (plain : Plain library) (put_time : ℤ → String)
    (platform : Platform) (fast_atan2f : ℝ → ℝ → ℝ) (buffer : CArray ℤ bufferCount)
    (bufferShifted : CArray ℝ bufferCount) (i_buffer q_buffer : CArray ℝ 3048)
    (fft_in : CArray (ℝ × ℝ) 2048) (magnitude_buffer : CArray ℤ 2048) (file_times : Fin 4 → ℤ)
    (jpeg_structs : Fin 4 → ImageThread.JpegCompress (RowHandover.Row Pixels))
    (es : List Event) :
    (pictures library put_time platform fast_atan2f).Throughout
      (ShowNothing fun i => magnitude_buffer (i.castLE (by decide)))
      (start buffer bufferShifted i_buffer q_buffer fft_in magnitude_buffer file_times
        jpeg_structs) es := by
  let machine := pictures library put_time platform fast_atan2f
  have initial : Unlit put_time (fun i => magnitude_buffer (i.castLE (by decide)))
      (start buffer bufferShifted i_buffer q_buffer fft_in magnitude_buffer file_times
        jpeg_structs) := by
    refine ⟨⟨0, tracked_start i_buffer q_buffer fft_in magnitude_buffer _⟩, ?_, .inl rfl, ?_⟩
    · exact @RowHandover.consistent_start _ put_time _ ⟨_, _, _, rfl⟩
    · exact fun row none => absurd none List.not_mem_nil
  exact (machine.throughout_of_step (Unlit put_time _) (fun s e t hs h => hs.step plain h)
    initial es).mono machine fun s unlit' => unlit'.showNothing

end

/-- The transform that `fftw_execute` computes. -/
noncomputable def dft (x : CArray (ℝ × ℝ) 2048) : CArray (ℝ × ℝ) 2048 := fun k =>
  let bin := fourierBin (fun j => (⟨(x j).1, (x j).2⟩ : ℂ)) k
  (bin.re, bin.im)

/-- The library, with a rectangular window. -/
noncomputable def exactLibrary : Library ℝ where
  hann2048 := fun _ => 1
  fftw_execute := dft
  abs z := Real.sqrt (z.1 ^ 2 + z.2 ^ 2)
  log10 := log10

theorem plain_exactLibrary : Plain exactLibrary where
  fftw_execute := by
    funext k
    have zero : fourierBin (fun _ : Fin 2048 => (⟨0, 0⟩ : ℂ)) k = 0 := fourierBin_zero k
    simp [exactLibrary, dft, zero]
  abs := by simp [exactLibrary]
  log10 := rfl

/-- A strong carrier. -/
def carrierRound : Round where
  samples := fun _ => (64, 0)
  samplesRead := sampleCnt
  warmingUp := false
  written := 0

/-- Three blocks of it make a transform, and the image thread makes its pass. -/
def carrier : List Event :=
  [.wait, .round carrierRound, .round carrierRound, .round carrierRound, .notify_all, .pass 0]

/-- A carrier that is received does not show. -/
theorem pictures_blank_carrier :
    (pictures exactLibrary (fun _ => "") .portable fun _ _ => 0).Throughout
      (ShowNothing fun _ => 255)
      (start (fun _ => 0) (fun _ => 0) (fun _ => 0) (fun _ => 0) (fun _ => 0) (fun _ => 255)
        (fun _ => 0) fun _ => ImageThread.jpeg_start_compress) carrier :=
  pictures_blank exactLibrary plain_exactLibrary (fun _ => "") .portable (fun _ _ => 0) (fun _ => 0)
    (fun _ => 0) (fun _ => 0) (fun _ => 0) (fun _ => 0) (fun _ => 255) (fun _ => 0)
    (fun _ => ImageThread.jpeg_start_compress) carrier

end SpectrogramServers.MyServer.Pictures
