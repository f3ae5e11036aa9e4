import Mathlib.Data.Rat.Floor
import Mathlib.Tactic.NormNum
import SpectrogramServers.Lib.Lists
import SpectrogramServers.MyServer.Spectrogram

/-!
# Which samples the transforms are given

`s` is the stream of samples that the calls of `writeToBuffer` take, 1000 a call.  A
spectrogram with half overlap should give transform `k` the samples from `1024 * k` on.

## What a transform leaves behind

Transform `k` is given the right samples as long as cell `j` holds sample `1024 * k + j`
(`Aligned`).  When it has been made, `buffer_index` goes back by 1024, and the cells from
1024 on ought to be moved to the front.  The `memcpy` moves the cells from 2048 on
instead, and of these only 1000 *bytes*, which are 125 doubles.  So

* of the cells that are kept, 125 are replaced by samples that are 2048 further on;
* a kept cell `j` that was not replaced still holds sample `1024 * k + j` and ought to
  hold `1024 * (k + 1) + j`.

The cells stay aligned exactly when the stream has the same sample at both places
(`Repeats`), and the replaced ones cost nothing extra (`aligned_rewound`): their places
are filled again, or they hold a repeated sample too.

## Over all calls

`writeAll_windowed_iff` says of any number of calls that the transforms are given the
windows they should be given if and only if the stream repeats itself after each of them
but the last.  `Tracked` is the invariant that carries it: the schedule, the 125 cells
that are in two places, and what the blocks and the cells say about the stream.

The schedule is arithmetic.  `transforms` and `index` are closed forms for the number of
transforms and the index before call `n`, and a call advances them as the code does
(`transforms_succ_of_lt`, `transforms_succ_of_le`).
-/

namespace SpectrogramServers.MyServer.Spectrogram

universe u

/-! ## The stream and its schedule -/

/-- The doubles from the pointer that `main` passes to the end of its array. -/
def argumentLength : ℕ := 23452

/-- The transforms before call `n`. -/
def transforms (n : ℕ) : ℕ := (1000 * n - 1024) / 1024

/-- `buffer_index` before call `n`. -/
def index (n : ℕ) : ℕ := 1000 * n - 1024 * transforms n

/-- The number of cells that are filled when transform `k` is made. -/
def filled (k : ℕ) : ℕ := 1000 * ((1024 * k + 2048 + 999) / 1000) - 1024 * k

/-- The index before a call is below 2048. -/
theorem index_lt (n : ℕ) : index n < 2048 := by
  unfold index transforms
  omega

theorem le_index {n : ℕ} (h : 0 < transforms n) : 1024 ≤ index n := by
  unfold index transforms at *
  omega

/-- A call that does not fill 2048 cells. -/
theorem transforms_succ_of_lt {n : ℕ} (h : index n + 1000 < 2048) :
    transforms (n + 1) = transforms n ∧ index (n + 1) = index n + 1000 := by
  unfold index transforms at *
  omega

/-- A call that does. -/
theorem transforms_succ_of_le {n : ℕ} (h : 2048 ≤ index n + 1000) :
    transforms (n + 1) = transforms n + 1 ∧ index (n + 1) + 1024 = index n + 1000 ∧
      filled (transforms n) = index n + 1000 := by
  unfold filled index transforms at *
  omega

/-- The samples that have been taken are those behind the transforms and those before the
index. -/
theorem transforms_add_index (n : ℕ) : 1024 * transforms n + index n = 1000 * n := by
  unfold index transforms
  omega

section

variable {K : Type u} {m : ℕ}

/-- The sample that iteration `t` takes out of the argument. -/
def taken [Field K] (buffer : CArray K m) (t : ℕ) : K × K :=
  ((buffer.get? (2 * t * 5)).getD 0, (buffer.get? (2 * t * 5 + 1)).getD 0)

/-- The samples of all calls, one after the other. -/
def stream [Field K] (calls : ℕ → CArray K m) (p : ℕ) : K × K := taken (calls (p / 1000)) (p % 1000)

/-- The blocks are consecutive samples, each block a hop of 1024 after the one
before it, the first at the beginning of the stream. -/
def Windowed (s : ℕ → K × K) (blocks : List (CArray (K × K) 2048)) : Prop :=
  ∃ start : ℕ → ℕ, start 0 = 0 ∧ (∀ k, start (k + 1) = start k + 1024) ∧
    ∀ k block, blocks[k]? = some block → ∀ j : Fin 2048, block j = s (start k + j)

/-- The stream repeats itself after 1024 samples wherever transform `k` leaves a
cell as it is. -/
def Repeats (s : ℕ → K × K) (k : ℕ) : Prop :=
  ∀ j, min copiedCells (filled k - 2048) ≤ j → j + 1024 < filled k →
    s (1024 * k + j) = s (1024 * (k + 1) + j)

/-! ## Blocks -/

/-- With a hop of 1024 from the beginning on, block `k` starts at sample `1024 * k`. -/
theorem windowed_iff {s : ℕ → K × K} {blocks : List (CArray (K × K) 2048)} :
    Windowed s blocks ↔
      ∀ k block, blocks[k]? = some block → ∀ j : Fin 2048, block j = s (1024 * k + j) := by
  constructor
  · rintro ⟨start, first, hop, blockAt⟩ k block hk j
    have multiple : ∀ k, start k = 1024 * k := by
      intro k
      induction k with
      | zero => exact first
      | succ k ih => rw [hop, ih, Nat.mul_succ]
    rw [blockAt k block hk j, multiple]
  · intro h
    exact ⟨fun k => 1024 * k, rfl, fun k => Nat.mul_succ 1024 k, h⟩

@[simp] theorem windowed_nil (s : ℕ → K × K) : Windowed s [] := by
  rw [windowed_iff]
  intro k block hk
  cases hk

/-- One more block has to be the next one. -/
theorem windowed_append {s : ℕ → K × K} {blocks : List (CArray (K × K) 2048)}
    {block : CArray (K × K) 2048} :
    Windowed s (blocks ++ [block]) ↔
      Windowed s blocks ∧ ∀ j : Fin 2048, block j = s (1024 * blocks.length + j) := by
  rw [windowed_iff, windowed_iff]
  constructor
  · intro h
    refine ⟨fun k b hk => h k b (getElem?_append_of_some hk _), h _ _ ?_⟩
    rw [List.getElem?_append_right (Nat.le_refl _), Nat.sub_self]
    rfl
  · rintro ⟨earlier, last⟩ k b hk
    rcases lt_or_ge k blocks.length with before | after
    · rw [List.getElem?_append_left before] at hk
      exact earlier k b hk
    · rw [List.getElem?_append_right after] at hk
      obtain ⟨same, rfl⟩ : k - blocks.length = 0 ∧ block = b := by
        cases e : k - blocks.length with
        | zero =>
            rw [e] at hk
            exact ⟨rfl, Option.some.inj hk⟩
        | succ d =>
            rw [e] at hk
            cases hk
      obtain rfl : k = blocks.length := by omega
      exact last

/-! ## Cells -/

/-- Cell `j` of `i_buffer` and of `q_buffer`. -/
def Buffers.cell (s : Buffers K) (j : ℕ) : Option K × Option K :=
  (s.i_buffer.get? j, s.q_buffer.get? j)

/-- The two cells that hold a sample. -/
def holding (z : K × K) : Option K × Option K := (some z.1, some z.2)

theorem holding_injective : Function.Injective (holding : K × K → Option K × Option K) := by
  rintro ⟨x, y⟩ ⟨x', y'⟩ h
  unfold holding at h
  simp only [Prod.mk.injEq, Option.some.injEq] at h
  exact Prod.ext h.1 h.2

@[simp] theorem holding_inj {y z : K × K} : holding y = holding z ↔ y = z :=
  holding_injective.eq_iff

theorem cell_block (s : Buffers K) (j : Fin 2048) : s.cell j = holding (s.block j) := by
  have inside : (j : ℕ) < 3048 := by omega
  unfold Buffers.cell
  rw [s.i_buffer.get?_of_lt inside, s.q_buffer.get?_of_lt inside]
  rfl

variable [Field K]

/-- **Appending** fills the 1000 cells from `buffer_index` on and no other. -/
theorem succeeds_append (s : Buffers K) (buffer : CArray K m) (long : 9992 ≤ m)
    (low : s.buffer_index < 2048) :
    Succeeds (s.append buffer) fun t =>
      t.buffer_index = s.buffer_index + 1000 ∧ t.blocks = s.blocks ∧
        ∀ j, t.cell j =
          if s.buffer_index ≤ j ∧ j < s.buffer_index + 1000 then
            holding (taken buffer (j - s.buffer_index))
          else s.cell j := by
  have loop : Succeeds (forUp (takeSample buffer s.buffer_index) s.buffer_index 1000
      (s.i_buffer, s.q_buffer)) fun iq => ∀ j, (iq.1.get? j, iq.2.get? j) =
        if s.buffer_index ≤ j ∧ j < s.buffer_index + 1000 then
          holding (taken buffer (j - s.buffer_index))
        else s.cell j := by
    refine succeeds_forUp (fun i (iq : CArray K 3048 × CArray K 3048) =>
      ∀ j, (iq.1.get? j, iq.2.get? j) =
        if s.buffer_index ≤ j ∧ j < i then holding (taken buffer (j - s.buffer_index))
        else s.cell j) ?_ ?_
    · intro j
      rw [if_neg (by omega)]
      rfl
    · intro i iq hlo hhi hiq
      have even : 2 * (i - s.buffer_index) * 5 < m := by omega
      have odd : 2 * (i - s.buffer_index) * 5 + 1 < m := by omega
      have inside : i < 3048 := by omega
      refine succeeds_bind_of_eq (buffer.get?_of_lt even) ?_
      refine (iq.1.succeeds_set? _ inside).bind fun i_buffer hi => ?_
      refine succeeds_bind_of_eq (buffer.get?_of_lt odd) ?_
      refine (iq.2.succeeds_set? _ inside).bind fun q_buffer hq => .pure fun j => ?_
      rw [hi, hq]
      rcases eq_or_ne j i with rfl | other
      · rw [if_pos rfl, if_pos rfl, if_pos ⟨hlo, Nat.lt_succ_self j⟩]
        unfold holding taken
        rw [buffer.get?_of_lt even, buffer.get?_of_lt odd]
        rfl
      · have same : (s.buffer_index ≤ j ∧ j < i + 1) ↔ (s.buffer_index ≤ j ∧ j < i) := by omega
        rw [if_neg other, if_neg other, if_congr same rfl rfl]
        exact hiq j
  refine loop.bind fun iq hiq => .pure ⟨?_, rfl, hiq⟩
  exact Nat.mod_eq_of_lt (by omega)

/-- **The transform** is given the block times the window; it leaves the cells
alone and records the block. -/
theorem succeeds_transform [LinearOrder K] [FloorRing K] (library : Library K) (s : Buffers K) :
    Succeeds (s.transform library) fun t =>
      t.buffer_index = s.buffer_index ∧ t.blocks = s.blocks ++ [s.block] ∧
        (∀ j, t.cell j = s.cell j) ∧
        ∀ j, t.fft_in j =
          ((s.block j).1 * library.hann2048 j, (s.block j).2 * library.hann2048 j) := by
  have windowed : Succeeds (s.window library.hann2048) fun fft_in => ∀ j, fft_in j =
      ((s.block j).1 * library.hann2048 j, (s.block j).2 * library.hann2048 j) := by
    have loop : Succeeds (s.window library.hann2048) fun fft_in =>
        ∀ j : Fin 2048, (j : ℕ) < 2048 → fft_in.get? j = some
          ((s.block j).1 * library.hann2048 j, (s.block j).2 * library.hann2048 j) := by
      refine succeeds_forUp_zero (fun i (fft_in : CArray (K × K) 2048) =>
        ∀ j : Fin 2048, (j : ℕ) < i → fft_in.get? j = some
          ((s.block j).1 * library.hann2048 j, (s.block j).2 * library.hann2048 j))
        (fun j hj => absurd hj (Nat.not_lt_zero _)) ?_
      intro i fft_in hi earlier
      have inside : i < 3048 := by omega
      refine succeeds_bind_of_eq (s.i_buffer.get?_of_lt inside) ?_
      refine succeeds_bind_of_eq (library.hann2048.get?_of_lt hi) ?_
      refine succeeds_bind_of_eq (s.q_buffer.get?_of_lt inside) ?_
      refine (fft_in.succeeds_set? _ hi).mono fun next written j hj => ?_
      rw [written]
      rcases eq_or_ne (j : ℕ) i with rfl | other
      · rw [if_pos rfl, one_mul]
        rfl
      · rw [if_neg other]
        exact earlier j (by omega)
    refine loop.mono fun fft_in h j => ?_
    have cell := h j j.isLt
    rw [fft_in.get?_fin] at cell
    exact Option.some.inj cell
  have levelled : ∀ fft_out, Succeeds (levels library.abs library.log10 fft_out)
      fun _ => True := by
    intro fft_out
    refine succeeds_forUp_zero (fun _ _ => True) trivial fun i local_buffer hi _ => ?_
    refine succeeds_bind_of_eq (fft_out.get?_of_lt (by omega)) ?_
    exact (local_buffer.succeeds_set? _ hi).mono fun _ _ => trivial
  refine windowed.bind fun fft_in product => ?_
  refine (levelled _).bind fun local_buffer _ => ?_
  refine (s.magnitude_buffer.succeeds_move? local_buffer 0 0 1024 (by omega) (by omega)).bind
    fun magnitude_buffer _ => ?_
  exact .pure ⟨rfl, rfl, fun j => rfl, product⟩

omit [Field K] in
/-- **Rewinding** replaces the first 125 cells by those from 2048 on. -/
theorem succeeds_rewind (s : Buffers K) (high : 2048 ≤ s.buffer_index)
    (bound : s.buffer_index < 3048) :
    Succeeds s.rewind fun t =>
      t.buffer_index + 1024 = s.buffer_index ∧ t.blocks = s.blocks ∧
        ∀ j, t.cell j = if j < copiedCells then s.cell (2048 + j) else s.cell j := by
  refine (s.i_buffer.succeeds_move? s.i_buffer 0 2048 copiedCells (by decide) (by decide)).bind
    fun i_buffer hi => ?_
  refine (s.q_buffer.succeeds_move? s.q_buffer 0 2048 copiedCells (by decide) (by decide)).bind
    fun q_buffer hq => .pure ⟨?_, rfl, fun j => ?_⟩
  · show unsignedInt (s.buffer_index + 2 ^ 32 - 1024) + 1024 = s.buffer_index
    unfold unsignedInt
    omega
  · show (i_buffer.get? j, q_buffer.get? j) = _
    rw [hi, hq]
    by_cases copied : j < copiedCells
    · rw [if_pos ⟨Nat.zero_le j, by omega⟩, if_pos ⟨Nat.zero_le j, by omega⟩, if_pos copied]
      rfl
    · rw [if_neg (by omega), if_neg (by omega), if_neg copied]
      rfl

/-- The samples of an argument are in the 1000 cells from `buffer_index` on. -/
def AppendedTo (s : Buffers K) (buffer : CArray K m) (w : Buffers K) : Prop :=
  ∀ j, w.cell j =
    if s.buffer_index ≤ j ∧ j < s.buffer_index + 1000 then
      holding (taken buffer (j - s.buffer_index))
    else s.cell j

/-- What a call can do. -/
inductive CallOutcome (s : Buffers K) (buffer : CArray K m) (t : Buffers K) : Prop
  /-- The samples are kept for the next call. -/
  | kept (short : s.buffer_index + 1000 < 2048)
      (buffer_index : t.buffer_index = s.buffer_index + 1000) (blocks : t.blocks = s.blocks)
      (appended : AppendedTo s buffer t)
  /-- A transform, and the cells are rewound. -/
  | transformed (w : Buffers K) (full : 2048 ≤ s.buffer_index + 1000)
      (buffer_index : t.buffer_index + 1024 = s.buffer_index + 1000)
      (blocks : t.blocks = s.blocks ++ [w.block]) (appended : AppendedTo s buffer w)
      (rewound : ∀ j, t.cell j = if j < copiedCells then w.cell (2048 + j) else w.cell j)

/-- **One call** with an index below 2048 succeeds. -/
theorem succeeds_writeToBuffer [LinearOrder K] [FloorRing K] (library : Library K)
    (s : Buffers K) (buffer : CArray K m)
    (long : 9992 ≤ m) (low : s.buffer_index < 2048) :
    Succeeds (s.writeToBuffer library buffer) (CallOutcome s buffer) := by
  refine (succeeds_append s buffer long low).bind ?_
  rintro w ⟨windex, wblocks, appended⟩
  rcases lt_or_ge (s.buffer_index + 1000) 2048 with short | full
  · rw [if_neg (by omega)]
    exact .pure (.kept short windex wblocks appended)
  · rw [if_pos (by omega)]
    refine (succeeds_transform library w).bind ?_
    rintro x ⟨xindex, xblocks, xcells, -⟩
    refine (succeeds_rewind x (by omega) (by omega)).mono ?_
    rintro t ⟨tindex, tblocks, tcells⟩
    refine .transformed w full (by omega) ?_ appended fun j => ?_
    · rw [tblocks, xblocks, wblocks]
    · rw [tcells, xcells, xcells]

/-! ## Alignment -/

/-- Cell `j` holds the sample that the next transform wants there. -/
def Aligned (s : ℕ → K × K) (n : ℕ) (b : Buffers K) : Prop :=
  ∀ j, j < index n → b.cell j = holding (s (1024 * transforms n + j))

/-- What the buffers are before call `n`: the schedule, the 125 cells that are in
two places, and what the blocks and the cells say about the stream. -/
structure Tracked (s : ℕ → K × K) (n : ℕ) (b : Buffers K) : Prop where
  buffer_index : b.buffer_index = index n
  blocks : b.blocks.length = transforms n
  copied : 0 < transforms n → ∀ j, j < copiedCells → b.cell (2048 + j) = b.cell j
  windowed : Windowed s b.blocks ↔ ∀ k, k + 1 < transforms n → Repeats s k
  aligned : Windowed s b.blocks →
    (Aligned s n b ↔ ∀ k, k + 1 = transforms n → Repeats s k)

/-- The samples of call `n` as samples of the stream. -/
theorem taken_calls (calls : ℕ → CArray K m) {n j : ℕ} (lo : index n ≤ j)
    (hi : j < index n + 1000) :
    taken (calls n) (j - index n) = stream calls (1024 * transforms n + j) := by
  have position := transforms_add_index n
  have quotient : (1024 * transforms n + j) / 1000 = n := by omega
  have remainder : (1024 * transforms n + j) % 1000 = j - index n := by omega
  unfold stream
  rw [quotient, remainder]

section Step

variable {calls : ℕ → CArray K m} {n : ℕ} {b w : Buffers K}

/-- The cells after the samples of call `n` are appended. -/
def Appended (calls : ℕ → CArray K m) (n : ℕ) (b w : Buffers K) : Prop :=
  ∀ j, w.cell j =
    if index n ≤ j ∧ j < index n + 1000 then
      holding (stream calls (1024 * transforms n + j))
    else b.cell j

theorem AppendedTo.appended (h : AppendedTo b (calls n) w) (onTime : b.buffer_index = index n) :
    Appended calls n b w := by
  intro j
  rw [h j, onTime]
  by_cases new : index n ≤ j ∧ j < index n + 1000
  · rw [if_pos new, if_pos new, taken_calls calls new.1 new.2]
  · rw [if_neg new, if_neg new]

/-- Appending aligns the cells from `buffer_index` on. -/
theorem Appended.aligned_iff (h : Appended calls n b w) :
    (∀ j, j < index n + 1000 →
      w.cell j = holding (stream calls (1024 * transforms n + j))) ↔
        Aligned (stream calls) n b := by
  constructor
  · intro all j hj
    have cell := all j (by omega)
    rwa [h, if_neg (by omega)] at cell
  · intro aligned j hj
    rw [h]
    by_cases new : index n ≤ j
    · rw [if_pos ⟨new, hj⟩]
    · rw [if_neg (fun inside => new inside.1), aligned j (by omega)]

/-- A block is the right one when the cells before it were aligned. -/
theorem Appended.block_iff (h : Appended calls n b w) (full : 2048 ≤ index n + 1000) :
    (∀ j : Fin 2048, w.block j = stream calls (1024 * transforms n + j)) ↔
      Aligned (stream calls) n b := by
  have low := index_lt n
  constructor
  · intro block j hj
    have cell := cell_block w ⟨j, by omega⟩
    rw [block] at cell
    rwa [h, if_neg fun new => absurd new.1 (Nat.not_le.mpr hj)] at cell
  · intro aligned j
    rw [← holding_inj, ← cell_block]
    exact h.aligned_iff.mpr aligned j (by omega)

/-- **What a transform leaves behind**: aligned cells stay aligned exactly when the
stream repeats itself in the kept cells that were not replaced. -/
theorem aligned_rewound {t : Buffers K} (tracked : Tracked (stream calls) n b)
    (full : 2048 ≤ index n + 1000) (appended : Appended calls n b w)
    (aligned : Aligned (stream calls) n b)
    (rewound : ∀ j, t.cell j = if j < copiedCells then w.cell (2048 + j) else w.cell j) :
    Aligned (stream calls) (n + 1) t ↔ Repeats (stream calls) (transforms n) := by
  obtain ⟨next, nextIndex, nextFilled⟩ := transforms_succ_of_le full
  have low := index_lt n
  have small : copiedCells = 125 := rfl
  have all := appended.aligned_iff.mpr aligned
  -- the samples in the replaced cells and in the others
  have replaced : ∀ j, j < min copiedCells (filled (transforms n) - 2048) →
      t.cell j = holding (stream calls (1024 * transforms n + (2048 + j))) := by
    intro j hj
    rw [rewound, if_pos (by omega), all (2048 + j) (by omega)]
  have kept : ∀ j, min copiedCells (filled (transforms n) - 2048) ≤ j → j < index (n + 1) →
      t.cell j = holding (stream calls (1024 * transforms n + j)) := by
    intro j lo hi
    rw [rewound]
    by_cases copy : j < copiedCells
    · -- the copied cell is older than this call: it is the copy of itself
      have again : 0 < transforms n := by
        rcases Nat.eq_zero_or_pos (transforms n) with first | later
        · have fresh : filled 0 = 3000 := rfl
          rw [first, fresh] at lo
          omega
        · exact later
      rw [if_pos copy, appended, if_neg (by omega), tracked.copied again j copy]
      exact aligned j (by have := le_index again; omega)
    · rw [if_neg copy]
      exact all j (by omega)
  unfold Aligned
  rw [next]
  constructor
  · intro h j lo hi
    have inside : j < index (n + 1) := by omega
    rw [← holding_inj, ← kept j lo inside]
    exact h j inside
  · intro repeats j hj
    rcases lt_or_ge j (min copiedCells (filled (transforms n) - 2048)) with copy | stale
    · -- 1024 cells further on the stream repeats itself
      have further := repeats (1024 + j) (by omega) (by omega)
      rw [replaced j copy]
      have old : 1024 * transforms n + (2048 + j) =
          1024 * (transforms n + 1) + (1024 + j) := by omega
      have new : 1024 * (transforms n + 1) + j = 1024 * transforms n + (1024 + j) := by omega
      rw [old, new, further]
    · rw [kept j stale hj]
      exact congrArg holding (repeats j stale (by omega))

/-- **One call** keeps what is tracked. -/
theorem Tracked.writeToBuffer [LinearOrder K] [FloorRing K] (library : Library K) (long : 9992 ≤ m)
    (tracked : Tracked (stream calls) n b) :
    Succeeds (b.writeToBuffer library (calls n)) (Tracked (stream calls) (n + 1)) := by
  have onTime := tracked.buffer_index
  have low := index_lt n
  refine (succeeds_writeToBuffer library b (calls n) long (by omega)).mono fun t outcome => ?_
  cases outcome with
  | kept short tindex blocks appended =>
      obtain ⟨same, nextIndex⟩ := transforms_succ_of_lt (n := n) (by omega)
      have appended := appended.appended onTime
      refine ⟨by omega, ?_, ?_, ?_, ?_⟩
      · rw [blocks, tracked.blocks, same]
      · intro some j hj
        rw [same] at some
        have small : copiedCells = 125 := rfl
        have first := le_index some
        rw [appended, appended, if_neg (by omega), if_neg (by omega)]
        exact tracked.copied some j hj
      · rw [blocks, same]
        exact tracked.windowed
      · intro good
        rw [blocks] at good
        rw [same, ← tracked.aligned good, ← appended.aligned_iff]
        unfold Aligned
        rw [same, nextIndex]
  | transformed w full tindex blocks appended rewound =>
      rw [onTime] at full
      obtain ⟨next, nextIndex, _⟩ := transforms_succ_of_le full
      have appended := appended.appended onTime
      have good : Windowed (stream calls) t.blocks ↔
          Windowed (stream calls) b.blocks ∧ Aligned (stream calls) n b := by
        rw [blocks, windowed_append, tracked.blocks, appended.block_iff full]
      refine ⟨by omega, ?_, ?_, ?_, ?_⟩
      · rw [blocks, List.length_append, tracked.blocks, next]
        rfl
      · intro _ j hj
        have small : copiedCells = 125 := rfl
        rw [rewound, rewound, if_neg (by omega), if_pos hj]
      · rw [good, next]
        constructor
        · rintro ⟨windowed, aligned⟩ k hk
          rcases Nat.lt_or_eq_of_le (Nat.le_of_lt_succ hk) with earlier | last
          · exact tracked.windowed.mp windowed k earlier
          · exact (tracked.aligned windowed).mp aligned k last
        · intro repeats
          have windowed := tracked.windowed.mpr fun k hk => repeats k (by omega)
          exact ⟨windowed, (tracked.aligned windowed).mpr fun k hk => repeats k (by omega)⟩
      · intro windowed
        rw [aligned_rewound tracked full appended (good.mp windowed).2 rewound, next]
        constructor
        · intro repeats k hk
          obtain rfl : k = transforms n := Nat.succ.inj hk
          exact repeats
        · intro all
          exact all (transforms n) rfl

end Step

/-! ## Every number of calls -/

section Runs

variable [LinearOrder K] [FloorRing K]
variable (library : Library K) (i_buffer q_buffer : CArray K 3048)
  (fft_in : CArray (K × K) 2048) (magnitude_buffer : CArray ℤ 2048)

omit [Field K] [LinearOrder K] in
theorem tracked_start (s : ℕ → K × K) :
    Tracked s 0 (start i_buffer q_buffer fft_in magnitude_buffer) where
  buffer_index := rfl
  blocks := rfl
  copied := fun some => absurd some (Nat.lt_irrefl 0)
  windowed := iff_of_true (windowed_nil s) fun _ hk => absurd hk (Nat.not_lt_zero _)
  aligned := fun _ => iff_of_true (fun j hj => absurd hj (Nat.not_lt_zero j))
    fun k hk => absurd hk (Nat.succ_ne_zero k)

/-- Every number of calls succeeds, so no index is out of bounds. -/
theorem succeeds_writeAll (long : 9992 ≤ m) (calls : ℕ → CArray K m) (n : ℕ) :
    Succeeds ((start i_buffer q_buffer fft_in magnitude_buffer).writeAll library calls n)
      (Tracked (stream calls) n) := by
  induction n with
  | zero => exact .pure (tracked_start i_buffer q_buffer fft_in magnitude_buffer _)
  | succ n ih => exact ih.bind fun b tracked => tracked.writeToBuffer library long

/-- **The blocks are windows of the stream exactly when the stream repeats itself**
after 1024 samples, for every transform but the last, in all the cells that are
kept and not replaced. -/
theorem writeAll_windowed_iff (calls : ℕ → CArray K argumentLength) (n : ℕ) :
    Succeeds ((start i_buffer q_buffer fft_in magnitude_buffer).writeAll library calls n)
      fun b => b.blocks.length = transforms n ∧
        (Windowed (stream calls) b.blocks ↔
          ∀ k, k + 1 < transforms n → Repeats (stream calls) k) := by
  refine (succeeds_writeAll library i_buffer q_buffer fft_in magnitude_buffer ?_ calls n).mono
    fun b tracked => ⟨tracked.blocks, tracked.windowed⟩
  decide

/-- On a stream of distinct samples only the first transform is given a window,
the one in the third call. -/
theorem windowed_iff_of_injective {calls : ℕ → CArray K argumentLength}
    (distinct : Function.Injective (stream calls)) (n : ℕ) :
    Succeeds ((start i_buffer q_buffer fft_in magnitude_buffer).writeAll library calls n)
      fun b => Windowed (stream calls) b.blocks ↔ n ≤ 3 := by
  refine (succeeds_writeAll library i_buffer q_buffer fft_in magnitude_buffer ?_ calls n).mono
    fun b tracked => ?_
  · decide
  rw [tracked.windowed]
  constructor
  · intro repeats
    by_contra more
    have second : 0 + 1 < transforms n := by
      unfold transforms
      omega
    have same := distinct (repeats 0 second 125 (by decide) (by decide))
    exact absurd same (by decide)
  · intro few k hk
    exfalso
    unfold transforms at hk
    omega

end Runs

/-! ## Four calls -/

/-- The library with the transform left out. -/
def plain : Library ℚ where
  hann2048 := fun _ => 1
  fftw_execute := id
  abs := fun z => |z.1|
  log10 := id

/-- Sample `p` of the stream is `p`. -/
def counting (c : ℕ) : CArray ℚ argumentLength := fun i => ((1000 * c + i / 10 : ℕ) : ℚ)

/-- Call 4 makes the second transform, and its block is not a window. -/
theorem not_windowed_four_calls :
    Succeeds ((start (fun _ => 0) (fun _ => 0) (fun _ => 0) fun _ => 0).writeAll plain counting
      4) fun b => ¬ Windowed (stream counting) b.blocks := by
  refine (succeeds_writeAll plain _ _ _ _ ?_ counting 4).mono fun b tracked => ?_
  · decide
  rw [tracked.windowed]
  intro repeats
  have same := repeats 0 (by decide) 125 (by decide) (by decide)
  exact absurd same (by decide +kernel)

end

end SpectrogramServers.MyServer.Spectrogram
