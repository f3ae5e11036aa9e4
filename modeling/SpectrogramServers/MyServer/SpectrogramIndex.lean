import SpectrogramServers.MyServer.SpectrogramWindows

/-!
# `buffer_index`, and what the transforms read

`buffer_index` goes up by 1000 with every call and down by 1024 with every transform, so
it stays below 2048 and the 1000 samples of the next call fit behind it.  This is the easy
half: the arrays have 3048 cells, and nothing wraps.

## Which sample a cell holds

The cells that a transform reads are another matter.  It reads 2048, and of those before
`buffer_index` the `memcpy` calls have replaced some by cells behind 2048.  `held` says
which sample of the stream a cell holds, by the same moves as the code makes, and
`Recorded` is that it is right about the arrays whatever they held first.  This is proved
once, by one step lemma, and serves both the question here and that of
`SpectrogramWindows`, whether they are the right samples.

## No cell is read that was never written

A cell that no call has written to would hold what the constructor left there.  The first
transform finds 3000 samples (`first_full`), since the index takes the values 0, 1000,
2000 up to it; so from then on there is no cell below 3000 that was never written
(`Written`), and no later transform reads further.

`buffer_index_lt` states both halves of every number of calls, with no wrap and at most
one transform a call.
-/

namespace SpectrogramServers.MyServer.Spectrogram

universe u

/-! ## Which sample a cell holds -/

/-- `held`, after the samples of call `n` are appended. -/
def heldAppended (held : ℕ → Option ℕ) (n j : ℕ) : Option ℕ :=
  if index n ≤ j ∧ j < index n + 1000 then some (1024 * transforms n + j) else held j

/-- The sample of the stream that cell `j` holds before call `n`, `none` as long as no call
has written to the cell. -/
def held : ℕ → ℕ → Option ℕ
  | 0, _ => none
  | n + 1, j =>
      if 2048 ≤ index n + 1000 ∧ j < copiedCells then heldAppended (held n) n (2048 + j)
      else heldAppended (held n) n j

theorem held_succ_of_lt {n : ℕ} (short : index n + 1000 < 2048) (j : ℕ) :
    held (n + 1) j = heldAppended (held n) n j :=
  if_neg fun full => absurd full.1 (Nat.not_le.mpr short)

theorem held_succ_of_le {n : ℕ} (full : 2048 ≤ index n + 1000) (j : ℕ) :
    held (n + 1) j =
      if j < copiedCells then heldAppended (held n) n (2048 + j)
      else heldAppended (held n) n j := by
  rw [held]
  exact if_congr (and_iff_right full) rfl rfl

/-! ## No sample is from a later call -/

/-- No sample is from a later call. -/
theorem heldAppended_lt {n j p : ℕ} (earlier : ∀ j p, held n j = some p → p < 1000 * n)
    (h : heldAppended (held n) n j = some p) : p < 1000 * (n + 1) := by
  have position := transforms_add_index n
  unfold heldAppended at h
  by_cases new : index n ≤ j ∧ j < index n + 1000
  · rw [if_pos new] at h
    obtain rfl := Option.some.inj h
    omega
  · rw [if_neg new] at h
    have before := earlier j p h
    omega

theorem held_lt {n j p : ℕ} (h : held n j = some p) : p < 1000 * n := by
  induction n generalizing j p with
  | zero => cases h
  | succ n ih =>
      rw [held] at h
      split at h
      · exact heldAppended_lt (fun _ _ => ih) h
      · exact heldAppended_lt (fun _ _ => ih) h

/-! ## Which cells are written -/

/-- The cells before `buffer_index` are written, and from the first transform on all
cells below 3000. -/
def Written (n : ℕ) : Prop :=
  ∀ j, j < index n ∨ (0 < transforms n ∧ j < 3000) → (held n j).isSome = true

/-- The first transform finds 3000 samples. -/
theorem first_full {n : ℕ} (first : transforms n = 0) (full : 2048 ≤ index n + 1000) :
    index n = 2000 := by
  unfold index transforms at *
  omega

theorem Written.appended {n : ℕ} (h : Written n) {j : ℕ}
    (below : j < index n + 1000 ∨ (0 < transforms n ∧ j < 3000)) :
    (heldAppended (held n) n j).isSome = true := by
  unfold heldAppended
  by_cases new : index n ≤ j ∧ j < index n + 1000
  · rw [if_pos new]
    rfl
  · rw [if_neg new]
    exact h j (by omega)

/-- When a transform is made, the cells below 3000 are written. -/
theorem Written.full {n : ℕ} (h : Written n) (full : 2048 ≤ index n + 1000) {j : ℕ}
    (below : j < 3000) : (heldAppended (held n) n j).isSome = true := by
  refine h.appended ?_
  rcases Nat.eq_zero_or_pos (transforms n) with first | later
  · have atFirst := first_full first full
    exact Or.inl (by omega)
  · exact Or.inr ⟨later, below⟩

/-- Every cell that the next transform can read is written, before every call. -/
theorem written (n : ℕ) : Written n := by
  induction n with
  | zero =>
      intro j below
      have none : transforms 0 = 0 := rfl
      have zero : index 0 = 0 := rfl
      omega
  | succ n ih =>
      intro j below
      have low := index_lt n
      rcases lt_or_ge (index n + 1000) 2048 with short | full
      · obtain ⟨same, nextIndex⟩ := transforms_succ_of_lt short
        rw [same, nextIndex] at below
        rw [held_succ_of_lt short]
        exact ih.appended below
      · obtain ⟨-, nextIndex, -⟩ := transforms_succ_of_le full
        have small : copiedCells = 125 := rfl
        rw [held_succ_of_le full]
        by_cases copy : j < copiedCells
        · rw [if_pos copy]
          exact ih.full full (by omega)
        · rw [if_neg copy]
          exact ih.full full (by omega)

section

variable {K : Type u} [Field K] [LinearOrder K] [FloorRing K] {m : ℕ}

/-! ## The arrays -/

/-- What cell `j` contains, where `first` contains what no call has written. -/
def recorded (calls : ℕ → CArray K m) (first : Buffers K) (held : ℕ → Option ℕ) (j : ℕ) :
    Option K × Option K :=
  (held j).elim (first.cell j) fun p => holding (stream calls p)

/-- Before call `n` the index is on schedule, and every cell contains the sample it holds,
or what it contained first. -/
structure Recorded (calls : ℕ → CArray K m) (first : Buffers K) (n : ℕ) (b : Buffers K) :
    Prop where
  buffer_index : b.buffer_index = index n
  cells : ∀ j, b.cell j = recorded calls first (held n) j

/-- The transform of call `n` reads only cells that this call or an earlier one has
written to, each with the sample of the stream that was put there. -/
def ReadsWritten (calls : ℕ → CArray K m) (n : ℕ) (block : CArray (K × K) 2048) : Prop :=
  ∀ j : Fin 2048, ∃ p, heldAppended (held n) n j = some p ∧ p < 1000 * (n + 1) ∧
    block j = stream calls p

section Step

variable {calls : ℕ → CArray K m} {first b w : Buffers K} {n : ℕ}

omit [LinearOrder K] [FloorRing K] in
theorem Recorded.appended (h : Recorded calls first n b) (appended : Appended calls n b w)
    (j : ℕ) : w.cell j = recorded calls first (heldAppended (held n) n) j := by
  rw [appended, recorded, heldAppended]
  by_cases new : index n ≤ j ∧ j < index n + 1000
  · rw [if_pos new, if_pos new, Option.elim_some]
  · rw [if_neg new, if_neg new]
    exact h.cells j

omit [LinearOrder K] [FloorRing K] in
theorem Recorded.readsWritten (h : Recorded calls first n b) (appended : Appended calls n b w)
    (full : 2048 ≤ index n + 1000) : ReadsWritten calls n w.block := by
  intro j
  have below : (j : ℕ) < 3000 := by omega
  obtain ⟨p, sample⟩ := Option.isSome_iff_exists.mp ((written n).full full below)
  refine ⟨p, sample, heldAppended_lt (fun _ _ => held_lt) sample, ?_⟩
  rw [← holding_inj, ← cell_block, h.appended appended, recorded, sample, Option.elim_some]

omit [LinearOrder K] [FloorRing K] in
/-- **The step lemma.** -/
theorem Recorded.step {t : Buffers K} (h : Recorded calls first n b)
    (outcome : CallOutcome b (calls n) t) : Recorded calls first (n + 1) t := by
  have onTime := h.buffer_index
  cases outcome with
  | kept short tindex blocks appended =>
      obtain ⟨-, nextIndex⟩ := transforms_succ_of_lt (n := n) (by omega)
      refine ⟨by omega, fun j => ?_⟩
      rw [h.appended (appended.appended onTime), recorded, recorded,
        held_succ_of_lt (by omega)]
  | transformed w full tindex blocks appended rewound =>
      obtain ⟨-, nextIndex, -⟩ := transforms_succ_of_le (n := n) (by omega)
      refine ⟨by omega, fun j => ?_⟩
      have small : copiedCells = 125 := rfl
      have cells := h.appended (appended.appended onTime)
      rw [rewound, recorded, held_succ_of_le (by omega)]
      by_cases copy : j < copiedCells
      · -- the cell that is copied has been written
        have copied := (written n).full (by omega) (by omega : 2048 + j < 3000)
        obtain ⟨p, sample⟩ := Option.isSome_iff_exists.mp copied
        rw [if_pos copy, if_pos copy, cells, recorded, sample, Option.elim_some, Option.elim_some]
      · rw [if_neg copy, if_neg copy]
        exact cells j

end Step

/-! ## Every number of calls -/

section Runs

variable (library : Library K) (i_buffer q_buffer : CArray K 3048)
  (fft_in : CArray (K × K) 2048) (magnitude_buffer : CArray ℤ 2048)

theorem succeeds_writeAll_recorded (long : 9992 ≤ m) (calls : ℕ → CArray K m) (n : ℕ) :
    Succeeds ((start i_buffer q_buffer fft_in magnitude_buffer).writeAll library calls n)
      (Recorded calls (start i_buffer q_buffer fft_in magnitude_buffer) n) := by
  induction n with
  | zero => exact .pure ⟨rfl, fun j => rfl⟩
  | succ n ih =>
      refine ih.bind fun b h => ?_
      have low : b.buffer_index < 2048 := h.buffer_index ▸ index_lt n
      exact (succeeds_writeToBuffer library b (calls n) long low).mono fun t => h.step

/-- **The index.**  After every number of calls `buffer_index` is below 2048, so the next
call succeeds: it writes to cells below 3048.  Either it makes no transform, or it makes
one, which reads only cells that were written to, and then goes back by 1024 without
wrapping; and it leaves an index below 2048, so no second transform is due. -/
theorem buffer_index_lt (long : 9992 ≤ m) (calls : ℕ → CArray K m) (n : ℕ) :
    Succeeds ((start i_buffer q_buffer fft_in magnitude_buffer).writeAll library calls n)
      fun s => Recorded calls (start i_buffer q_buffer fft_in magnitude_buffer) n s ∧
        s.buffer_index < 2048 ∧ s.buffer_index + 1000 ≤ 3048 ∧
        Succeeds (s.writeToBuffer library (calls n)) fun t => t.buffer_index < 2048 ∧
          ((s.buffer_index + 1000 < 2048 ∧ t.buffer_index = s.buffer_index + 1000 ∧
              t.blocks = s.blocks) ∨
            (2048 ≤ s.buffer_index + 1000 ∧ t.buffer_index + 1024 = s.buffer_index + 1000 ∧
              ∃ block, t.blocks = s.blocks ++ [block] ∧ ReadsWritten calls n block)) := by
  refine (succeeds_writeAll_recorded library i_buffer q_buffer fft_in magnitude_buffer long
    calls n).mono fun s h => ?_
  have low : s.buffer_index < 2048 := h.buffer_index ▸ index_lt n
  refine ⟨h, low, by omega, ?_⟩
  refine (succeeds_writeToBuffer library s (calls n) long low).mono fun t outcome => ?_
  cases outcome with
  | kept short tindex blocks appended =>
      exact ⟨by omega, Or.inl ⟨short, tindex, blocks⟩⟩
  | transformed w full tindex blocks appended rewound =>
      have appended := appended.appended h.buffer_index
      refine ⟨by omega, Or.inr ⟨full, by omega, w.block, blocks, ?_⟩⟩
      exact h.readsWritten appended (h.buffer_index ▸ full)

end Runs

/-- The third call makes the first transform. -/
theorem buffer_index_lt_third :
    Succeeds ((start (fun _ => 0) (fun _ => 0) (fun _ => 0) fun _ => 0).writeAll plain counting 2)
      fun s => Recorded counting (start (fun _ => 0) (fun _ => 0) (fun _ => 0) fun _ => 0) 2 s ∧
        s.buffer_index < 2048 ∧ s.buffer_index + 1000 ≤ 3048 ∧
        Succeeds (s.writeToBuffer plain (counting 2)) fun t => t.buffer_index < 2048 ∧
          ((s.buffer_index + 1000 < 2048 ∧ t.buffer_index = s.buffer_index + 1000 ∧
              t.blocks = s.blocks) ∨
            (2048 ≤ s.buffer_index + 1000 ∧ t.buffer_index + 1024 = s.buffer_index + 1000 ∧
              ∃ block, t.blocks = s.blocks ++ [block] ∧ ReadsWritten counting 2 block)) :=
  buffer_index_lt plain _ _ _ _ (by decide) counting 2

end

end SpectrogramServers.MyServer.Spectrogram
