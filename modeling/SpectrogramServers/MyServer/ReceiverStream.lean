import Mathlib.Data.Rat.Floor
import Mathlib.Tactic.NormNum
import SpectrogramServers.MyServer.ReceiverBlock

/-!
# The receiver on an infinite stream

The receiver works on blocks of `sampleCnt` samples.  `reference` is what it
should compute if it had the whole stream at once: every sample mixed with the
table entry for its own number, and the chain of stages run over the result once.
`block_partition_invariance` says that the blocks compute just that.

What carries it from block to block is `Carried`: at the start of block `b` the
front of `bufferShifted` holds the last `historyCnt` mixed samples, and
`sineSignal` is the phase of sample `sampleCnt * b` up to whole turns.  Before
the first block there is nothing to carry, and the first block's audio is the only
one that depends on what the buffers held.

The oscillator never leaves the table, although the table is one entry short.
`shiftFactor` is 50/441, so a phase is a multiple of 1/441, and of the 441 indices
that occur none is 1023 and none is 767, from where a quarter turn leads to 1023
(`tableIndex_lt`, `quadrature_lt`).
-/

namespace SpectrogramServers.MyServer.Receiver

open Tables

universe u

/-! ## The reference -/

section Reference

variable (K : Type u) [Field K] [LinearOrder K] [FloorRing K]

/-- The table index of sample `g`. -/
def tableIndex (g : ℕ) : ℕ := ⌊((1024 : ℕ) : K) * Int.fract ((g : K) * shiftFactor)⌋.toNat

/-- The sine for sample `g`. -/
def sine (g : ℕ) : K := ((sin1024 K).get? (tableIndex K g)).getD 0

/-- The cosine for sample `g`: the entry a quarter of the table further on. -/
def cosine (g : ℕ) : K := ((sin1024 K).get? ((tableIndex K g + 256) % 1024)).getD 0

variable {K}

/-- Sample `g` of the stream, scaled and shifted in frequency. -/
def mixed (x : ℕ → ℤ × ℤ) (g : ℕ) : K × K :=
  (scaled (x g).1 * cosine K g - scaled (x g).2 * sine K g,
    scaled (x g).1 * sine K g + scaled (x g).2 * cosine K g)

/-- The single pass over the whole stream.  Its filtered sample `t` starts at
mixed sample `40 * t - historyCnt`; where that is negative, before entry 26, the
reference means nothing. -/
def reference (fast_atan2f : K → K → K) (x : ℕ → ℤ × ℤ) : ℕ → ℤ :=
  audio fast_atan2f (delay historyCnt (mixed x))

/-- The stream of mixed samples as block `b` sees it. -/
def window (x : ℕ → ℤ × ℤ) (b : ℕ) : ℕ → K × K :=
  shift (sampleCnt * b) (delay historyCnt (mixed x))

/-- Behind the history come the samples of the block. -/
theorem window_history_add (x : ℕ → ℤ × ℤ) (b i : ℕ) :
    (window x b (historyCnt + i) : K × K) = mixed x (sampleCnt * b + i) := by
  have index : sampleCnt * b + (historyCnt + i) - historyCnt = sampleCnt * b + i := by
    rw [Nat.add_left_comm, Nat.add_sub_cancel_left]
  exact congrArg (mixed x) index

/-- A block later the same samples are `sampleCnt` places further to the front. -/
theorem window_sampleCnt_add (x : ℕ → ℤ × ℤ) (b k : ℕ) :
    (window x b (sampleCnt + k) : K × K) = window x (b + 1) k := by
  have index : sampleCnt * b + (sampleCnt + k) = sampleCnt * (b + 1) + k := by
    rw [Nat.mul_succ, Nat.add_assoc]
  exact congrArg (delay historyCnt (mixed x)) index

/-- **Blocks and stream agree on the audio**: the 26 samples of a block are the 26
entries of the reference with its number. -/
theorem audio_window (fast_atan2f : K → K → K) (x : ℕ → ℤ × ℤ) (b i : ℕ) :
    audio fast_atan2f (window x b) i = reference fast_atan2f x (downSampleCnt * b + i) :=
  (equivariant_audio fast_atan2f).block downSampleCnt b i (delay historyCnt (mixed x))

end Reference

/-! ## The oscillator -/

section Oscillator

variable {K : Type u} [Field K] [LinearOrder K] [FloorRing K] [IsStrictOrderedRing K]

/-- A phase is a multiple of 1/441. -/
theorem fract_phase (g : ℕ) :
    Int.fract ((g : K) * shiftFactor) = ((50 * g % 441 : ℕ) : K) / (441 : ℕ) := by
  have ratio : (g : K) * shiftFactor = ((50 * g : ℕ) : K) / (441 : ℕ) := by
    unfold shiftFactor
    push_cast
    ring
  rw [ratio, Int.fract_div_natCast_eq_div_natCast_mod]

theorem floor_phase (g : ℕ) :
    ⌊1024 * Int.fract ((g : K) * shiftFactor)⌋ = ((1024 * (50 * g % 441) / 441 : ℕ) : ℤ) := by
  have scaled : 1024 * Int.fract ((g : K) * shiftFactor) =
      ((1024 * (50 * g % 441) : ℕ) : K) / (441 : ℕ) := by
    rw [fract_phase, ← mul_div_assoc, Nat.cast_mul]
    rfl
  rw [scaled, Int.floor_div_natCast, Int.floor_natCast]
  rfl

theorem tableIndex_eq (g : ℕ) : tableIndex K g = 1024 * (50 * g % 441) / 441 := by
  unfold tableIndex
  rw [Nat.cast_ofNat, floor_phase, Int.toNat_natCast]

/-- The in-phase index is inside the table. -/
theorem tableIndex_lt (g : ℕ) : tableIndex K g < 1023 := by
  rw [tableIndex_eq]
  omega

/-- So is the quadrature index: index 767 does not occur. -/
theorem quadrature_lt (g : ℕ) : (tableIndex K g + 256) % 1024 < 1023 := by
  rw [tableIndex_eq]
  omega

omit [IsStrictOrderedRing K] in
theorem truncate_of_nonneg {x : K} (h : 0 ≤ x) : truncate x = ⌊x⌋ := if_pos h

omit [IsStrictOrderedRing K] in
theorem modf_of_nonneg {x : K} (h : 0 ≤ x) : modf x = Int.fract x := by
  unfold modf
  rw [truncate_of_nonneg h, Int.self_sub_floor]

theorem truncate_phase (g : ℕ) :
    truncate (1024 * Int.fract ((g : K) * shiftFactor)) = tableIndex K g := by
  have nonneg : (0 : K) ≤ 1024 * Int.fract ((g : K) * shiftFactor) :=
    mul_nonneg (by norm_num) (Int.fract_nonneg _)
  rw [truncate_of_nonneg nonneg, floor_phase, tableIndex_eq]

theorem inPhaseIndex_phase (g : ℕ) :
    inPhaseIndex (Int.fract ((g : K) * shiftFactor)) = tableIndex K g := by
  have inside := tableIndex_lt (K := K) g
  unfold inPhaseIndex
  rw [truncate_phase, if_neg (by omega)]

theorem quadratureIndex_phase (g : ℕ) :
    quadratureIndex (Int.fract ((g : K) * shiftFactor)) =
      ((tableIndex K g + 256) % 1024 : ℕ) := by
  have remainder : ((tableIndex K g : ℤ) + 256).tmod 1024 =
      ((tableIndex K g + 256) % 1024 : ℕ) := by
    rw [Int.tmod_eq_emod_of_nonneg (by omega)]
    omega
  unfold quadratureIndex
  rw [truncate_phase, remainder, if_neg (by omega)]

theorem index?_natCast {α : Type u} {n : ℕ} (a : CArray α n) (i : ℕ) :
    index? a i = a.get? i := by
  unfold index?
  rw [if_pos (Int.natCast_nonneg i), Int.toNat_natCast]

theorem index?_inPhaseIndex (g : ℕ) :
    index? (sin1024 K) (inPhaseIndex (Int.fract ((g : K) * shiftFactor))) =
      some (sine K g) := by
  unfold sine
  rw [inPhaseIndex_phase, index?_natCast, (sin1024 K).get?_of_lt (tableIndex_lt g)]
  rfl

theorem index?_quadratureIndex (g : ℕ) :
    index? (sin1024 K) (quadratureIndex (Int.fract ((g : K) * shiftFactor))) =
      some (cosine K g) := by
  unfold cosine
  rw [quadratureIndex_phase, index?_natCast, (sin1024 K).get?_of_lt (quadrature_lt g)]
  rfl

/-- `sineSignal` is the phase of sample `g`, up to whole turns. -/
def InPhase (sineSignal : K) (g : ℕ) : Prop :=
  0 ≤ sineSignal ∧ Int.fract sineSignal = Int.fract ((g : K) * shiftFactor)

/-- **The oscillator is at the phase of the next sample** after each one. -/
theorem InPhase.succ {sineSignal : K} {g : ℕ} (h : InPhase sineSignal g) :
    InPhase (modf sineSignal + shiftFactor) (g + 1) := by
  obtain ⟨nonneg, phase⟩ := h
  rw [modf_of_nonneg nonneg, phase]
  have step : (0 : K) ≤ shiftFactor := by
    unfold shiftFactor
    norm_num
  refine ⟨add_nonneg (Int.fract_nonneg _) step, ?_⟩
  rw [Int.fract_eq_fract]
  -- the two phases differ by the whole turns that `modf` has taken off
  refine ⟨-⌊(g : K) * shiftFactor⌋, ?_⟩
  rw [← Int.self_sub_floor]
  push_cast
  ring

end Oscillator

/-! ## One pass -/

section Pass

variable {K : Type u} [Field K] [LinearOrder K] [FloorRing K] [IsStrictOrderedRing K]

theorem succeeds_receiveSamples {r : Round} {y : ℕ → ℤ × ℤ} (h : r.samples.Holds sampleCnt y)
    (buffer : CArray ℤ bufferCount) :
    Succeeds (receiveSamples r buffer) fun b => ∀ i, i < sampleCnt →
      b.get? (bufferOffset + 2 * i) = some (y i).1 ∧
        b.get? (bufferOffset + 2 * i + 1) = some (y i).2 := by
  refine succeeds_forUp_zero (fun n (b : CArray ℤ bufferCount) => ∀ i, i < n →
    b.get? (bufferOffset + 2 * i) = some (y i).1 ∧
      b.get? (bufferOffset + 2 * i + 1) = some (y i).2)
    (fun i hi => absurd hi (Nat.not_lt_zero i)) ?_
  intro n a hn ha
  have size := bufferCount_eq
  have offset := bufferOffset_eq
  refine succeeds_bind_of_eq (h n hn) ?_
  refine (a.succeeds_set? _ (by omega)).bind fun b hb => ?_
  refine (b.succeeds_set? _ (by omega)).mono fun c hc => ?_
  intro i hi
  rw [hc, hc, hb, hb]
  rcases eq_or_ne i n with rfl | different
  · simp
  · rw [if_neg (by omega), if_neg (by omega), if_neg (by omega), if_neg (by omega)]
    exact ha i (by omega)

/-- The buffer behind the mixing loop's iteration `n` of block `b`: the history is
what it was, and `n` samples of the block are mixed. -/
structure Mixed (x : ℕ → ℤ × ℤ) (b n : ℕ) (before after : CArray K bufferCount) : Prop where
  history : ∀ j, j < bufferOffset → after.get? j = before.get? j
  block : ∀ k, historyCnt ≤ k → k < historyCnt + n →
    after.get? (2 * k) = some (window x b k).1 ∧
      after.get? (2 * k + 1) = some (window x b k).2

theorem succeeds_mixSample {x : ℕ → ℤ × ℤ} {buffer : CArray ℤ bufferCount} {b n : ℕ}
    (hn : n < sampleCnt)
    (received : buffer.get? (bufferOffset + 2 * n) = some (x (sampleCnt * b + n)).1 ∧
      buffer.get? (bufferOffset + 2 * n + 1) = some (x (sampleCnt * b + n)).2)
    {before : CArray K bufferCount} {s : CArray K bufferCount × K}
    (phase : InPhase s.2 (sampleCnt * b + n)) (mix : Mixed x b n before s.1) :
    Succeeds (mixSample buffer n s) fun t =>
      InPhase t.2 (sampleCnt * b + (n + 1)) ∧ Mixed x b (n + 1) before t.1 := by
  have size := bufferCount_eq
  have offset := bufferOffset_eq
  have turn : modf s.2 = Int.fract (((sampleCnt * b + n : ℕ) : K) * shiftFactor) := by
    rw [modf_of_nonneg phase.1, phase.2]
  unfold mixSample
  refine succeeds_bind_of_eq (a := sine K (sampleCnt * b + n)) (by
    rw [turn]
    exact index?_inPhaseIndex _) ?_
  refine succeeds_bind_of_eq (a := cosine K (sampleCnt * b + n)) (by
    rw [turn]
    exact index?_quadratureIndex _) ?_
  refine succeeds_bind_of_eq received.1 (succeeds_bind_of_eq received.2 ?_)
  refine (s.1.succeeds_set? _ (by omega)).bind fun c hc => ?_
  refine (c.succeeds_set? _ (by omega)).bind fun e he => ?_
  refine .pure ⟨phase.succ, ?_, ?_⟩
  · intro j hj
    rw [he, if_neg (by omega), hc, if_neg (by omega)]
    exact mix.history j hj
  · intro k hlo hhi
    rw [he, he, hc, hc]
    rcases eq_or_ne k (historyCnt + n) with rfl | different
    -- the two cells just written
    · rw [window_history_add, if_neg (by omega), if_pos (by omega), if_pos (by omega)]
      exact ⟨rfl, rfl⟩
    · rw [if_neg (by omega), if_neg (by omega), if_neg (by omega), if_neg (by omega)]
      exact mix.block k hlo (by omega)

/-- **What is carried into block `b`**: the phase of its first sample, and from
the second block on the last mixed samples of the block before. -/
structure Carried (x : ℕ → ℤ × ℤ) (b : ℕ) (s : MainState K) : Prop where
  phase : InPhase s.sineSignal (sampleCnt * b)
  history : 1 ≤ b → s.bufferShifted.HoldsPairs historyCnt (window x b)

/-- Receiving and mixing a full block. -/
theorem succeeds_mix {x : ℕ → ℤ × ℤ} {b : ℕ} {s : MainState K} {r : Round}
    (carried : Carried x b s) (samples : r.samples.Holds sampleCnt (shift (sampleCnt * b) x)) :
    Succeeds (receiveSamples r s.buffer) fun buffer =>
      Succeeds (forUp (mixSample buffer) 0 sampleCnt (s.bufferShifted, s.sineSignal)) fun t =>
        InPhase t.2 (sampleCnt * (b + 1)) ∧ Mixed x b sampleCnt s.bufferShifted t.1 := by
  refine (succeeds_receiveSamples samples s.buffer).mono fun buffer received => ?_
  refine succeeds_forUp_zero (fun n (t : CArray K bufferCount × K) =>
    InPhase t.2 (sampleCnt * b + n) ∧ Mixed x b n s.bufferShifted t.1) ?_ ?_
  · refine ⟨carried.phase, fun j _ => rfl, fun k hlo hhi => ?_⟩
    exact absurd hhi (Nat.not_lt.mpr hlo)
  · rintro n t hn ⟨phase, mix⟩
    exact succeeds_mixSample hn (received n hn) phase mix

omit [IsStrictOrderedRing K] in
/-- From the second block on the whole buffer is the block's window. -/
theorem Mixed.holds {x : ℕ → ℤ × ℤ} {b : ℕ} {before after : CArray K bufferCount}
    (mix : Mixed x b sampleCnt before after) (h : before.HoldsPairs historyCnt (window x b)) :
    after.HoldsPairs (historyCnt + sampleCnt) (window x b) := by
  have offset := bufferOffset_eq
  intro k hk
  rcases Nat.lt_or_ge k historyCnt with old | new
  · rw [mix.history _ (by omega), mix.history _ (by omega)]
    exact h k old
  · exact mix.block k new hk

theorem historyCnt_le_sampleCnt : historyCnt ≤ sampleCnt := by decide

omit [IsStrictOrderedRing K] in
/-- **The seam.**  After the `memcpy` the front of the buffer is the history of the
next block. -/
theorem succeeds_carry {x : ℕ → ℤ × ℤ} {b : ℕ} {before : CArray K bufferCount}
    {s : MainState K} (phase : InPhase s.sineSignal (sampleCnt * (b + 1)))
    (mix : Mixed x b sampleCnt before s.bufferShifted) :
    Succeeds s.carry fun t => Carried x (b + 1) t ∧ t.blocks = s.blocks := by
  have size := bufferCount_eq
  have offset := bufferOffset_eq
  have reach := historyCnt_le_sampleCnt
  refine (s.buffer.succeeds_move? s.buffer 0 (sampleCnt * 2) bufferOffset
    (by omega) (by omega)).bind fun buffer _ => ?_
  refine (s.bufferShifted.succeeds_move? s.bufferShifted 0 (sampleCnt * 2) bufferOffset
    (by omega) (by omega)).bind fun shifted moved => ?_
  refine .pure ⟨⟨phase, fun _ k hk => ?_⟩, rfl⟩
  have source := mix.block (sampleCnt + k) (by omega) (by omega)
  rw [window_sampleCnt_add] at source
  have even : sampleCnt * 2 + (2 * k - 0) = 2 * (sampleCnt + k) := by omega
  have odd : sampleCnt * 2 + (2 * k + 1 - 0) = 2 * (sampleCnt + k) + 1 := by omega
  rw [moved, moved, if_pos (by omega), if_pos (by omega), even, odd]
  exact source

/-- The pass whose `writeSamples` fails is the last one. -/
def Round.fails (r : Round) : Bool := !r.warmingUp && decide (r.written < 0)

/-- What a pass over block `b` leaves in the history: nothing while warming up, else
a block whose audio, from the second block on, is the reference's. -/
structure Passed (fast_atan2f : K → K → K) (x : ℕ → ℤ × ℤ) (b : ℕ) (r : Round)
    (entry : Option (Block K)) : Prop where
  processed : entry.isSome = !r.warmingUp
  samples : ∀ block, entry = some block → 1 ≤ b →
    block.downsampled_audio.Holds downSampleCnt fun i =>
      reference fast_atan2f x (downSampleCnt * b + i)

omit [IsStrictOrderedRing K] in
/-- Processing block `b`. -/
theorem succeeds_processBlock_window (platform : Platform) (fast_atan2f : K → K → K)
    {x : ℕ → ℤ × ℤ} {b : ℕ} {before after : CArray K bufferCount}
    (mix : Mixed x b sampleCnt before after)
    (history : 1 ≤ b → before.HoldsPairs historyCnt (window x b)) :
    Succeeds (processBlock platform fast_atan2f after) fun block => 1 ≤ b →
      block.downsampled_audio.Holds downSampleCnt fun i =>
        reference fast_atan2f x (downSampleCnt * b + i) := by
  rcases Nat.eq_zero_or_pos b with rfl | later
  · -- Nothing precedes block 0: the window starts with what the buffer held.
    have : Inhabited K := ⟨0⟩
    obtain ⟨w, hw⟩ := CArray.exists_holdsPairs after (historyCnt + sampleCnt)
      (Nat.le_of_eq bufferCount_eq.symm)
    exact (succeeds_processBlock platform fast_atan2f hw).mono fun _ _ early =>
      absurd early (Nat.not_succ_le_zero 0)
  · refine (succeeds_processBlock platform fast_atan2f (mix.holds (history later))).mono ?_
    rintro block ⟨-, -, samples⟩ - i hi
    rw [samples i hi, audio_window]

/-- **One pass** over a full block: no index is out of bounds, the history grows by
what the block makes, and what is carried into the next block is right. -/
theorem succeeds_pass (platform : Platform) (fast_atan2f : K → K → K) {x : ℕ → ℤ × ℤ}
    {b : ℕ} {s : MainState K} {r : Round} (carried : Carried x b s)
    (full : r.samplesRead = sampleCnt)
    (samples : r.samples.Holds sampleCnt (shift (sampleCnt * b) x)) :
    Succeeds (s.pass platform fast_atan2f r) fun u =>
      ∃ entry, Passed fast_atan2f x b r entry ∧ u.1.blocks = s.blocks ++ [entry] ∧
        (r.fails = true → u.2 = .broken) ∧
        (r.fails = false → u.2 = .next ∧ Carried x (b + 1) u.1) := by
  have count : r.samplesRead.toNat = sampleCnt := by rw [full, Int.toNat_natCast]
  unfold MainState.pass
  refine (succeeds_mix carried samples).bind fun buffer mixing => ?_
  rw [count]
  refine mixing.bind ?_
  rintro ⟨shifted, sineSignal⟩ ⟨phase, mix⟩
  rw [if_neg (not_not.mpr full)]
  cases warming : r.warmingUp with
  | true =>
      rw [if_pos rfl]
      -- a warm-up pass mixes and carries, and does nothing else
      refine (succeeds_carry phase mix).bind ?_
      rintro t ⟨next, same⟩
      refine .pure ⟨none, ⟨?_, fun _ h => by cases h⟩, congrArg (· ++ [none]) same, ?_, ?_⟩
      · rw [warming]
        rfl
      · intro fails
        simp [Round.fails, warming] at fails
      · intro _
        exact ⟨rfl, next.phase, next.history⟩
  | false =>
      rw [if_neg Bool.false_ne_true]
      refine (succeeds_processBlock_window platform fast_atan2f mix carried.history).bind ?_
      intro block audio
      have passed : Passed fast_atan2f x b r (some block) := by
        refine ⟨by rw [warming]; rfl, ?_⟩
        rintro _ ⟨rfl⟩
        exact audio
      by_cases failed : r.written < 0
      · rw [if_pos failed]
        refine .pure ⟨some block, passed, rfl, fun _ => rfl, fun goes => ?_⟩
        simp [Round.fails, warming, failed] at goes
      · rw [if_neg failed]
        refine (succeeds_carry phase mix).bind ?_
        rintro t ⟨next, same⟩
        refine .pure ⟨some block, passed, same, fun fails => ?_, fun _ => ⟨rfl, next⟩⟩
        simp [Round.fails, failed] at fails

end Pass

/-! ## The whole run -/

section Run

variable {K : Type u} [Field K] [LinearOrder K] [FloorRing K] [IsStrictOrderedRing K]

/-- The rounds deliver the stream from block `b` on, in full blocks. -/
def Delivers (x : ℕ → ℤ × ℤ) : ℕ → List Round → Prop
  | _, [] => True
  | b, r :: rs =>
      r.samplesRead = sampleCnt ∧ r.samples.Holds sampleCnt (shift (sampleCnt * b) x) ∧
        Delivers x (b + 1) rs

/-- The rounds the loop gets to: all of them up to the first whose `writeSamples`
fails. -/
def attempted : List Round → List Round
  | [] => []
  | r :: rs => if r.fails then [r] else r :: attempted rs

/-- **The run from block `b` on.**  Every round that is reached adds one entry to
the history, and entry `i` is what a pass over block `b + i` leaves. -/
theorem succeeds_loop (platform : Platform) (fast_atan2f : K → K → K) {x : ℕ → ℤ × ℤ}
    {b : ℕ} {s : MainState K} {rounds : List Round} (carried : Carried x b s)
    (stream : Delivers x b rounds) :
    Succeeds (s.loop platform fast_atan2f rounds) fun t => ∃ entries,
      t.blocks = s.blocks ++ entries ∧
        entries.map Option.isSome = (attempted rounds).map (fun r => !r.warmingUp) ∧
        ∀ i block, entries[i]? = some (some block) → 1 ≤ b + i →
          block.downsampled_audio.Holds downSampleCnt fun j =>
            reference fast_atan2f x (downSampleCnt * (b + i) + j) := by
  induction rounds generalizing b s with
  | nil =>
      refine .pure ⟨[], (List.append_nil _).symm, rfl, fun i block h => ?_⟩
      cases h
  | cons r rs ih =>
      obtain ⟨full, samples, rest⟩ := stream
      unfold MainState.loop attempted
      refine (succeeds_pass platform fast_atan2f carried full samples).bind ?_
      rintro ⟨t, ending⟩ ⟨entry, passed, grown, broken, next⟩
      cases fails : r.fails with
      | true =>
          obtain rfl : ending = .broken := broken fails
          refine .pure ⟨[entry], grown, ?_, fun i block h later => ?_⟩
          · rw [if_pos rfl, List.map_singleton, List.map_singleton, passed.processed]
          · cases i with
            | zero => exact passed.samples block (Option.some.inj h) later
            | succ i => cases h
      | false =>
          obtain ⟨rfl, carried'⟩ := next fails
          refine (ih carried' rest).mono ?_
          rintro u ⟨entries, grown', marks, audio⟩
          -- entry 0 is this round's, and the others are those of the run from block `b + 1` on
          refine ⟨entry :: entries, ?_, ?_, fun i block h later => ?_⟩
          · rw [grown', grown, List.append_assoc]
            rfl
          · rw [if_neg Bool.false_ne_true, List.map_cons, List.map_cons, marks,
              passed.processed]
          · cases i with
            | zero => exact passed.samples block (Option.some.inj h) later
            | succ i =>
                have index : b + 1 + i = b + (i + 1) := Nat.add_right_comm b 1 i
                rw [← index] at later ⊢
                exact audio i block h later

omit [IsStrictOrderedRing K] in
/-- At the start the oscillator is at phase 0, and there is no history. -/
theorem carried_start (x : ℕ → ℤ × ℤ) (buffer : CArray ℤ bufferCount)
    (bufferShifted : CArray K bufferCount) : Carried x 0 (start buffer bufferShifted) := by
  refine ⟨⟨le_refl 0, ?_⟩, fun early => absurd early (Nat.not_succ_le_zero 0)⟩
  rw [Nat.mul_zero, Nat.cast_zero, zero_mul]
  rfl

/-- **Block-partition invariance.**  Whatever stream arrives in full blocks, on
either platform, whatever the buffers held at the start and whichever blocks only
warm up: no index is out of bounds, every round up to the first failed
`writeSamples` is passed, and every block behind the first that is processed gives
`writeSamples` the entries of the single-pass reference with its number. -/
theorem block_partition_invariance (platform : Platform) (fast_atan2f : K → K → K)
    (x : ℕ → ℤ × ℤ) (rounds : List Round) (stream : Delivers x 0 rounds)
    (buffer : CArray ℤ bufferCount) (bufferShifted : CArray K bufferCount) :
    Succeeds ((start buffer bufferShifted).loop platform fast_atan2f rounds) fun t =>
      t.blocks.map Option.isSome = (attempted rounds).map (fun r => !r.warmingUp) ∧
        ∀ b block, 1 ≤ b → t.blocks[b]? = some (some block) →
          block.downsampled_audio.Holds downSampleCnt fun i =>
            reference fast_atan2f x (downSampleCnt * b + i) := by
  have start := carried_start x buffer bufferShifted
  refine (succeeds_loop platform fast_atan2f start stream).mono ?_
  rintro t ⟨entries, grown, marks, audio⟩
  obtain rfl : t.blocks = entries := grown
  refine ⟨marks, fun b block later h => ?_⟩
  have samples := audio b block h (by omega)
  rwa [Nat.zero_add] at samples

end Run

/-- A round that delivers silence. -/
def silence (warmingUp : Bool) : Round where
  samples := fun _ => (0, 0)
  samplesRead := sampleCnt
  warmingUp := warmingUp
  written := 0

/-- A silent stream: one block to warm up, two to hear.  On silence `fast_atan2f`
is only called with zeros, and is zero. -/
theorem block_partition_invariance_silence :
    Succeeds ((start (fun _ => 1) (fun _ => (1 : ℚ))).loop .portable (fun _ _ => 0)
        [silence true, silence false, silence false]) fun t =>
      t.blocks.map Option.isSome = [false, true, true] ∧
        ∀ b block, 1 ≤ b → t.blocks[b]? = some (some block) →
          block.downsampled_audio.Holds downSampleCnt fun i =>
            reference (fun _ _ => (0 : ℚ)) (fun _ => (0, 0)) (downSampleCnt * b + i) :=
  block_partition_invariance .portable (fun _ _ => 0) (fun _ => (0, 0))
    [silence true, silence false, silence false]
    ⟨rfl, fun _ hi => CArray.get?_of_lt _ hi, rfl, fun _ hi => CArray.get?_of_lt _ hi,
      rfl, fun _ hi => CArray.get?_of_lt _ hi, trivial⟩
    (fun _ => 1) (fun _ => 1)

end SpectrogramServers.MyServer.Receiver
