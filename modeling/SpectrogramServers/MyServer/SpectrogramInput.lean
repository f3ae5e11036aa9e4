import Mathlib.Data.List.ReduceOption
import SpectrogramServers.MyServer.ReceiverStream
import SpectrogramServers.MyServer.SpectrogramWindows

/-!
# What `main` hands to `writeToBuffer`

With the server on, every pass that processes a block calls `writeToBuffer` with a pointer
into `bufferFiltered`, right after the first filter.  The name says what the array should
hold, the first-stage filtered signal at the full sample rate, and the code that would
compute it is commented out.

## Nothing fills the array

The load-bearing fact is that no statement which is compiled writes to `bufferFiltered`
after the `memset` (`bufferFiltered_eq_zero`).  It is proved along the statements of a
block, one lemma for each, on both platforms.  So every call is given zeros, whatever is
received, and `writeToBuffer` is right only about signals whose filtered samples vanish
where it reads (`handsOverFiltered_iff`).

## Over a run

The pointer starts at index `2 * filterLengthTwo + 2`, and `writeToBuffer` takes one pair
in five: 1000 places of the array matter, and `sampled` is their index.
`MainState.processed` lists the blocks of a run of `main`, each with the samples it was
made from, so that the condition can compare the two (`handedOver_filtered_iff`).

What follows for the pictures is in the same place: every transform is given silence
(`transforms_silent`), so no two streams can be told apart by their spectrograms.
-/

namespace SpectrogramServers.MyServer.Receiver

universe u

variable {K : Type u} [Field K] [LinearOrder K] [FloorRing K]

/-! ## The argument -/

/-- The index of the pointer, `2 * filterLengthTwo + 2`. -/
def pointerIndex : ℕ := 2 * filterLengthTwo + 2

/-- `&(bufferFiltered[2 * filterLengthTwo + 2])`. -/
def Block.handedOver (block : Block K) : CArray K Spectrogram.argumentLength := fun i =>
  block.bufferFiltered ⟨pointerIndex + i, by
    have size : pointerIndex + Spectrogram.argumentLength =
      sampleCnt * 2 + 2 * filterLengthTwo * stageOneDecimation + 2 * stageOneDecimation := rfl
    omega⟩

/-- The `k` of the pair that iteration `i` of `writeToBuffer` reads,
`bufferFiltered[2 * k]` and `bufferFiltered[2 * k + 1]`. -/
def sampled (i : ℕ) : ℕ := filterLengthTwo + 1 + 5 * i

omit [Field K] [LinearOrder K] [FloorRing K] in
theorem get?_handedOver (block : Block K) {j : ℕ} (hj : j < Spectrogram.argumentLength) :
    block.handedOver.get? j = block.bufferFiltered.get? (pointerIndex + j) := by
  have size : pointerIndex + Spectrogram.argumentLength =
    sampleCnt * 2 + 2 * filterLengthTwo * stageOneDecimation + 2 * stageOneDecimation := rfl
  rw [CArray.get?_of_lt _ hj, CArray.get?_of_lt _ (by omega)]
  rfl

omit [LinearOrder K] [FloorRing K] in
/-- Iteration `i` of `writeToBuffer` takes the pair at `sampled i`. -/
theorem taken_handedOver (block : Block K) {i : ℕ} (hi : i < 1000) :
    Spectrogram.taken block.handedOver i =
      ((block.bufferFiltered.get? (2 * sampled i)).getD 0,
        (block.bufferFiltered.get? (2 * sampled i + 1)).getD 0) := by
  have length : Spectrogram.argumentLength = 23452 := rfl
  have even : pointerIndex + 2 * i * 5 = 2 * sampled i := by
    unfold pointerIndex sampled
    omega
  unfold Spectrogram.taken
  rw [get?_handedOver block (by omega), get?_handedOver block (by omega), ← Nat.add_assoc, even]

/-- The first-stage filtered signal at `k`. -/
def filteredAt (bufferShifted : CArray K bufferCount) (k : ℕ) : K × K :=
  ∑ p : Fin filterLengthOne,
    (filter_coeff_one p * (bufferShifted.get? (2 * (k + p))).getD 0,
      filter_coeff_one p * (bufferShifted.get? (2 * (k + p) + 1)).getD 0)

/-- What the call is meant to be given: the cells of `bufferFiltered` that `writeToBuffer`
reads hold the filtered signal. -/
def HandsOverFiltered (bufferShifted : CArray K bufferCount) (block : Block K) : Prop :=
  ∀ i, i < 1000 →
    block.bufferFiltered.get? (2 * sampled i) = some (filteredAt bufferShifted (sampled i)).1 ∧
      block.bufferFiltered.get? (2 * sampled i + 1) =
        some (filteredAt bufferShifted (sampled i)).2

/-! ## The blocks of a run -/

/-- `bufferShifted` after the samples of the round are received and mixed. -/
def MainState.mix (s : MainState K) (r : Round) : Option (CArray K bufferCount) :=
  (receiveSamples r s.buffer).bind fun buffer =>
  (forUp (mixSample buffer) 0 r.samplesRead.toNat (s.bufferShifted, s.sineSignal)).bind
    fun mixed => some mixed.1

/-- The blocks that a pass adds to the history, each with the `bufferShifted` it is
processed from. -/
def MainState.processedIn (s : MainState K) (r : Round) (t : MainState K) :
    List (CArray K bufferCount × Block K) :=
  (s.mix r).elim [] fun bufferShifted =>
    (t.blocks.drop s.blocks.length).reduceOption.map fun block => (bufferShifted, block)

/-- The blocks that the passes of the loop process. -/
def MainState.processed (platform : Platform) (fast_atan2f : K → K → K) :
    MainState K → List Round → List (CArray K bufferCount × Block K)
  | _, [] => []
  | s, r :: rs =>
      (s.pass platform fast_atan2f r).elim [] fun passed =>
        s.processedIn r passed.1 ++
          if passed.2 = .next then MainState.processed platform fast_atan2f passed.1 rs else []

theorem processed_nil (platform : Platform) (fast_atan2f : K → K → K) (s : MainState K) :
    s.processed platform fast_atan2f [] = [] := rfl

/-- The blocks of one pass, and then those of the passes behind it. -/
theorem processed_cons (platform : Platform) (fast_atan2f : K → K → K) (s : MainState K)
    (r : Round) (rs : List Round) :
    s.processed platform fast_atan2f (r :: rs) =
      (s.pass platform fast_atan2f r).elim [] fun passed =>
        s.processedIn r passed.1 ++
          if passed.2 = .next then passed.1.processed platform fast_atan2f rs else [] := rfl

/-! ## Nothing fills `bufferFiltered` -/

omit [LinearOrder K] [FloorRing K] in
/-- No loop of the block writes to `bufferFiltered`. -/
theorem filterPortable_bufferFiltered {bufferShifted : CArray K bufferCount} {b t : Block K}
    (h : filterPortable bufferShifted b = some t) : t.bufferFiltered = b.bufferFiltered := by
  obtain ⟨_, _, rest⟩ := Option.bind_eq_some_iff.mp h
  cases rest
  rfl

omit [LinearOrder K] [FloorRing K] in
theorem filterApple_bufferFiltered {bufferShifted : CArray K bufferCount} {b t : Block K}
    (h : filterApple bufferShifted b = some t) : t.bufferFiltered = b.bufferFiltered := by
  refine forUp_preserves (fun u : Block K => u.bufferFiltered = b.bufferFiltered) ?_ h rfl
  intro n u v body same
  obtain ⟨_, _, body⟩ := Option.bind_eq_some_iff.mp body
  obtain ⟨_, _, body⟩ := Option.bind_eq_some_iff.mp body
  obtain ⟨_, _, body⟩ := Option.bind_eq_some_iff.mp body
  obtain ⟨_, _, body⟩ := Option.bind_eq_some_iff.mp body
  cases body
  exact same

omit [LinearOrder K] [FloorRing K] in
theorem demodulatePortable_bufferFiltered {fast_atan2f : K → K → K} {b t : Block K}
    (h : demodulatePortable fast_atan2f b = some t) : t.bufferFiltered = b.bufferFiltered := by
  obtain ⟨_, _, rest⟩ := Option.bind_eq_some_iff.mp h
  cases rest
  rfl

omit [LinearOrder K] [FloorRing K] in
theorem demodulateApple_bufferFiltered {fast_atan2f : K → K → K} {b t : Block K}
    (h : demodulateApple fast_atan2f b = some t) : t.bufferFiltered = b.bufferFiltered := by
  obtain ⟨_, _, rest⟩ := Option.bind_eq_some_iff.mp h
  cases rest
  rfl

omit [LinearOrder K] [FloorRing K] in
theorem filterTwo_bufferFiltered {platform : Platform} {b t : Block K}
    (h : filterTwo platform b = some t) : t.bufferFiltered = b.bufferFiltered := by
  obtain ⟨_, _, rest⟩ := Option.bind_eq_some_iff.mp h
  cases rest
  rfl

theorem downsample_bufferFiltered {b t : Block K} (h : downsample b = some t) :
    t.bufferFiltered = b.bufferFiltered := by
  obtain ⟨_, _, rest⟩ := Option.bind_eq_some_iff.mp h
  cases rest
  rfl

section Blocks

variable {platform : Platform} {fast_atan2f : K → K → K} {bufferShifted : CArray K bufferCount}
  {block : Block K}

/-- **The array is as the `memset` left it.** -/
theorem bufferFiltered_eq_zero
    (h : processBlock platform fast_atan2f bufferShifted = some block) :
    block.bufferFiltered = fun _ => 0 := by
  obtain ⟨demodulated, first, rest⟩ := Option.bind_eq_some_iff.mp h
  obtain ⟨filteredTwice, second, third⟩ := Option.bind_eq_some_iff.mp rest
  have same : demodulated.bufferFiltered = (Block.cleared : Block K).bufferFiltered := by
    cases platform with
    | portable =>
        change (filterPortable bufferShifted Block.cleared).bind
          (demodulatePortable fast_atan2f) = some demodulated at first
        obtain ⟨_, filter, demodulator⟩ := Option.bind_eq_some_iff.mp first
        exact (demodulatePortable_bufferFiltered demodulator).trans
          (filterPortable_bufferFiltered filter)
    | apple =>
        change (filterApple bufferShifted Block.cleared).bind
          (demodulateApple fast_atan2f) = some demodulated at first
        obtain ⟨_, filter, demodulator⟩ := Option.bind_eq_some_iff.mp first
        exact (demodulateApple_bufferFiltered demodulator).trans
          (filterApple_bufferFiltered filter)
  calc block.bufferFiltered
      = filteredTwice.bufferFiltered := downsample_bufferFiltered third
    _ = demodulated.bufferFiltered := filterTwo_bufferFiltered second
    _ = (Block.cleared : Block K).bufferFiltered := same
    _ = fun _ => 0 := rfl

theorem sampled_inside {i : ℕ} (hi : i < 1000) :
    2 * sampled i + 1 <
      sampleCnt * 2 + 2 * filterLengthTwo * stageOneDecimation + 2 * stageOneDecimation := by
  unfold sampled filterLengthTwo sampleCnt stageOneDecimation
  omega

/-- So the filtered signal is handed over exactly when it vanishes there. -/
theorem handsOverFiltered_iff
    (h : processBlock platform fast_atan2f bufferShifted = some block) :
    HandsOverFiltered bufferShifted block ↔
      ∀ i, i < 1000 → filteredAt bufferShifted (sampled i) = 0 := by
  have zero := bufferFiltered_eq_zero h
  refine forall_congr' fun i => forall_congr' fun hi => ?_
  have inside := sampled_inside hi
  rw [zero, CArray.get?_of_lt _ inside, CArray.get?_of_lt _ (Nat.lt_of_succ_lt inside)]
  constructor
  · rintro ⟨re, im⟩
    exact Prod.ext (Option.some.inj re).symm (Option.some.inj im).symm
  · intro vanishes
    rw [vanishes]
    exact ⟨rfl, rfl⟩

omit [Field K] [LinearOrder K] [FloorRing K] in
theorem carry_blocks {s t : MainState K} (h : s.carry = some t) : t.blocks = s.blocks := by
  obtain ⟨_, _, rest⟩ := Option.bind_eq_some_iff.mp h
  obtain ⟨_, _, last⟩ := Option.bind_eq_some_iff.mp rest
  cases last
  rfl

theorem processBlock_of_pass {s t : MainState K} {r : Round} {ending : Ending}
    (mix : s.mix r = some bufferShifted)
    (pass : s.pass platform fast_atan2f r = some (t, ending))
    (member : block ∈ (t.blocks.drop s.blocks.length).reduceOption) :
    processBlock platform fast_atan2f bufferShifted = some block := by
  obtain ⟨buffer, received, mixing⟩ := Option.bind_eq_some_iff.mp mix
  obtain ⟨mixed, loop, result⟩ := Option.bind_eq_some_iff.mp mixing
  obtain rfl : mixed.1 = bufferShifted := Option.some.inj result
  unfold MainState.pass at pass
  rw [received, Option.bind_some, loop, Option.bind_some] at pass
  have added : ∃ entry, t.blocks = s.blocks ++ entry ∧ ∀ b ∈ entry.reduceOption,
      processBlock platform fast_atan2f mixed.1 = some b := by
    split at pass
    · cases pass
      exact ⟨[], (List.append_nil _).symm, fun b none => absurd none List.not_mem_nil⟩
    · split at pass
      · obtain ⟨u, carried, rest⟩ := Option.bind_eq_some_iff.mp pass
        cases rest
        refine ⟨[none], ?_, fun b none => ?_⟩
        · show u.blocks ++ [none] = _
          rw [carry_blocks carried]
        · rw [List.reduceOption_mem_iff, List.mem_singleton] at none
          cases none
      · obtain ⟨processed, here, rest⟩ := Option.bind_eq_some_iff.mp pass
        refine ⟨[some processed], ?_, fun b only => ?_⟩
        · split at rest
          · cases rest
            rfl
          · obtain ⟨u, carried, last⟩ := Option.bind_eq_some_iff.mp rest
            cases last
            exact carry_blocks carried
        · rw [List.reduceOption_mem_iff, List.mem_singleton] at only
          obtain rfl : b = processed := Option.some.inj only
          exact here
  obtain ⟨entry, blocks, good⟩ := added
  rw [blocks, List.drop_left] at member
  exact good block member

/-- The pass over a round processes the block of what it has received and mixed. -/
theorem processBlock_of_mem_processedIn {s : MainState K} {r : Round}
    {passed : MainState K × Ending} (pass : s.pass platform fast_atan2f r = some passed)
    {p : CArray K bufferCount × Block K} (member : p ∈ s.processedIn r passed.1) :
    processBlock platform fast_atan2f p.1 = some p.2 := by
  unfold MainState.processedIn at member
  cases mix : s.mix r with
  | none =>
      rw [mix, Option.elim_none] at member
      exact absurd member List.not_mem_nil
  | some bufferShifted =>
      rw [mix, Option.elim_some] at member
      obtain ⟨block, inPass, rfl⟩ := List.mem_map.mp member
      exact processBlock_of_pass mix pass inPass

end Blocks

/-- Every block of a run is processed from the `bufferShifted` it is listed with. -/
theorem processBlock_of_mem_processed {platform : Platform} {fast_atan2f : K → K → K}
    {s : MainState K} {rounds : List Round} {p : CArray K bufferCount × Block K}
    (member : p ∈ s.processed platform fast_atan2f rounds) :
    processBlock platform fast_atan2f p.1 = some p.2 := by
  induction rounds generalizing s with
  | nil =>
      rw [processed_nil] at member
      exact absurd member List.not_mem_nil
  | cons r rs ih =>
      rw [processed_cons] at member
      cases pass : s.pass platform fast_atan2f r with
      | none =>
          rw [pass, Option.elim_none] at member
          exact absurd member List.not_mem_nil
      | some passed =>
          rw [pass, Option.elim_some] at member
          rcases List.mem_append.mp member with here | later
          · exact processBlock_of_mem_processedIn pass here
          · by_cases next : passed.2 = .next
            · rw [if_pos next] at later
              exact ih later
            · rw [if_neg next] at later
              exact absurd later List.not_mem_nil

/-- **What `writeToBuffer` is given.**  In every run, whatever is received, the argument
of every call is zero; it is the filtered signal exactly when that vanishes at the 1000
places that are read.  The two parts are about every block that the run processes. -/
theorem handedOver_filtered_iff (platform : Platform) (fast_atan2f : K → K → K)
    (s : MainState K) (rounds : List Round) :
    ∀ p ∈ s.processed platform fast_atan2f rounds,
      p.2.handedOver = (fun _ => 0) ∧
        (HandsOverFiltered p.1 p.2 ↔
          ∀ i, i < 1000 → filteredAt p.1 (sampled i) = 0) := by
  intro p member
  have processed := processBlock_of_mem_processed member
  refine ⟨?_, handsOverFiltered_iff processed⟩
  funext i
  unfold Block.handedOver
  rw [bufferFiltered_eq_zero processed]

/-- **Every transform is given silence**, so no two streams can be told apart by
their spectrograms. -/
theorem transforms_silent (library : Spectrogram.Library K) (platform : Platform)
    (fast_atan2f : K → K → K) {calls : ℕ → CArray K Spectrogram.argumentLength}
    (fromMain : ∀ c, ∃ bufferShifted block,
      processBlock platform fast_atan2f bufferShifted = some block ∧
        calls c = block.handedOver)
    (i_buffer q_buffer : CArray K 3048) (fft_in : CArray (K × K) 2048)
    (magnitude_buffer : CArray ℤ 2048) (n : ℕ) :
    Succeeds ((Spectrogram.start i_buffer q_buffer fft_in magnitude_buffer).writeAll library
      calls n) fun b => ∀ block ∈ b.blocks, block = fun _ => (0, 0) := by
  have silent : ∀ p, Spectrogram.stream calls p = (0, 0) := by
    intro p
    obtain ⟨bufferShifted, block, processed, argument⟩ := fromMain (p / 1000)
    unfold Spectrogram.stream
    have inside := sampled_inside (Nat.mod_lt p (by decide : 1000 > 0))
    rw [argument, taken_handedOver block (Nat.mod_lt p (by decide)),
      bufferFiltered_eq_zero processed, CArray.get?_of_lt _ inside,
      CArray.get?_of_lt _ (Nat.lt_of_succ_lt inside)]
    rfl
  refine (Spectrogram.succeeds_writeAll library i_buffer q_buffer fft_in magnitude_buffer ?_
    calls n).mono fun b tracked block member => ?_
  · decide
  obtain ⟨k, at_k⟩ := List.mem_iff_getElem?.mp member
  have windowed := tracked.windowed.mpr fun k _ j _ _ => by rw [silent, silent]
  funext j
  rw [Spectrogram.windowed_iff.mp windowed k block at_k j, silent]

/-! ## One sample -/

/-- A stream of one sample. -/
def impulse (g : ℕ) : ℤ × ℤ := if g = 17 then (64, 0) else (0, 0)

/-- The round that delivers it. -/
def impulseRound : Round where
  samples := fun i => impulse i
  samplesRead := sampleCnt
  warmingUp := false
  written := 0

/-- The middle of the first filter. -/
def middle : Fin filterLengthOne := ⟨16, by decide⟩

theorem mixed_impulse (g : ℕ) :
    (mixed impulse g : ℚ × ℚ).1 = if g = 17 then cosine ℚ 17 / 2 else 0 := by
  unfold mixed impulse scaled
  by_cases here : g = 17
  · rw [if_pos here, if_pos here, here]
    push_cast
    ring
  · rw [if_neg here, if_neg here]
    push_cast
    ring

/-- The middle coefficient of the first filter meets the sample. -/
theorem filteredAt_impulse {before after : CArray ℚ bufferCount}
    (mix : Mixed impulse 0 sampleCnt before after) :
    (filteredAt after (sampled 264)).1 ≠ 0 := by
  have term : ∀ p : Fin filterLengthOne,
      (after.get? (2 * (sampled 264 + p))).getD 0 =
        if p = middle then cosine ℚ 17 / 2 else 0 := by
    intro p
    have position : sampled 264 + p = historyCnt + (p + 1) := by
      show 1354 + (p : ℕ) = 1353 + (p + 1)
      omega
    have inside : historyCnt + ((p : ℕ) + 1) < historyCnt + sampleCnt := by
      have bound := p.isLt
      unfold filterLengthOne at bound
      unfold sampleCnt
      omega
    have same : ((p : ℕ) + 1 = 17) ↔ p = middle := by
      rw [Fin.ext_iff]
      show (p : ℕ) + 1 = 17 ↔ (p : ℕ) = 16
      omega
    rw [position, (mix.block _ (Nat.le_add_right _ _) inside).1, Option.getD_some,
      window_history_add, Nat.mul_zero, Nat.zero_add, mixed_impulse, if_congr same rfl rfl]
  have sum : (filteredAt after (sampled 264)).1 = filter_coeff_one middle * (cosine ℚ 17 / 2) := by
    unfold filteredAt
    rw [Prod.fst_sum, Finset.sum_eq_single middle]
    · rw [term, if_pos rfl]
    · intro p _ other
      rw [term, if_neg other, mul_zero]
    · intro absent
      exact absurd (Finset.mem_univ _) absent
  have coefficient : (filter_coeff_one middle : ℚ) ≠ 0 := by decide +kernel
  have oscillator : cosine ℚ 17 ≠ 0 := by
    unfold cosine
    rw [tableIndex_eq]
    decide +kernel
  rw [sum]
  exact mul_ne_zero coefficient (div_ne_zero oscillator two_ne_zero)

/-- The round makes one block. -/
theorem exists_processed_impulse :
    ∃ p ∈ (start (fun _ => 0) fun _ => (0 : ℚ)).processed .portable (fun _ _ => 0)
      [impulseRound], Mixed impulse 0 sampleCnt (fun _ => 0) p.1 := by
  have carried := carried_start (K := ℚ) impulse (fun _ => 0) fun _ => 0
  have samples : impulseRound.samples.Holds sampleCnt (shift (sampleCnt * 0) impulse) := by
    intro i hi
    rw [CArray.get?_of_lt _ hi, Nat.mul_zero]
    unfold shift
    rw [Nat.zero_add]
    rfl
  obtain ⟨buffer, received, mixed, loop, _, mix⟩ := succeeds_mix carried samples
  obtain ⟨⟨t, ending⟩, pass, entry, passed, blocks, _⟩ :=
    succeeds_pass .portable (fun _ _ => 0) carried rfl samples
  have pair : (start (fun _ => 0) fun _ => (0 : ℚ)).mix impulseRound = some mixed.1 := by
    have count : impulseRound.samplesRead.toNat = sampleCnt := Int.toNat_natCast sampleCnt
    unfold MainState.mix
    rw [received, Option.bind_some, count, loop, Option.bind_some]
  cases entry with
  | none => cases passed.processed
  | some block =>
      refine ⟨(mixed.1, block), ?_, mix⟩
      rw [processed_cons, pass, Option.elim_some]
      refine List.mem_append_left _ ?_
      unfold MainState.processedIn
      rw [pair, Option.elim_some, blocks, List.drop_left]
      refine List.mem_map.mpr ⟨block, ?_, rfl⟩
      rw [List.reduceOption_mem_iff]
      exact List.mem_singleton_self _

/-- The block with the impulse in it is one that is handed over. -/
theorem handedOver_filtered_iff_impulse :
    ∃ p ∈ (start (fun _ => 0) fun _ => (0 : ℚ)).processed .portable (fun _ _ => 0)
      [impulseRound], p.2.handedOver = (fun _ => 0) ∧
        (HandsOverFiltered p.1 p.2 ↔ ∀ i, i < 1000 → filteredAt p.1 (sampled i) = 0) := by
  obtain ⟨p, member, _⟩ := exists_processed_impulse
  exact ⟨p, member, handedOver_filtered_iff .portable (fun _ _ => 0) _ [impulseRound] p member⟩

/-- With one sample that is not zero, the block it arrives in is handed over
wrong. -/
theorem not_handedOver_filtered :
    ∃ p ∈ (start (fun _ => 0) fun _ => (0 : ℚ)).processed .portable (fun _ _ => 0)
      [impulseRound], ¬ HandsOverFiltered p.1 p.2 := by
  obtain ⟨p, member, mix⟩ := exists_processed_impulse
  refine ⟨p, member, fun filtered => ?_⟩
  have vanishes := (handsOverFiltered_iff (processBlock_of_mem_processed member)).mp filtered
  exact filteredAt_impulse mix (congrArg Prod.fst (vanishes 264 (by decide)))

end SpectrogramServers.MyServer.Receiver
