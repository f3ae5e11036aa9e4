import SpectrogramServers.Lib.Lists
import SpectrogramServers.MyServer.ReceiverStream

/-!
# The receiving loop and its `AudioSink`

`main` gives the audio of every block to an `AudioSink` and leaves its loop when
`writeSamples` answers with a negative number.  `MainState.passInto` is a pass with the
sink in it; `MainState.pass`, where that answer is taken as given, is the instance for a
sink that only gives an answer (`pass_eq_passInto`).

## What the loop is for

`play` says it.  It has the whole stream, computes the single-pass reference, and hands
the sink one block of it after the other, with no buffers, no history and no oscillator.
`loopInto_eq_play` says that the loop does just that to every sink, up to a read that is
too short or a negative answer.  The loop refines `play`; what carries the induction is
`Carried`, that the buffers hold the samples that the next windows reach back to.

The first block has no history and is different from the reference.  As long as it is only
used to warm up, which takes three seconds, nobody hears it (`WarmsUp`).

## Sinks

A sink is a state with one operation.  What happens outside during a call, the answers of
a device or the room on a disk, is of a type of its own; a call that does not return is
`none`.  `Recording` and `Playback` put the two sinks of the source in its place, and what
is heard (`aired`, `airedSamples`) is the same for both.
-/

namespace SpectrogramServers.MyServer.Receiver

universe u v

/-- The virtual function of the class.  `ι` is what happens outside during a call; a
call that does not return is `none`. -/
structure AudioSink (σ ι : Type v) where
  writeSamples : (ℕ → Int16) → ι → σ → Option (σ × ℤ)

/-- What one pass meets outside: what is read, whether the first three seconds are over,
and `outside`, which is the part that the sink meets. -/
structure Turn (ι : Type v) where
  samples : CArray (ℤ × ℤ) sampleCnt
  samplesRead : ℤ
  warmingUp : Bool
  outside : ι

/-- The same with the answer of the sink. -/
def Turn.round {ι : Type v} (turn : Turn ι) (written : ℤ) : Round where
  samples := turn.samples
  samplesRead := turn.samplesRead
  warmingUp := turn.warmingUp
  written := written

/-- What is behind a pointer to the first of `downSampleCnt` samples. -/
def pointer (samples : ℕ → ℤ) : ℕ → Int16 := fun i =>
  if i < downSampleCnt then Int16.ofInt (samples i) else 0

section

variable {K : Type u} [Field K] [LinearOrder K] [FloorRing K] {σ ι : Type v}

/-- `(int16_t *) downsampled_audio`. -/
def Block.audio (block : Block K) : ℕ → Int16 :=
  pointer fun i => (block.downsampled_audio.get? i).getD 0

/-- One pass of the loop. -/
def MainState.passInto (platform : Platform) (fast_atan2f : K → K → K) (sink : AudioSink σ ι)
    (s : MainState K) (audioWriter : σ) (turn : Turn ι) : Option (MainState K × σ × Ending) :=
  (receiveSamples (turn.round 0) s.buffer).bind fun buffer =>
  (forUp (mixSample buffer) 0 turn.samplesRead.toNat (s.bufferShifted, s.sineSignal)).bind
    fun mixed =>
  let s := { s with buffer := buffer, bufferShifted := mixed.1, sineSignal := mixed.2 }
  if turn.samplesRead ≠ sampleCnt then some (s, audioWriter, .broken)
  else if turn.warmingUp then
    s.carry.bind fun s => some ({ s with blocks := s.blocks ++ [none] }, audioWriter, .next)
  else
    (processBlock platform fast_atan2f s.bufferShifted).bind fun block =>
    (sink.writeSamples block.audio turn.outside audioWriter).bind fun answer =>
    let s := { s with blocks := s.blocks ++ [some block] }
    if answer.2 < 0 then some (s, answer.1, .broken)
    else s.carry.bind fun s => some (s, answer.1, .next)

/-- The loop, one `Turn` for every time its condition holds. -/
def MainState.loopInto (platform : Platform) (fast_atan2f : K → K → K) (sink : AudioSink σ ι) :
    MainState K → σ → List (Turn ι) → Option (MainState K × σ)
  | s, audioWriter, [] => some (s, audioWriter)
  | s, audioWriter, turn :: turns =>
      (s.passInto platform fast_atan2f sink audioWriter turn).bind
        fun (t, audioWriter, ending) =>
          match ending with
          | .next => MainState.loopInto platform fast_atan2f sink t audioWriter turns
          | .broken => some (t, audioWriter)

/-- A sink that has its answers from outside. -/
def answering : AudioSink Unit ℤ where
  writeSamples _ written _ := some ((), written)

/-- The turn of a round whose answer is given. -/
def Round.turn (r : Round) : Turn ℤ where
  samples := r.samples
  samplesRead := r.samplesRead
  warmingUp := r.warmingUp
  outside := r.written

/-- **The pass with a given answer is an instance.** -/
theorem pass_eq_passInto (platform : Platform) (fast_atan2f : K → K → K) (s : MainState K)
    (r : Round) :
    s.pass platform fast_atan2f r =
      (s.passInto platform fast_atan2f answering () r.turn).map fun t => (t.1, t.2.2) := by
  have received : receiveSamples (r.turn.round 0) s.buffer = receiveSamples r s.buffer := rfl
  unfold MainState.pass MainState.passInto
  rw [received, Option.map_bind]
  refine congrArg _ (funext fun buffer => ?_)
  rw [Function.comp_apply, Option.map_bind]
  refine congrArg _ (funext fun mixed => ?_)
  rw [Function.comp_apply]
  by_cases short : r.samplesRead ≠ sampleCnt
  · have short' : r.turn.samplesRead ≠ sampleCnt := short
    rw [if_pos short, if_pos short']
    rfl
  · have full : ¬ r.turn.samplesRead ≠ sampleCnt := short
    rw [if_neg short, if_neg full]
    cases warming : r.warmingUp with
    | true =>
        have warming' : r.turn.warmingUp = true := warming
        rw [if_pos rfl, if_pos warming', Option.map_bind]
        rfl
    | false =>
        have processing : ¬ r.turn.warmingUp = true := by
          rw [Bool.not_eq_true]
          exact warming
        rw [if_neg Bool.false_ne_true, if_neg processing, Option.map_bind]
        refine congrArg _ (funext fun block => ?_)
        rw [Function.comp_apply, answering, Option.bind_some]
        by_cases failed : r.written < 0
        · have failed' : r.turn.outside < 0 := failed
          rw [if_pos failed, if_pos failed']
          rfl
        · have goes : ¬ r.turn.outside < 0 := failed
          rw [if_neg failed, if_neg goes, Option.map_bind]
          rfl

end

/-! ## The single pass -/

section Play

variable {K : Type u} [Field K] [LinearOrder K] [FloorRing K] {σ ι : Type v}

/-- Block `b` of the reference. -/
def referenceBlock (fast_atan2f : K → K → K) (x : ℕ → ℤ × ℤ) (b : ℕ) : ℕ → Int16 :=
  pointer fun i => reference fast_atan2f x (downSampleCnt * b + i)

/-- The reference handed to a sink in blocks, from block `b` on. -/
def play (fast_atan2f : K → K → K) (x : ℕ → ℤ × ℤ) (sink : AudioSink σ ι) :
    ℕ → σ → List (Turn ι) → Option σ
  | _, audioWriter, [] => some audioWriter
  | b, audioWriter, turn :: turns =>
      if turn.samplesRead ≠ sampleCnt then some audioWriter
      else if turn.warmingUp then play fast_atan2f x sink (b + 1) audioWriter turns
      else
        (sink.writeSamples (referenceBlock fast_atan2f x b) turn.outside audioWriter).bind
          fun answer =>
            if answer.2 < 0 then some answer.1
            else play fast_atan2f x sink (b + 1) answer.1 turns

/-- The turns deliver the stream from block `b` on, in full blocks up to a read that is
too short. -/
def Feeds (x : ℕ → ℤ × ℤ) : ℕ → List (Turn ι) → Prop
  | _, [] => True
  | b, turn :: turns =>
      turn.samplesRead < sampleCnt ∨
        turn.samplesRead = sampleCnt ∧ turn.samples.Holds sampleCnt (shift (sampleCnt * b) x) ∧
          Feeds x (b + 1) turns

/-- The first turn is within the first three seconds. -/
def WarmsUp (turns : List (Turn ι)) : Prop := ∀ turn ∈ turns.head?, turn.warmingUp = true

instance (turns : List (Turn ι)) : Decidable (WarmsUp turns) :=
  match turns with
  | [] => isTrue fun _ h => by cases h
  | turn :: _ => decidable_of_iff (turn.warmingUp = true) (by simp [WarmsUp])

end Play

/-! ## The loop refines the single pass -/

section Refinement

variable {K : Type u} [Field K] [LinearOrder K] [FloorRing K] [IsStrictOrderedRing K]
variable {σ ι : Type v}

/-- Mixing stays inside the buffer and the table for every count that fits. -/
theorem succeeds_mix_some {b n : ℕ} {s : MainState K} (r : Round)
    (phase : InPhase s.sineSignal (sampleCnt * b)) (few : n ≤ sampleCnt) :
    Succeeds (receiveSamples r s.buffer) fun buffer =>
      Succeeds (forUp (mixSample buffer) 0 n (s.bufferShifted, s.sineSignal)) fun _ => True := by
  -- what was received is the block of some stream
  let y : ℕ → ℤ × ℤ := fun i => (r.samples.get? i).getD (0, 0)
  have holds : r.samples.Holds sampleCnt y := by
    intro i hi
    rw [show y i = (r.samples.get? i).getD (0, 0) from rfl, r.samples.get?_of_lt hi]
    rfl
  have behind : ∀ i, delay (sampleCnt * b) y (sampleCnt * b + i) = y i := fun i =>
    congrArg y (Nat.add_sub_cancel_left _ i)
  refine (succeeds_receiveSamples holds s.buffer).mono fun buffer received => ?_
  refine (succeeds_forUp_zero (fun k (t : CArray K bufferCount × K) =>
    InPhase t.2 (sampleCnt * b + k) ∧ Mixed (delay (sampleCnt * b) y) b k s.bufferShifted t.1)
    ?_ ?_).mono fun _ _ => trivial
  · refine ⟨phase, fun j _ => rfl, fun k hlo hhi => ?_⟩
    exact absurd hhi (Nat.not_lt.mpr hlo)
  · rintro k t hk ⟨phase, mix⟩
    refine succeeds_mixSample (hk.trans_le few) ?_ phase mix
    rw [behind]
    exact received k (hk.trans_le few)

/-- A read that is too short ends the loop, and the sink is not called. -/
theorem passInto_short (platform : Platform) (fast_atan2f : K → K → K) (sink : AudioSink σ ι)
    {x : ℕ → ℤ × ℤ} {b : ℕ} {s : MainState K} (carried : Carried x b s) (audioWriter : σ)
    {turn : Turn ι} (short : turn.samplesRead < sampleCnt) :
    ∃ t, s.passInto platform fast_atan2f sink audioWriter turn =
      some (t, audioWriter, .broken) := by
  have few : turn.samplesRead.toNat ≤ sampleCnt := by omega
  obtain ⟨buffer, received, mixed, mixing, -⟩ :=
    succeeds_mix_some (turn.round 0) carried.phase few
  unfold MainState.passInto
  rw [received, Option.bind_some, mixing, Option.bind_some, if_pos short.ne]
  exact ⟨_, rfl⟩

/-- A full block within the first three seconds is only carried on. -/
theorem passInto_warmingUp (platform : Platform) (fast_atan2f : K → K → K)
    (sink : AudioSink σ ι) {x : ℕ → ℤ × ℤ} {b : ℕ} {s : MainState K} (carried : Carried x b s)
    (audioWriter : σ) {turn : Turn ι} (full : turn.samplesRead = sampleCnt)
    (samples : turn.samples.Holds sampleCnt (shift (sampleCnt * b) x))
    (warming : turn.warmingUp = true) :
    ∃ t, s.passInto platform fast_atan2f sink audioWriter turn =
        some (t, audioWriter, .next) ∧ Carried x (b + 1) t := by
  have count : turn.samplesRead.toNat = sampleCnt := by rw [full, Int.toNat_natCast]
  obtain ⟨buffer, received, mixed, mixing, phase, mix⟩ :=
    succeeds_mix (r := turn.round 0) carried samples
  unfold MainState.passInto
  rw [received, Option.bind_some, count, mixing, Option.bind_some, if_neg (not_not.mpr full),
    if_pos warming]
  obtain ⟨t, moved, next, -⟩ := succeeds_carry phase mix (s :=
    { s with buffer := buffer, bufferShifted := mixed.1, sineSignal := mixed.2 })
  rw [moved, Option.bind_some]
  exact ⟨_, rfl, next.phase, next.history⟩

/-- **Every later block hands the sink its block of the reference**, and the answer
decides whether the loop goes on. -/
theorem passInto_processing (platform : Platform) (fast_atan2f : K → K → K)
    (sink : AudioSink σ ι) {x : ℕ → ℤ × ℤ} {b : ℕ} {s : MainState K} (carried : Carried x b s)
    (later : 1 ≤ b) (audioWriter : σ) {turn : Turn ι} (full : turn.samplesRead = sampleCnt)
    (samples : turn.samples.Holds sampleCnt (shift (sampleCnt * b) x))
    (processing : turn.warmingUp = false) :
    ∃ t u, Carried x (b + 1) u ∧ s.passInto platform fast_atan2f sink audioWriter turn =
      (sink.writeSamples (referenceBlock fast_atan2f x b) turn.outside audioWriter).bind
        fun answer =>
          if answer.2 < 0 then some (t, answer.1, .broken)
          else some (u, answer.1, .next) := by
  have count : turn.samplesRead.toNat = sampleCnt := by rw [full, Int.toNat_natCast]
  obtain ⟨buffer, received, mixed, mixing, phase, mix⟩ :=
    succeeds_mix (r := turn.round 0) carried samples
  obtain ⟨block, processed, audio⟩ :=
    succeeds_processBlock_window platform fast_atan2f mix carried.history
  have heard : block.audio = referenceBlock fast_atan2f x b := by
    funext i
    unfold Block.audio referenceBlock pointer
    by_cases inside : i < downSampleCnt
    · rw [if_pos inside, if_pos inside]
      dsimp only
      rw [audio later i inside]
      rfl
    · rw [if_neg inside, if_neg inside]
  obtain ⟨u, moved, next, -⟩ := succeeds_carry phase mix (s :=
    { s with
      buffer := buffer
      bufferShifted := mixed.1
      sineSignal := mixed.2
      blocks := s.blocks ++ [some block] })
  refine ⟨{ s with
      buffer := buffer
      bufferShifted := mixed.1
      sineSignal := mixed.2
      blocks := s.blocks ++ [some block] }, u, next, ?_⟩
  have going : ¬ turn.warmingUp = true := by
    rw [Bool.not_eq_true]
    exact processing
  unfold MainState.passInto
  rw [received, Option.bind_some, count, mixing, Option.bind_some, if_neg (not_not.mpr full),
    if_neg going]
  dsimp only
  rw [processed, Option.bind_some, heard]
  refine congrArg _ (funext fun answer => ?_)
  rw [moved, Option.bind_some]

/-- **The loop refines the single pass**, for every sink, from block `b` on. -/
theorem loopInto_eq_play (platform : Platform) (fast_atan2f : K → K → K) (sink : AudioSink σ ι)
    {x : ℕ → ℤ × ℤ} {b : ℕ} {s : MainState K} {turns : List (Turn ι)} (carried : Carried x b s)
    (feeds : Feeds x b turns) (warms : b = 0 → WarmsUp turns) (audioWriter : σ) :
    (s.loopInto platform fast_atan2f sink audioWriter turns).map Prod.snd =
      play fast_atan2f x sink b audioWriter turns := by
  induction turns generalizing b s audioWriter with
  | nil => rfl
  | cons turn turns ih =>
      unfold MainState.loopInto play
      rcases feeds with short | ⟨full, samples, rest⟩
      · obtain ⟨t, pass⟩ := passInto_short platform fast_atan2f sink carried audioWriter short
        rw [pass, if_pos short.ne]
        rfl
      · rw [if_neg (not_not.mpr full)]
        cases warming : turn.warmingUp with
        | true =>
            obtain ⟨t, pass, next⟩ := passInto_warmingUp platform fast_atan2f sink carried
              audioWriter full samples warming
            rw [pass, if_pos rfl]
            exact ih next rest (fun zero => absurd zero (Nat.succ_ne_zero b)) audioWriter
        | false =>
            have later : 1 ≤ b := by
              by_contra first
              have warm := warms (by omega) turn rfl
              rw [warming] at warm
              cases warm
            obtain ⟨t, u, next, pass⟩ := passInto_processing platform fast_atan2f sink carried
              later audioWriter full samples warming
            rw [pass, if_neg Bool.false_ne_true, Option.bind_assoc, Option.map_bind]
            refine congrArg _ (funext fun answer => ?_)
            rw [Function.comp_apply]
            by_cases failed : answer.2 < 0
            · rw [if_pos failed, if_pos failed]
              rfl
            · rw [if_neg failed, if_neg failed]
              exact ih next rest (fun zero => absurd zero (Nat.succ_ne_zero b)) answer.1

end Refinement

/-! ## What is on the air -/

section Aired

variable {K : Type u} [Field K] [LinearOrder K] [FloorRing K] {ι : Type v}

/-- The turns that are heard, from block `b` on, with their blocks: those behind the first
three seconds, up to a read that is too short. -/
def aired : ℕ → List (Turn ι) → List (ℕ × Turn ι)
  | _, [] => []
  | b, turn :: turns =>
      if turn.samplesRead ≠ sampleCnt then []
      else if turn.warmingUp then aired (b + 1) turns
      else (b, turn) :: aired (b + 1) turns

/-- Nothing is heard that is not a turn. -/
theorem aired_sublist (b : ℕ) (turns : List (Turn ι)) :
    ((aired b turns).map Prod.snd).Sublist turns := by
  induction turns generalizing b with
  | nil => exact List.Sublist.slnil
  | cons turn turns ih =>
      unfold aired
      split
      · exact List.nil_sublist _
      · split
        · exact (ih (b + 1)).cons turn
        · exact (ih (b + 1)).cons_cons turn

theorem le_of_mem_aired {b : ℕ} {turns : List (Turn ι)} :
    ∀ heard ∈ aired b turns, b ≤ heard.1 := by
  induction turns generalizing b with
  | nil => exact fun _ h => absurd h List.not_mem_nil
  | cons turn turns ih =>
      intro heard mem
      unfold aired at mem
      split at mem
      · exact absurd mem List.not_mem_nil
      · split at mem
        · exact (Nat.le_succ b).trans (ih heard mem)
        · rcases List.mem_cons.mp mem with rfl | mem
          · exact le_rfl
          · exact (Nat.le_succ b).trans (ih heard mem)

/-- The first block is not heard. -/
theorem one_le_of_mem_aired {turns : List (Turn ι)} (warms : WarmsUp turns) :
    ∀ heard ∈ aired 0 turns, 1 ≤ heard.1 := by
  cases turns with
  | nil => exact fun _ h => absurd h List.not_mem_nil
  | cons turn turns =>
      intro heard mem
      unfold aired at mem
      split at mem
      · exact absurd mem List.not_mem_nil
      · rw [if_pos (warms turn rfl)] at mem
        exact le_of_mem_aired heard mem

/-- The samples of one block. -/
def blockSamples (fast_atan2f : K → K → K) (x : ℕ → ℤ × ℤ) (b : ℕ) : List ℤ :=
  firsts (fun i => reference fast_atan2f x (downSampleCnt * b + i)) downSampleCnt

/-- The samples that are heard, from block `b` on. -/
def airedSamples (fast_atan2f : K → K → K) (x : ℕ → ℤ × ℤ) (b : ℕ) (turns : List (Turn ι)) :
    List ℤ :=
  (aired b turns).flatMap fun heard => blockSamples fast_atan2f x heard.1

/-- A quantised sample fits 16 bits. -/
theorem quantise_range (y : K) : -2 ^ 15 ≤ quantise y ∧ quantise y < 2 ^ 15 := by
  have low := Int.le_bmod (x := truncate (y * ((maxPCM / 2 : ℤ) : K))) (m := 2 ^ 16) (by decide)
  have high := Int.bmod_lt (x := truncate (y * ((maxPCM / 2 : ℤ) : K))) (m := 2 ^ 16) (by decide)
  unfold quantise toInt16
  dsimp only
  split
  · exact ⟨by decide, by decide⟩
  · omega

/-- What a sink reads of a block is the block. -/
theorem map_toInt_referenceBlock (fast_atan2f : K → K → K) (x : ℕ → ℤ × ℤ) (b : ℕ) :
    (firsts (referenceBlock fast_atan2f x b) downSampleCnt).map Int16.toInt =
      blockSamples fast_atan2f x b := by
  unfold blockSamples firsts
  rw [List.map_map]
  refine List.map_congr_left fun i hi => ?_
  obtain ⟨low, high⟩ := quantise_range (pcm (discriminated fast_atan2f
    (filtered (delay historyCnt (mixed x)))) (stageTwoDecimation * (downSampleCnt * b + i)))
  rw [Function.comp_apply, referenceBlock, pointer, if_pos (List.mem_range.mp hi)]
  exact Int16.toInt_ofInt_of_le low high

end Aired

end SpectrogramServers.MyServer.Receiver
