import SpectrogramServers.MyServer.AlsaStreamer
import SpectrogramServers.MyServer.Recording

/-!
# The playback

Where `_linux_` is defined, `main` can be told to give its audio to an `AlsaStreamer`.
No compiler defines that name (`__linux__` is the usual one) and no build file of the
repository does, so this is the program as it was meant, not one that is built.

`played_isPrefix` puts the calls of `writeSamples` together over a run of `main`: what
the device has taken is a first part of the single-pass reference of the stream, each
sample once and in order across all blocks, and all of it unless a call returned an
error.  After an error `main` leaves its loop, so nothing is skipped.

## How a call is composed with the loop

A call of `writeSamples` is a run of its own (`alsaStreamer`), with the responses of the
device as its events.  The loop of `main` sees of it only what it returns, and the model
keeps of the device only the samples it has taken: `alsaSink` is the `AudioSink` that has
both.  So the results on the loop with any sink apply, and what is proved here is what
one call plays (`writeSamples_alsaSink`) and what the calls of a run play together.
-/

namespace SpectrogramServers.MyServer.Receiver

universe u

variable {K : Type u} [Field K] [LinearOrder K] [FloorRing K]

/-- `AlsaStreamer` as an `AudioSink`, known by the samples that the device has taken.
What happens outside during a call are the responses of the device; a call that has not
returned when they end is `none`. -/
def alsaSink : AudioSink (List Int16) (List ℤ) where
  writeSamples samples responses taken :=
    ((alsaStreamer samples).run (AlsaStreamer.start samplesPerPeriod) responses).bind fun c =>
      if c.place = .returned then some (taken ++ c.accepted, c.err) else none

/-- The device answers a call with an error. -/
def Errs (samples : ℕ → Int16) (responses : List ℤ) : Prop :=
  ∃ c, (alsaStreamer samples).run (AlsaStreamer.start samplesPerPeriod) responses = some c ∧
    c.place = .returned ∧ c.err < 0

/-- The device answers a call until it returns. -/
def Returns (samples : ℕ → Int16) (responses : List ℤ) : Prop :=
  ∃ c, (alsaStreamer samples).run (AlsaStreamer.start samplesPerPeriod) responses = some c ∧
    c.place = .returned

/-- What one call plays: the block, or a first part of it if the device errs. -/
theorem writeSamples_alsaSink {samples : ℕ → Int16} {responses : List ℤ}
    {taken : List Int16} {answer : List Int16 × ℤ}
    (h : alsaSink.writeSamples samples responses taken = some answer) :
    ∃ played, answer.1 = taken ++ played ∧ played <+: firsts samples downSampleCnt ∧
      (0 ≤ answer.2 → played = firsts samples downSampleCnt) ∧
      (answer.2 < 0 → Errs samples responses) := by
  obtain ⟨c, run, ends⟩ := Option.bind_eq_some_iff.mp h
  obtain ⟨returned, rfl⟩ := guarded_eq_some ends
  have delivered := (AlsaStreamer.delivered_start samplesPerPeriod).run run
  have left := delivered.left
  have period : (samplesPerPeriod : ℤ).toNat = downSampleCnt := rfl
  have position : c.position ≤ downSampleCnt := by omega
  refine ⟨c.accepted, rfl, ?_, fun success => ?_, fun failed => ⟨c, run, returned, failed⟩⟩
  · rw [delivered.accepted]
    exact firsts_isPrefix_of_le samples position
  · have nothing : c.cptr ≤ 0 := by
      rcases delivered.returned returned with ⟨nothing, -⟩ | ⟨-, failed⟩
      · exact nothing
      · exact absurd success (Int.not_le.mpr failed)
    rw [delivered.accepted]
    congr 1
    omega

/-- **The playback of the single pass**, from block `b` on: what is added is a first part
of what is heard, and all of it unless the device errs in a block that is heard. -/
theorem play_alsa {fast_atan2f : K → K → K} {x : ℕ → ℤ × ℤ} {b : ℕ} {turns : List (Turn (List ℤ))}
    {taken left : List Int16} (h : play fast_atan2f x alsaSink b taken turns = some left) :
    ∃ played, left = taken ++ played ∧
      played.map Int16.toInt <+: airedSamples fast_atan2f x b turns ∧
      (played.map Int16.toInt = airedSamples fast_atan2f x b turns ∨
        ∃ heard ∈ aired b turns,
          Errs (referenceBlock fast_atan2f x heard.1) heard.2.outside) := by
  induction turns generalizing b taken with
  | nil =>
      obtain rfl : taken = left := Option.some.inj h
      exact ⟨[], (List.append_nil _).symm, List.prefix_refl _, .inl rfl⟩
  | cons turn turns ih =>
      unfold play at h
      unfold airedSamples aired
      by_cases short : turn.samplesRead ≠ sampleCnt
      · rw [if_pos short] at h ⊢
        obtain rfl : taken = left := Option.some.inj h
        exact ⟨[], (List.append_nil _).symm, List.prefix_refl _, .inl rfl⟩
      · rw [if_neg short] at h ⊢
        cases warming : turn.warmingUp with
        | true =>
            rw [warming, if_pos rfl] at h
            rw [if_pos rfl]
            obtain ⟨played, grown, first, rest⟩ := ih h
            exact ⟨played, grown, first, rest⟩
        | false =>
            rw [warming, if_neg Bool.false_ne_true] at h
            rw [if_neg Bool.false_ne_true, List.flatMap_cons]
            obtain ⟨answer, call, goes⟩ := Option.bind_eq_some_iff.mp h
            obtain ⟨now, answered, front, whole, errs⟩ := writeSamples_alsaSink call
            by_cases failed : answer.2 < 0
            · rw [if_pos failed] at goes
              obtain rfl : answer.1 = left := Option.some.inj goes
              refine ⟨now, answered, ?_, .inr ⟨(b, turn), List.mem_cons_self, errs failed⟩⟩
              have mapped := front.map Int16.toInt
              rw [map_toInt_referenceBlock] at mapped
              exact mapped.trans (List.prefix_append _ _)
            · rw [if_neg failed] at goes
              obtain ⟨later, grown, first, rest⟩ := ih goes
              have block : now.map Int16.toInt = blockSamples fast_atan2f x b := by
                rw [whole (Int.not_lt.mp failed), map_toInt_referenceBlock]
              refine ⟨now ++ later, ?_, ?_, ?_⟩
              · rw [grown, answered, List.append_assoc]
              · rw [List.map_append, block]
                exact (List.prefix_append_right_inj _).mpr first
              · rw [List.map_append, block]
                rcases rest with all | ⟨heard, mem, errs⟩
                · exact .inl (congrArg _ all)
                · exact .inr ⟨heard, List.mem_cons_of_mem _ mem, errs⟩

/-- If every call returns, so does the playback. -/
theorem play_alsa_isSome {fast_atan2f : K → K → K} {x : ℕ → ℤ × ℤ} {b : ℕ}
    {turns : List (Turn (List ℤ))}
    (returns : ∀ heard ∈ aired b turns,
      Returns (referenceBlock fast_atan2f x heard.1) heard.2.outside) (taken : List Int16) :
    (play fast_atan2f x alsaSink b taken turns).isSome := by
  induction turns generalizing b taken with
  | nil => rfl
  | cons turn turns ih =>
      unfold play
      unfold aired at returns
      by_cases short : turn.samplesRead ≠ sampleCnt
      · rw [if_pos short]
        rfl
      · rw [if_neg short] at returns ⊢
        cases warming : turn.warmingUp with
        | true =>
            rw [warming, if_pos rfl] at returns
            rw [if_pos rfl]
            exact ih returns taken
        | false =>
            rw [warming, if_neg Bool.false_ne_true] at returns
            rw [if_neg Bool.false_ne_true]
            obtain ⟨c, run, returned⟩ :
                Returns (referenceBlock fast_atan2f x b) turn.outside :=
              returns (b, turn) List.mem_cons_self
            have answer :
                alsaSink.writeSamples (referenceBlock fast_atan2f x b) turn.outside taken =
                  some (taken ++ c.accepted, c.err) := by
              unfold alsaSink
              dsimp only
              rw [run, Option.bind_some, if_pos returned]
            rw [answer, Option.bind_some]
            split
            · rfl
            · exact ih (fun heard mem => returns heard (List.mem_cons_of_mem _ mem)) _

section

variable [IsStrictOrderedRing K]

/-- **The playback.**  A stream arrives in full blocks up to a read that is too short, the
first of them within the first three seconds, on either platform and whatever the buffers
held.  Whatever the device responds, as long as every call returns: in exact arithmetic no
index is out of bounds, and when `main` leaves its loop the device has taken a first part
of the single-pass reference for the blocks behind the first three seconds, all of it or
up to a call that returned an error. -/
theorem played_isPrefix (platform : Platform) (fast_atan2f : K → K → K) (x : ℕ → ℤ × ℤ)
    (turns : List (Turn (List ℤ))) (feeds : Feeds x 0 turns) (warms : WarmsUp turns)
    (returns : ∀ heard ∈ aired 0 turns,
      Returns (referenceBlock fast_atan2f x heard.1) heard.2.outside)
    (buffer : CArray ℤ bufferCount) (bufferShifted : CArray K bufferCount) :
    Succeeds ((start buffer bufferShifted).loopInto platform fast_atan2f alsaSink [] turns)
      fun t => t.2.map Int16.toInt <+: airedSamples fast_atan2f x 0 turns ∧
        (t.2.map Int16.toInt = airedSamples fast_atan2f x 0 turns ∨
          ∃ heard ∈ aired 0 turns,
            Errs (referenceBlock fast_atan2f x heard.1) heard.2.outside) := by
  obtain ⟨left, ended⟩ := Option.isSome_iff_exists.mp (play_alsa_isSome returns [])
  have played := loopInto_eq_play platform fast_atan2f alsaSink
    (carried_start x buffer bufferShifted) feeds (fun _ => warms) []
  rw [ended] at played
  obtain ⟨t, loop, rfl⟩ := Option.map_eq_some_iff.mp played
  obtain ⟨heard, grown, first, whole⟩ := play_alsa ended
  rw [List.nil_append] at grown
  rw [← grown] at first whole
  exact ⟨t, loop, first, whole⟩

end

/-- Silence within the first three seconds or behind them, and the responses to it. -/
def playedTurn (warmingUp : Bool) (responses : List ℤ) : Turn (List ℤ) where
  samples := fun _ => (0, 0)
  samplesRead := sampleCnt
  warmingUp := warmingUp
  outside := responses

/-- A block in two pieces with an under-run between them, and one that fails for good. -/
def playedTurns : List (Turn (List ℤ)) :=
  [playedTurn true [20, -32, 0, 6], playedTurn false [20, -32, 0, 6], playedTurn false [-19]]

/-- Of the three blocks the second is taken with an under-run in it, and the third is not. -/
theorem played_isPrefix_underrun :
    Succeeds ((start (fun _ => 1) (fun _ => (1 : ℚ))).loopInto .portable (fun _ _ => 0) alsaSink
        [] playedTurns) fun t =>
      t.2.map Int16.toInt <+:
          airedSamples (fun _ _ => (0 : ℚ)) (fun _ => (0, 0)) 0 playedTurns ∧
        (t.2.map Int16.toInt =
            airedSamples (fun _ _ => (0 : ℚ)) (fun _ => (0, 0)) 0 playedTurns ∨
          ∃ heard ∈ aired 0 playedTurns,
            Errs (referenceBlock (fun _ _ => (0 : ℚ)) (fun _ => (0, 0)) heard.1)
              heard.2.outside) := by
  have holds : ∀ b warmingUp responses, (playedTurn warmingUp responses).samples.Holds sampleCnt
      (shift (sampleCnt * b) fun _ => (0, 0)) := fun _ _ _ _ hi => CArray.get?_of_lt _ hi
  have feeds : Feeds (fun _ => (0, 0)) 0 playedTurns :=
    Or.inr ⟨rfl, holds 0 _ _, Or.inr ⟨rfl, holds 1 _ _, Or.inr ⟨rfl, holds 2 _ _, trivial⟩⟩⟩
  refine played_isPrefix .portable (fun _ _ => 0) (fun _ => (0, 0)) playedTurns feeds
    (by decide) ?_ (fun _ => 1) (fun _ => 1)
  have heard : aired 0 playedTurns =
      [(1, playedTurn false [20, -32, 0, 6]), (2, playedTurn false [-19])] := rfl
  rw [heard]
  rintro h (_ | ⟨_, (_ | ⟨_, ⟨⟩⟩)⟩)
  all_goals exact ⟨_, rfl, rfl⟩

end SpectrogramServers.MyServer.Receiver
