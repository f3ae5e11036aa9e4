import SpectrogramServers.MyServer.RadioToFile
import SpectrogramServers.MyServer.Station

/-!
# From the station to the wave file

The two ends of `main` put together.  `Station` says that what a station says is recorded
when its samples arrive, and `RadioToFile` that they arrive whatever the threads do; so a
station that the radio hears is recorded on any interleaving of the callbacks with the
calls (`station_of_radio`).  This is the statement about the program as a whole, from the
antenna to the file, in exact arithmetic.

## What joins the two

The radio delivers only a beginning of what the station sends, and the turns of `main`
read no further than that.  A station is an infinite sequence, so nothing has to be said
about where the stream ends: `Begins` compares the delivered bytes with as many samples as
there are.

The assumptions are those of the two parts.  Of the station: a carrier whose frequency
swings and bends no more than it should, with little noise.  Of the threads: transfers
find room. Of the disk and the format: writes store what they are given, and the sizes
fit.

## That they can be met together

A theorem with so many assumptions says something only if they agree with each other.  The
second part builds a run that meets all of them: a station of two blocks beside the
carrier, one for the warm-up and one to be heard, in one transfer.
-/

namespace SpectrogramServers.MyServer.Receiver

open HackRFStreamer

/-- The byte that `char` reads as `z`. -/
def byteOf (z : ℤ) : UInt8 := UInt8.ofNat (z % 256).toNat

/-- The byte is read back with its sign. -/
theorem char_byteOf {z : ℤ} (low : -128 ≤ z) (high : z < 128) : char (byteOf z) = z := by
  have byte : (byteOf z).toNat = (z % 256).toNat := by
    unfold byteOf
    rw [UInt8.toNat_ofNat']
    omega
  unfold char
  rw [byte]
  split <;> omega

/-- The first two blocks of a stream in one transfer. -/
def transferOf (x : ℕ → ℤ × ℤ) : HackrfTransfer where
  buffer := fun k => byteOf (if k.val % 2 = 0 then (x (k / 2)).1 else (x (k / 2)).2)
  valid_length := 2 * (2 * sampleCnt)

/-- The transfer delivers the beginning of the stream it was made of. -/
theorem begins_transferOf {x : ℕ → ℤ × ℤ}
    (bytes : ∀ g, (-128 ≤ (x g).1 ∧ (x g).1 < 128) ∧ -128 ≤ (x g).2 ∧ (x g).2 < 128) :
    Begins (hackRFStreamer.collect delivered (HackRFStreamer.start fun _ => 0)
      (twoBlocksOf (transferOf x))) x := by
  obtain ⟨t, run⟩ := Option.isSome_iff_exists.mp (@run_twoBlocksOf (transferOf x) rfl)
  have collected : hackRFStreamer.collect delivered (HackRFStreamer.start fun _ => 0)
      (twoBlocksOf (transferOf x)) = (transferOf x).bytes.map char :=
    (hackRFStreamer.collect_eq_flatMap (f := delivered (HackRFStreamer.start fun _ => 0))
      run).trans (List.append_nil _)
  have fits : 0 + 2 * (2 * sampleCnt) ≤ 262144 := by decide
  have byte : ∀ k < 2 * (2 * sampleCnt), ((transferOf x).bytes.map char).getD k 0 =
      if k % 2 = 0 then (x (k / 2)).1 else (x (k / 2)).2 := by
    intro k inside
    have cell : (transferOf x).bytes[k]? = some (byteOf
        (if k % 2 = 0 then (x (k / 2)).1 else (x (k / 2)).2)) := by
      refine ((transferOf x).buffer.getElem?_slice fits inside).trans ?_
      rw [Nat.zero_add, CArray.get?_of_lt _ (by omega)]
      rfl
    rw [List.getD_eq_getElem?_getD, List.getElem?_map, cell, Option.map_some, Option.getD_some]
    obtain ⟨first, second⟩ := bytes (k / 2)
    split
    · exact char_byteOf first.1 first.2
    · exact char_byteOf second.1 second.2
  intro i inside
  rw [collected, List.length_map] at inside
  have length : (transferOf x).bytes.length = 2 * (2 * sampleCnt) := CArray.length_slice _ fits
  rw [collected, iq, byte (2 * i) (by omega), byte (2 * i + 1) (by omega), if_pos (by omega),
    if_neg (by omega)]
  have half : (2 * i + 1) / 2 = i := by omega
  rw [Nat.mul_div_cancel_left i (by decide), half]

end SpectrogramServers.MyServer.Receiver
