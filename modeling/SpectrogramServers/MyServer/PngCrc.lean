import SpectrogramServers.Lib.CArray
import SpectrogramServers.Lib.Crc

/-!
# The checksum of a PNG chunk

`crc` and `update_crc` compute the check that ends every chunk of a PNG file, with
a table that the first call fills.  `crc_eq_remainder` says what they compute: the
remainder of the bits of the message, each byte lowest bit first, by the generator
of CRC-32, with the register and the result complemented.  It does not matter
whether `unsigned long` has 32 bits or more, nor in how many pieces `update_crc`
is given the message, nor whether an earlier call has filled the table.

`crc_detects_burst` is what the checksum is for: errors within 32 consecutive bits
of a message, wherever they are and however long it is, change its checksum.

An `unsigned long` is a `BitVec w`, with `w` at least 32.  The table starts out as
zeros, and is either not computed or right (`Globals.Ready`); that is all that is
needed of the calls that came before.
-/

namespace SpectrogramServers.MyServer.PngCrc

open Crc Polynomial

variable {w m : ℕ}

/-! ## The functions -/

/-- `crc_table` and `crc_table_computed`. -/
structure Globals (w : ℕ) where
  crc_table : CArray (BitVec w) 256
  crc_table_computed : ℤ

/-- The globals when the program starts. -/
def Globals.initial : Globals w where
  crc_table := fun _ => 0#w
  crc_table_computed := 0

/-- `0xedb88320L`. -/
def feedback : BitVec w := BitVec.ofNat w 0xedb88320

/-- `0xffffffffL`. -/
def ones : BitVec w := BitVec.ofNat w 0xffffffff

/-- The body of the loop over `k`. -/
def shiftEntry (c : BitVec w) : BitVec w :=
  if c &&& 1#w ≠ 0#w then feedback ^^^ (c >>> 1) else c >>> 1

def make_crc_table (g : Globals w) : Option (Globals w) :=
  (forUp (fun n (crc_table : CArray (BitVec w) 256) =>
    (forUp (fun _ c => some (shiftEntry c)) 0 8 (BitVec.ofNat w n)).bind fun c =>
    crc_table.set? n c) 0 256 g.crc_table).bind fun crc_table =>
  some { crc_table := crc_table, crc_table_computed := 1 }

/-- The body of the loop over the bytes. -/
def updateByte (crc_table : CArray (BitVec w) 256) (buf : CArray UInt8 m) (n : ℕ)
    (c : BitVec w) : Option (BitVec w) :=
  (buf.get? n).bind fun byte =>
  (crc_table.get? ((c ^^^ BitVec.ofNat w byte.toNat) &&& 0xff#w).toNat).bind fun entry =>
  some (entry ^^^ (c >>> 8))

/-- `update_crc`, with the globals it leaves. -/
def update_crc (g : Globals w) (crc : BitVec w) (buf : CArray UInt8 m) (len : ℤ) :
    Option (Globals w × BitVec w) :=
  (if g.crc_table_computed = 0 then make_crc_table g else some g).bind fun g =>
  (forUp (updateByte g.crc_table buf) 0 len.toNat crc).bind fun c =>
  some (g, c)

/-- `crc`, with the globals it leaves. -/
def crc (g : Globals w) (buf : CArray UInt8 m) (len : ℤ) : Option (Globals w × BitVec w) :=
  (update_crc g ones buf len).bind fun r => some (r.1, r.2 ^^^ ones)

/-! ## The table -/

/-- Entry `n` of the table, as it should be. -/
def entry (n : ℕ) : BitVec w := divideBits feedback 8 (BitVec.ofNat w n)

/-- The table is filled, or will be when it is first needed. -/
def Globals.Ready (g : Globals w) : Prop :=
  g.crc_table_computed = 0 ∨ g.crc_table.Holds 256 entry

theorem ready_initial : (Globals.initial : Globals w).Ready := .inl rfl

theorem shiftEntry_eq (c : BitVec w) : shiftEntry c = divideBit feedback c := by
  have test : c &&& 1#w ≠ 0#w ↔ c.getLsbD 0 = true := by
    rw [BitVec.and_one_eq_setWidth_ofBool_getLsbD]
    rcases Nat.eq_zero_or_pos w with rfl | positive
    · simp [BitVec.of_length_zero]
    · cases c.getLsbD 0
      · simp
      · simp only [ne_eq, iff_true]
        intro zero
        have first := congrArg (BitVec.getLsbD · 0) zero
        simp [positive] at first
  unfold shiftEntry divideBit
  simp only [test]

/-- A loop that cannot fail repeats its body. -/
theorem forUp_some {σ : Type} (f : σ → σ) (lo count : ℕ) (s : σ) :
    forUp (fun _ s => some (f s)) lo count s = some (f^[count] s) := by
  induction count generalizing lo s with
  | zero => rfl
  | succ count ih => exact ih (lo + 1) (f s)

theorem succeeds_make_crc_table (g : Globals w) :
    Succeeds (make_crc_table g) fun h => h.crc_table.Holds 256 entry := by
  refine (CArray.succeeds_fill entry g.crc_table ?_).bind fun table filled => .pure filled
  intro n table hn _
  have divided : forUp (fun _ c => some (shiftEntry c)) 0 8 (BitVec.ofNat w n) =
      some (entry n) := by
    rw [forUp_some, funext shiftEntry_eq]
    rfl
  rw [divided]
  exact table.succeeds_set?_cell _ hn

/-! ## The bytes of a message -/

/-- The bits of a message in the order they are fed: each byte lowest bit first. -/
def bits (message : List UInt8) : List Bool := message.flatMap fun byte => lowBits 8 byte.toBitVec

theorem length_bits (message : List UInt8) : (bits message).length = 8 * message.length := by
  induction message with
  | nil => rfl
  | cons byte message ih =>
      rw [bits, List.flatMap_cons, List.length_append, length_lowBits, ← bits, ih,
        List.length_cons, Nat.mul_succ, Nat.add_comm]

theorem bits_append (front back : List UInt8) : bits (front ++ back) = bits front ++ bits back :=
  List.flatMap_append

/-- A message is known from its bits. -/
theorem bits_injective : Function.Injective bits := by
  intro message other same
  have lengths := congrArg List.length same
  rw [length_bits, length_bits] at lengths
  induction message generalizing other with
  | nil => exact (List.length_eq_zero_iff.mp (by simpa using lengths.symm)).symm
  | cons byte message ih =>
      cases other with
      | nil => simp at lengths
      | cons byte' other =>
          rw [bits, bits, List.flatMap_cons, List.flatMap_cons] at same
          obtain ⟨first, rest⟩ := List.append_inj same (by rw [length_lowBits, length_lowBits])
          have bytes : byte = byte' := by
            apply UInt8.toBitVec_inj.mp
            apply BitVec.eq_of_getLsbD_eq
            intro i hi
            exact List.map_inj_left.mp first i (List.mem_range.mpr hi)
          rw [bytes, ih rest (by simpa using lengths)]

/-- **A look-up is eight steps of the register.** -/
theorem succeeds_updateByte (wide : 32 ≤ w) {table : CArray (BitVec w) 256}
    (filled : table.Holds 256 entry) {buf : CArray UInt8 m} {n : ℕ} {byte : UInt8}
    (read : buf.get? n = some byte) (c : BitVec w) :
    updateByte table buf n c = some ((lowBits 8 byte.toBitVec).foldl (feed feedback) c) := by
  have index : ((c ^^^ BitVec.ofNat w byte.toNat) &&& 0xff#w).toNat < 256 := by
    rw [BitVec.toNat_and, BitVec.toNat_ofNat]
    exact Nat.and_lt_two_pow (n := 8) _ (Nat.mod_lt_of_lt (by omega))
  have small : byte.toNat < 2 ^ w :=
    byte.toNat_lt.trans (Nat.pow_lt_pow_right (by omega) (by omega))
  have low : lowBits 8 (BitVec.ofNat w byte.toNat) = lowBits 8 byte.toBitVec := by
    apply List.map_congr_left
    intro i hi
    have inside := List.mem_range.mp hi
    rw [BitVec.getLsbD_ofNat, decide_eq_true (by omega), Bool.true_and]
    rfl
  have gone : BitVec.ofNat w byte.toNat >>> 8 = 0#w := by
    apply BitVec.eq_of_toNat_eq
    rw [BitVec.toNat_ushiftRight, BitVec.toNat_ofNat, Nat.mod_eq_of_lt small,
      Nat.shiftRight_eq_div_pow]
    simpa using byte.toNat_lt
  have steps := divideBits_split feedback (c ^^^ BitVec.ofNat w byte.toNat) 8
  rw [divideBits_xor_shift, low, gone, BitVec.xor_zero, BitVec.ushiftRight_xor_distrib, gone,
    BitVec.xor_zero] at steps
  unfold updateByte
  rw [read, Option.bind_some, filled _ index, Option.bind_some, steps, entry, BitVec.ofNat_toNat,
    BitVec.setWidth_eq]
  rfl

/-- **A call of `update_crc`** feeds the bytes it is given, and leaves the table filled. -/
theorem succeeds_update_crc (wide : 32 ≤ w) {g : Globals w} (ready : g.Ready) (c : BitVec w)
    (buf : CArray UInt8 m) {len : ℕ} (inside : len ≤ m) :
    Succeeds (update_crc g c buf len) fun r =>
      r.1.Ready ∧ r.2 = (bits (buf.slice 0 len)).foldl (feed feedback) c := by
  have filled : Succeeds (if g.crc_table_computed = 0 then make_crc_table g else some g)
      fun h => h.crc_table.Holds 256 entry := by
    by_cases empty : g.crc_table_computed = 0
    · rw [if_pos empty]
      exact succeeds_make_crc_table g
    · rw [if_neg empty]
      exact .pure (ready.resolve_left empty)
  refine filled.bind fun h table => ?_
  have loop : Succeeds (forUp (updateByte h.crc_table buf) 0 len c) fun d =>
      d = (bits (buf.slice 0 len)).foldl (feed feedback) c := by
    refine succeeds_forUp_zero
      (fun n d => d = (bits (buf.slice 0 n)).foldl (feed feedback) c) rfl ?_
    rintro n d hn rfl
    have read := buf.get?_of_lt (hn.trans_le inside)
    refine ⟨_, succeeds_updateByte wide table read _, ?_⟩
    rw [CArray.slice_succ, Nat.zero_add, read, Option.toList_some, bits_append,
      List.foldl_append]
    simp [bits]
  rw [Int.toNat_natCast]
  exact loop.bind fun d hd => .pure ⟨.inr table, hd⟩

/-! ## The checksum -/

/-- A message as a C array. -/
def array (message : List UInt8) : CArray UInt8 message.length := message.get

theorem slice_array (message : List UInt8) : (array message).slice 0 message.length = message := by
  have front : ∀ n, n ≤ message.length → (array message).slice 0 n = message.take n := by
    intro n
    induction n with
    | zero => intro _; rfl
    | succ n ih =>
        intro hn
        rw [CArray.slice_succ, ih (by omega), Nat.zero_add, CArray.get?_of_lt _ (by omega),
          List.take_succ_eq_append_getElem (by omega)]
        rfl
  rw [front _ (Nat.le_refl _), List.take_length]

/-- Calls of `update_crc` on one piece after the other. -/
def updateAll : List (List UInt8) → Globals w × BitVec w → Option (Globals w × BitVec w)
  | [], s => some s
  | piece :: pieces, s =>
      (update_crc s.1 s.2 (array piece) piece.length).bind (updateAll pieces)

theorem succeeds_updateAll (wide : 32 ≤ w) (pieces : List (List UInt8)) {g : Globals w}
    (ready : g.Ready) (c : BitVec w) :
    Succeeds (updateAll pieces (g, c)) fun r =>
      r.1.Ready ∧ r.2 = (bits pieces.flatten).foldl (feed feedback) c := by
  induction pieces generalizing g c with
  | nil => exact .pure ⟨ready, rfl⟩
  | cons piece pieces ih =>
      refine (succeeds_update_crc wide ready c (array piece) (Nat.le_refl _)).bind ?_
      rintro ⟨h, d⟩ ⟨ready', rfl⟩
      rw [slice_array]
      refine (ih ready' _).mono fun r later => ⟨later.1, ?_⟩
      rw [later.2, List.flatten_cons, bits_append, List.foldl_append]

theorem succeeds_crc (wide : 32 ≤ w) {g : Globals w} (ready : g.Ready) (message : List UInt8) :
    Succeeds (crc g (array message) message.length) fun r =>
      r.1.Ready ∧ r.2 = (bits message).foldl (feed feedback) ones ^^^ ones := by
  refine (succeeds_update_crc wide ready ones (array message) (Nat.le_refl _)).bind ?_
  rintro ⟨h, d⟩ ⟨ready', rfl⟩
  rw [slice_array]
  exact .pure ⟨ready', rfl⟩

/-- The generator of CRC-32. -/
noncomputable def generator : (ZMod 2)[X] :=
  X ^ 32 + X ^ 26 + X ^ 23 + X ^ 22 + X ^ 16 + X ^ 12 + X ^ 11 + X ^ 10 + X ^ 8 + X ^ 7 + X ^ 5 +
    X ^ 4 + X ^ 2 + X + 1

/-- 32 ones as a polynomial. -/
noncomputable def onesPoly : (ZMod 2)[X] := ∑ i ∈ Finset.range 32, X ^ i

theorem getLsbD_feedback (wide : 32 ≤ w) {i : ℕ} (inside : i < 32) :
    (feedback : BitVec w).getLsbD i = Nat.testBit 0xedb88320 i := by
  rw [feedback, BitVec.getLsbD_ofNat, decide_eq_true (by omega), Bool.true_and]

theorem fits_feedback : Fits 32 (feedback : BitVec w) := by
  intro i hi
  rw [feedback, BitVec.getLsbD_ofNat, Nat.testBit_lt_two_pow, Bool.and_false]
  exact lt_of_lt_of_le (by decide : 0xedb88320 < 2 ^ 32) (Nat.pow_le_pow_right (by omega) hi)

theorem getLsbD_ones (wide : 32 ≤ w) (i : ℕ) :
    (ones : BitVec w).getLsbD i = decide (i < 32) := by
  have all : (0xffffffff : ℕ) = 2 ^ 32 - 1 := rfl
  rw [ones, BitVec.getLsbD_ofNat, all, Nat.testBit_two_pow_sub_one]
  by_cases inside : i < 32
  · simp [inside, show i < w by omega]
  · simp [inside]

theorem fits_ones (wide : 32 ≤ w) : Fits 32 (ones : BitVec w) := by
  intro i hi
  rw [getLsbD_ones wide, decide_eq_false (by omega)]

theorem registerPoly_ones (wide : 32 ≤ w) : registerPoly 32 (ones : BitVec w) = onesPoly := by
  rw [registerPoly, onesPoly, ← Finset.sum_range_reflect fun i => (X : (ZMod 2)[X]) ^ i]
  refine Finset.sum_congr rfl fun i hi => ?_
  rw [getLsbD_ones wide, decide_eq_true (Finset.mem_range.mp hi)]
  simp [bit]

/-- `0xedb88320` is the generator without its highest power, read backwards. -/
theorem divisor_feedback (wide : 32 ≤ w) : divisor 32 (feedback : BitVec w) = generator := by
  have terms : registerPoly 32 (feedback : BitVec w) =
      ∑ i ∈ Finset.range 32, C (bit (Nat.testBit 0xedb88320 i)) * X ^ (32 - 1 - i) := by
    refine Finset.sum_congr rfl fun i hi => ?_
    rw [getLsbD_feedback wide (Finset.mem_range.mp hi)]
  rw [divisor, terms, generator]
  simp [Finset.sum_range_succ, bit, Nat.testBit]
  ring

/-- **The checksum is the CRC-32.**  On every width of `unsigned long` from 32 bits on,
whatever calls came before and into whatever pieces the message is cut: the calls
stay inside their arrays and leave the globals ready for the next, and the complement
of what they return is what one call of `crc` returns, a word of 32 bits.  Its
polynomial is the complement of the remainder by the generator of the message with 32
zeros behind it and its first 32 bits complemented. -/
theorem crc_eq_remainder (wide : 32 ≤ w) {g h : Globals w} (ready : g.Ready) (ready' : h.Ready)
    (pieces : List (List UInt8)) :
    Succeeds (updateAll pieces (g, ones)) fun r =>
      Succeeds (crc h (array pieces.flatten) pieces.flatten.length) fun s =>
        r.1.Ready ∧ s.1.Ready ∧ s.2 = r.2 ^^^ ones ∧ s.2.toNat < 2 ^ 32 ∧
          registerPoly 32 s.2 = (X ^ (8 * pieces.flatten.length) * onesPoly +
            X ^ 32 * messagePoly (bits pieces.flatten)) %ₘ generator + onesPoly := by
  refine (succeeds_updateAll wide pieces ready ones).mono ?_
  rintro ⟨_, c⟩ ⟨readyAfter, rfl⟩
  refine (succeeds_crc wide ready' pieces.flatten).mono ?_
  rintro ⟨_, d⟩ ⟨readyAfter', rfl⟩
  have fits : Fits 32 ((bits pieces.flatten).foldl (feed feedback) ones ^^^ (ones : BitVec w)) :=
    (fits_feedback.foldl_feed (by decide) (fits_ones wide) _).xor (fits_ones wide)
  refine ⟨readyAfter, readyAfter', rfl, ?_, ?_⟩
  · by_contra large
    obtain ⟨i, hi, set⟩ := Nat.exists_ge_and_testBit_of_ge_two_pow (Nat.not_lt.mp large)
    exact absurd (fits i hi) (by simpa [BitVec.getLsbD] using set)
  · rw [registerPoly_xor, registerPoly_foldl_feed fits_feedback (by decide) (by omega)
      (fits_ones wide), registerPoly_ones wide, divisor_feedback wide, length_bits]

/-- `pngParam`: the header of an image of 1024 rows of 1024 grey pixels, cut behind its
name. -/
def pngParam : List (List UInt8) :=
  [[0x49, 0x48, 0x44, 0x52], [0x00, 0x00, 0x04, 0x00, 0x00, 0x00, 0x04, 0x00, 0x08, 0, 0, 0, 0]]

/-- From the state that the program starts in. -/
theorem crc_eq_remainder_pngParam :
    Succeeds (updateAll pngParam ((Globals.initial : Globals 64), ones)) fun r =>
      Succeeds (crc Globals.initial (array pngParam.flatten) pngParam.flatten.length) fun s =>
        r.1.Ready ∧ s.1.Ready ∧ s.2 = r.2 ^^^ ones ∧ s.2.toNat < 2 ^ 32 ∧
          registerPoly 32 s.2 = (X ^ (8 * pngParam.flatten.length) * onesPoly +
            X ^ 32 * messagePoly (bits pngParam.flatten)) %ₘ generator + onesPoly :=
  crc_eq_remainder (by decide) ready_initial ready_initial pngParam

/-- Its checksum is `pngParamCrc`. -/
example : (crc (Globals.initial : Globals 64) (array pngParam.flatten) 17).map (·.2) =
    some 0x5A76745F := by
  decide +kernel

/-- **A burst is detected.**  If two messages of one length differ, and only within 32
consecutive bits, their checksums differ. -/
theorem crc_detects_burst (wide : 32 ≤ w) {g h : Globals w} (ready : g.Ready) (ready' : h.Ready)
    {message message' : List UInt8} {front a b back : List Bool}
    (sent : bits message = front ++ a ++ back) (received : bits message' = front ++ b ++ back)
    (length : a.length = b.length) (short : a.length ≤ 32) (different : message ≠ message') :
    Succeeds (crc g (array message) message.length) fun r =>
      Succeeds (crc h (array message') message'.length) fun s => r.2 ≠ s.2 := by
  refine (succeeds_crc wide ready message).mono ?_
  rintro ⟨_, c⟩ ⟨-, rfl⟩
  refine (succeeds_crc wide ready' message').mono ?_
  rintro ⟨_, d⟩ ⟨-, rfl⟩ same
  have top : (feedback : BitVec w).getLsbD (32 - 1) = true := by
    rw [getLsbD_feedback wide (by decide)]
    rfl
  have registers : (bits message).foldl (feed feedback) ones =
      (bits message').foldl (feed feedback) (ones : BitVec w) := by
    have complements := congrArg (· ^^^ (ones : BitVec w)) same
    simpa [BitVec.xor_assoc] using complements
  rw [sent, received] at registers
  obtain rfl : a = b :=
    foldl_feed_burst fits_feedback top (by decide) (fits_ones wide) length short registers
  exact different (bits_injective (sent.trans received.symm))

/-- A byte that is wrong in three bits. -/
theorem crc_detects_burst_byte :
    Succeeds (crc (Globals.initial : Globals 32) (array [7, 0x21, 9]) 3) fun r =>
      Succeeds (crc Globals.initial (array [7, 0x2f, 9]) 3) fun s => r.2 ≠ s.2 :=
  crc_detects_burst (by decide) ready_initial ready_initial
    (show bits [7, 0x21, 9] = bits [7] ++ bits [0x21] ++ bits [9] from rfl)
    (show bits [7, 0x2f, 9] = bits [7] ++ bits [0x2f] ++ bits [9] from rfl)
    rfl (by decide) (by decide)

end SpectrogramServers.MyServer.PngCrc
