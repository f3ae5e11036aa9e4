import Mathlib.Algebra.Field.ZMod
import Mathlib.Data.BitVec
import Mathlib.RingTheory.AdjoinRoot
import Mathlib.RingTheory.Polynomial.DegreeLT

/-!
# Cyclic redundancy checks

A check of degree `n` keeps a register of `n` bits, fed with the bits of a message
one after the other.  In the reflected arrangement bit 0 of the register is the
coefficient of the highest power, and feeding a bit is one step of a long division
by `X ^ n + P`, where `P` is the polynomial of the feedback word.

* `divideBit`, `feed` — one step of the register, without and with a message bit.
* `registerPoly`, `messagePoly` — a register and a message as polynomials over
  `ZMod 2`.
* `registerPoly_foldl_feed` — what the register holds after a message is a
  remainder: of the message, moved `n` places up, and of the register it started
  with, moved up by the length of the message.
* `foldl_feed_burst` — two messages of one length that agree outside a window of
  at most `n` bits leave the same register only if they are the same.

The step is linear over exclusive or (`divideBit_xor`), and that is all that the
customary implementation with a table of 256 entries needs (`divideBits_xor_shift`).
The register may be kept in a wider word; only its low `n` bits are ever set.
-/

namespace SpectrogramServers.Crc

open Polynomial

variable {w : ℕ}

/-! ## The register -/

/-- One step of the division. -/
def divideBit (poly c : BitVec w) : BitVec w :=
  if c.getLsbD 0 then poly ^^^ (c >>> 1) else c >>> 1

/-- `k` steps. -/
def divideBits (poly : BitVec w) (k : ℕ) (c : BitVec w) : BitVec w := (divideBit poly)^[k] c

/-- A message bit as a word. -/
def bitWord (w : ℕ) (b : Bool) : BitVec w := if b then 1#w else 0#w

/-- A step that takes in a message bit. -/
def feed (poly c : BitVec w) (b : Bool) : BitVec w := divideBit poly (c ^^^ bitWord w b)

/-- The low `k` bits of a word, lowest first. -/
def lowBits (k : ℕ) (x : BitVec w) : List Bool := (List.range k).map x.getLsbD

@[simp] theorem length_lowBits (k : ℕ) (x : BitVec w) : (lowBits k x).length = k := by
  simp [lowBits]

@[simp] theorem divideBits_zero (poly c : BitVec w) : divideBits poly 0 c = c := rfl

theorem divideBits_succ (poly : BitVec w) (k : ℕ) (c : BitVec w) :
    divideBits poly (k + 1) c = divideBits poly k (divideBit poly c) := rfl

theorem lowBits_succ (k : ℕ) (x : BitVec w) :
    lowBits (k + 1) x = x.getLsbD 0 :: lowBits k (x >>> 1) := by
  simp only [lowBits, List.range_succ_eq_map, List.map_cons, List.map_map]
  congr 1
  apply List.map_congr_left
  intro i _
  simp [Nat.add_comm]

theorem getLsbD_bitWord (b : Bool) (i : ℕ) :
    (bitWord w b).getLsbD i = (b && decide (i = 0) && decide (0 < w)) := by
  cases b <;> simp [bitWord, BitVec.getLsbD_one]
  rw [Bool.and_comm]

/-- Of a message bit nothing is left one place further on. -/
theorem bitWord_shift (b : Bool) : bitWord w b >>> 1 = 0#w := by
  ext i hi
  simp [getLsbD_bitWord]

/-- **The step is linear.** -/
theorem divideBit_xor (poly c d : BitVec w) :
    divideBit poly (c ^^^ d) = divideBit poly c ^^^ divideBit poly d := by
  simp only [divideBit, BitVec.getLsbD_xor, BitVec.ushiftRight_xor_distrib]
  cases c.getLsbD 0 <;> cases d.getLsbD 0
  · simp
  · simp only [Bool.false_xor, if_true, Bool.false_eq_true, if_false]
    rw [← BitVec.xor_assoc, BitVec.xor_comm poly, BitVec.xor_assoc]
  · simp only [Bool.true_xor, Bool.not_false, if_true, Bool.false_eq_true, if_false]
    rw [BitVec.xor_assoc]
  · simp only [Bool.true_xor, Bool.not_true, Bool.false_eq_true, if_false, if_true]
    rw [BitVec.xor_comm poly (c >>> 1), BitVec.xor_assoc, ← BitVec.xor_assoc poly poly,
      BitVec.xor_self, BitVec.zero_xor]

theorem divideBits_xor (poly c d : BitVec w) (k : ℕ) :
    divideBits poly k (c ^^^ d) = divideBits poly k c ^^^ divideBits poly k d := by
  induction k generalizing c d with
  | zero => rfl
  | succ k ih => rw [divideBits_succ, divideBits_succ, divideBits_succ, divideBit_xor, ih]

/-- A word can be added in whole, or bit by bit as the steps come to them. -/
theorem divideBit_xor_shift (poly c x : BitVec w) :
    divideBit poly (c ^^^ x) = feed poly c (x.getLsbD 0) ^^^ (x >>> 1) := by
  have low : (c ^^^ bitWord w (x.getLsbD 0)).getLsbD 0 = (c ^^^ x).getLsbD 0 := by
    rcases Nat.eq_zero_or_pos w with rfl | positive
    · simp
    · simp only [BitVec.getLsbD_xor, getLsbD_bitWord]
      simp [positive]
  have high : c >>> 1 = (c ^^^ bitWord w (x.getLsbD 0)) >>> 1 := by
    rw [BitVec.ushiftRight_xor_distrib, bitWord_shift, BitVec.xor_zero]
  rw [feed, divideBit, divideBit, low, ← high, BitVec.ushiftRight_xor_distrib]
  split
  · rw [BitVec.xor_assoc]
  · rfl

/-- **Whole words and single bits.**  After `k` steps the low `k` bits of the word
have been fed, and the others are `k` places further down. -/
theorem divideBits_xor_shift (poly c x : BitVec w) (k : ℕ) :
    divideBits poly k (c ^^^ x) = (lowBits k x).foldl (feed poly) c ^^^ (x >>> k) := by
  induction k generalizing c x with
  | zero => simp [lowBits]
  | succ k ih =>
      rw [divideBits_succ, divideBit_xor_shift, ih, lowBits_succ, List.foldl_cons,
        ← BitVec.shiftRight_add, Nat.add_comm 1 k]

theorem feed_zero_false (poly : BitVec w) : feed poly 0#w false = 0#w := by
  simp [feed, divideBit, bitWord]

/-- Zeros keep an empty register empty. -/
theorem foldl_feed_zero (poly : BitVec w) {bits : List Bool} (zeros : ∀ b ∈ bits, b = false) :
    bits.foldl (feed poly) 0#w = 0#w := by
  induction bits with
  | nil => rfl
  | cons b bits ih =>
      obtain rfl : b = false := zeros b List.mem_cons_self
      rw [List.foldl_cons, feed_zero_false]
      exact ih fun b mem => zeros b (List.mem_cons_of_mem _ mem)

/-- A word without low bits is only moved. -/
theorem divideBits_high (poly x : BitVec w) {k : ℕ} (high : ∀ i, i < k → x.getLsbD i = false) :
    divideBits poly k x = x >>> k := by
  have split := divideBits_xor_shift poly 0#w x k
  rw [BitVec.zero_xor, foldl_feed_zero, BitVec.zero_xor] at split
  · exact split
  · intro b mem
    obtain ⟨i, inside, rfl⟩ := List.mem_map.mp mem
    exact high i (List.mem_range.mp inside)

/-- **The table.**  A step over `k` bits is a look-up among `2 ^ k` words and a
shift. -/
theorem divideBits_split (poly x : BitVec w) (k : ℕ) :
    divideBits poly k x =
      divideBits poly k (x &&& BitVec.ofNat w (2 ^ k - 1)) ^^^ (x >>> k) := by
  have mask : ∀ i, (BitVec.ofNat w (2 ^ k - 1)).getLsbD i =
      (decide (i < w) && decide (i < k)) := by
    intro i
    rw [BitVec.getLsbD_ofNat, Nat.testBit_two_pow_sub_one]
  have parts : x =
      (x &&& BitVec.ofNat w (2 ^ k - 1)) ^^^ (x &&& ~~~BitVec.ofNat w (2 ^ k - 1)) := by
    apply BitVec.eq_of_getLsbD_eq
    intro i hi
    simp only [BitVec.getLsbD_xor, BitVec.getLsbD_and, BitVec.getLsbD_not, hi]
    cases x.getLsbD i <;> cases (BitVec.ofNat w (2 ^ k - 1)).getLsbD i <;> rfl
  have moved : divideBits poly k (x &&& ~~~BitVec.ofNat w (2 ^ k - 1)) = x >>> k := by
    rw [divideBits_high]
    · ext i hi
      simp only [BitVec.getElem_ushiftRight, BitVec.getLsbD_and, BitVec.getLsbD_not, mask]
      by_cases inside : k + i < w
      · simp [inside]
      · simp [inside, BitVec.getLsbD_of_ge x (k + i) (by omega)]
    · intro i hi
      by_cases inside : i < w
      · simp [mask, inside, hi]
      · simp [BitVec.getLsbD_of_ge x i (by omega)]
  conv_lhs => rw [parts]
  rw [divideBits_xor, moved]

/-! ## Registers and messages as polynomials -/

/-- A bit as a coefficient. -/
def bit (b : Bool) : ZMod 2 := if b then 1 else 0

theorem bit_xor (a b : Bool) : bit (a ^^ b) = bit a + bit b := by
  cases a <;> cases b <;> decide

theorem bit_injective : Function.Injective bit := by
  intro a b same
  cases a <;> cases b <;> first | rfl | exact absurd same (by decide)

/-- The register: bit 0 is the coefficient of `X ^ (n - 1)`. -/
noncomputable def registerPoly (n : ℕ) (c : BitVec w) : (ZMod 2)[X] :=
  ∑ i ∈ Finset.range n, C (bit (c.getLsbD i)) * X ^ (n - 1 - i)

/-- The message: its first bit has the highest power. -/
noncomputable def messagePoly (bits : List Bool) : (ZMod 2)[X] :=
  bits.foldl (fun m b => X * m + C (bit b)) 0

/-- The divisor that a feedback word stands for. -/
noncomputable def divisor (n : ℕ) (poly : BitVec w) : (ZMod 2)[X] := X ^ n + registerPoly n poly

/-- Only the low `n` bits are set. -/
def Fits (n : ℕ) (c : BitVec w) : Prop := ∀ i, n ≤ i → c.getLsbD i = false

theorem registerPoly_xor (n : ℕ) (c d : BitVec w) :
    registerPoly n (c ^^^ d) = registerPoly n c + registerPoly n d := by
  rw [registerPoly, registerPoly, registerPoly, ← Finset.sum_add_distrib]
  refine Finset.sum_congr rfl fun i _ => ?_
  rw [BitVec.getLsbD_xor, bit_xor, C_add, add_mul]

theorem degree_registerPoly_lt (n : ℕ) (c : BitVec w) : (registerPoly n c).degree < n := by
  refine mem_degreeLT.mp (Submodule.sum_mem _ fun i hi => mem_degreeLT.mpr ?_)
  have inside := Finset.mem_range.mp hi
  refine lt_of_le_of_lt (degree_C_mul_X_pow_le _ _) ?_
  exact_mod_cast (by omega : n - 1 - i < n)

theorem coeff_registerPoly {n i : ℕ} (c : BitVec w) (inside : i < n) :
    (registerPoly n c).coeff (n - 1 - i) = bit (c.getLsbD i) := by
  rw [registerPoly, finsetSum_coeff, Finset.sum_eq_single i]
  · simp
  · intro j hj other
    have bound := Finset.mem_range.mp hj
    rw [coeff_C_mul, coeff_X_pow, if_neg (by omega), mul_zero]
  · intro outside
    exact absurd (Finset.mem_range.mpr inside) outside

theorem monic_divisor (n : ℕ) (poly : BitVec w) : (divisor n poly).Monic :=
  monic_X_pow_add (degree_registerPoly_lt n poly)

theorem degree_divisor (n : ℕ) (poly : BitVec w) : (divisor n poly).degree = n := by
  rw [divisor, degree_add_eq_left_of_degree_lt, degree_X_pow]
  rw [degree_X_pow]
  exact degree_registerPoly_lt n poly

theorem messagePoly_append_singleton (bits : List Bool) (b : Bool) :
    messagePoly (bits ++ [b]) = X * messagePoly bits + C (bit b) := by
  simp [messagePoly]

/-- Behind a message another one moves it up by its length. -/
theorem messagePoly_append (front back : List Bool) :
    messagePoly (front ++ back) = X ^ back.length * messagePoly front + messagePoly back := by
  induction back using List.reverseRecOn with
  | nil => simp [messagePoly]
  | append_singleton back b ih =>
      rw [← List.append_assoc, messagePoly_append_singleton, ih, messagePoly_append_singleton,
        List.length_append, List.length_singleton, pow_succ]
      ring

theorem degree_messagePoly_lt (bits : List Bool) : (messagePoly bits).degree < bits.length := by
  induction bits with
  | nil => simp [messagePoly]
  | cons b bits ih =>
      have split := messagePoly_append [b] bits
      rw [List.singleton_append] at split
      have first : messagePoly [b] = C (bit b) := by simp [messagePoly]
      rw [split, first, mul_comm]
      refine lt_of_le_of_lt (degree_add_le _ _) (max_lt ?_ ?_)
      · refine lt_of_le_of_lt (degree_C_mul_X_pow_le _ _) ?_
        exact_mod_cast Nat.lt_succ_self bits.length
      · exact ih.trans (by exact_mod_cast Nat.lt_succ_self bits.length)

/-- A message is known from its polynomial and its length. -/
theorem messagePoly_injective {front back : List Bool} (length : front.length = back.length)
    (same : messagePoly front = messagePoly back) : front = back := by
  induction front generalizing back with
  | nil => exact (List.length_eq_zero_iff.mp length.symm).symm
  | cons a front ih =>
      cases back with
      | nil => cases length
      | cons b back =>
          have lengths : front.length = back.length := Nat.succ.inj length
          have splitA := messagePoly_append [a] front
          have splitB := messagePoly_append [b] back
          rw [List.singleton_append] at splitA splitB
          have first : ∀ c, messagePoly [c] = C (bit c) := fun c => by simp [messagePoly]
          rw [splitA, splitB, first, first, lengths] at same
          -- the highest coefficient is the first bit
          have top : ∀ (c : Bool) (bits : List Bool), bits.length = back.length →
              (X ^ back.length * C (bit c) + messagePoly bits).coeff back.length = bit c := by
            intro c bits hbits
            have lower : (messagePoly bits).coeff back.length = 0 :=
              coeff_eq_zero_of_degree_lt (hbits ▸ degree_messagePoly_lt bits)
            rw [coeff_add, lower, add_zero, coeff_mul_C, coeff_X_pow_self, one_mul]
          obtain rfl : a = b := by
            apply bit_injective
            rw [← top a front lengths, ← top b back rfl, same]
          rw [ih lengths (add_left_cancel same)]

/-! ## The division -/

section Division

variable {n : ℕ} {poly : BitVec w}

theorem Fits.shift {c : BitVec w} (h : Fits (n + 1) c) : Fits n (c >>> 1) := by
  intro i hi
  rw [BitVec.getLsbD_ushiftRight]
  exact h (1 + i) (by omega)

theorem Fits.xor {c d : BitVec w} (hc : Fits n c) (hd : Fits n d) : Fits n (c ^^^ d) := by
  intro i hi
  rw [BitVec.getLsbD_xor, hc i hi, hd i hi]
  rfl

theorem Fits.mono {m : ℕ} {c : BitVec w} (h : Fits n c) (le : n ≤ m) : Fits m c :=
  fun i hi => h i (le.trans hi)

theorem fits_bitWord (b : Bool) : Fits 1 (bitWord w b) := by
  intro i hi
  rw [getLsbD_bitWord, decide_eq_false (by omega), Bool.and_false, Bool.false_and]

theorem Fits.feed (hpoly : Fits n poly) (positive : 0 < n) {c : BitVec w} (hc : Fits n c)
    (b : Bool) : Fits n (feed poly c b) := by
  have shifted : Fits n ((c ^^^ bitWord w b) >>> 1) :=
    ((hc.xor ((fits_bitWord b).mono positive)).mono (Nat.le_succ n)).shift
  unfold Crc.feed divideBit
  split
  · exact hpoly.xor shifted
  · exact shifted

theorem Fits.foldl_feed (hpoly : Fits n poly) (positive : 0 < n) {c : BitVec w} (hc : Fits n c)
    (bits : List Bool) : Fits n (bits.foldl (Crc.feed poly) c) := by
  induction bits generalizing c with
  | nil => exact hc
  | cons b bits ih => exact ih (hpoly.feed positive hc b)

/-- Moving a register by one place is multiplying it by `X`; bit 0 leaves at the top. -/
theorem X_mul_registerPoly (positive : 0 < n) {c : BitVec w} (hc : Fits n c) :
    X * registerPoly n c = C (bit (c.getLsbD 0)) * X ^ n + registerPoly n (c >>> 1) := by
  obtain ⟨m, rfl⟩ := Nat.exists_eq_add_of_lt positive
  rw [Nat.zero_add, registerPoly, registerPoly, Finset.sum_range_succ', Finset.sum_range_succ,
    mul_add, Finset.mul_sum, add_comm]
  have last : (c >>> 1).getLsbD m = false := by
    rw [BitVec.getLsbD_ushiftRight]
    exact hc (1 + m) (by omega)
  have zero : bit false = 0 := rfl
  rw [last, zero, C_0, zero_mul, add_zero]
  congr 1
  · rw [Nat.add_sub_cancel, Nat.sub_zero, pow_succ]
    ring
  · refine Finset.sum_congr rfl fun i hi => ?_
    have inside := Finset.mem_range.mp hi
    have power : m + 1 - 1 - i = m + 1 - 1 - (i + 1) + 1 := by omega
    rw [BitVec.getLsbD_ushiftRight, Nat.add_comm 1 i, power, pow_succ]
    ring

/-- **One step of the division**, modulo the divisor. -/
theorem mk_registerPoly_feed (positive : 0 < n) (wide : 0 < w) {c : BitVec w} (hc : Fits n c)
    (b : Bool) :
    AdjoinRoot.mk (divisor n poly) (registerPoly n (feed poly c b)) =
      AdjoinRoot.mk (divisor n poly) (X * registerPoly n c + C (bit b) * X ^ n) := by
  have low : (c ^^^ bitWord w b).getLsbD 0 = (c.getLsbD 0 ^^ b) := by
    simp only [BitVec.getLsbD_xor, getLsbD_bitWord]
    simp [wide]
  have high : (c ^^^ bitWord w b) >>> 1 = c >>> 1 := by
    rw [BitVec.ushiftRight_xor_distrib, bitWord_shift, BitVec.xor_zero]
  have moved : X * registerPoly n c + C (bit b) * X ^ n =
      C (bit (c.getLsbD 0 ^^ b)) * X ^ n + registerPoly n (c >>> 1) := by
    rw [X_mul_registerPoly positive hc, bit_xor, C_add]
    ring
  rw [moved, feed, divideBit, low, high]
  cases c.getLsbD 0 ^^ b with
  | false =>
      have zero : bit false = 0 := rfl
      rw [if_neg Bool.false_ne_true, zero, C_0, zero_mul, zero_add]
  | true =>
      have one : bit true = 1 := rfl
      rw [if_pos rfl, one, C_1, one_mul, registerPoly_xor, AdjoinRoot.mk_eq_mk]
      -- what the step leaves out is the divisor itself
      refine ⟨-1, ?_⟩
      have two : registerPoly n poly + registerPoly n poly = 0 := CharTwo.add_self_eq_zero _
      rw [divisor]
      linear_combination two

/-- The same for a whole message. -/
theorem mk_registerPoly_foldl (hpoly : Fits n poly) (positive : 0 < n) (wide : 0 < w)
    {c : BitVec w} (hc : Fits n c) (bits : List Bool) :
    AdjoinRoot.mk (divisor n poly) (registerPoly n (bits.foldl (feed poly) c)) =
      AdjoinRoot.mk (divisor n poly)
        (X ^ bits.length * registerPoly n c + X ^ n * messagePoly bits) := by
  induction bits using List.reverseRecOn with
  | nil => simp [messagePoly]
  | append_singleton bits b ih =>
      have longer : X ^ (bits ++ [b]).length * registerPoly n c +
          X ^ n * messagePoly (bits ++ [b]) =
          X * (X ^ bits.length * registerPoly n c + X ^ n * messagePoly bits) +
            C (bit b) * X ^ n := by
        rw [messagePoly_append_singleton, List.length_append, List.length_singleton, pow_succ]
        ring
      rw [List.foldl_append, List.foldl_cons, List.foldl_nil,
        mk_registerPoly_feed positive wide (hpoly.foldl_feed positive hc bits), longer, map_add,
        map_add, map_mul, ih, ← map_mul]

/-- **The register holds a remainder.** -/
theorem registerPoly_foldl_feed (hpoly : Fits n poly) (positive : 0 < n) (wide : 0 < w)
    {c : BitVec w} (hc : Fits n c) (bits : List Bool) :
    registerPoly n (bits.foldl (feed poly) c) =
      (X ^ bits.length * registerPoly n c + X ^ n * messagePoly bits) %ₘ divisor n poly := by
  have small : (registerPoly n (bits.foldl (feed poly) c)).degree < (divisor n poly).degree := by
    rw [degree_divisor]
    exact degree_registerPoly_lt n _
  rw [← (modByMonic_eq_self_iff (monic_divisor n poly)).mpr small]
  exact modByMonic_eq_of_dvd_sub (monic_divisor n poly)
    (AdjoinRoot.mk_eq_mk.mp (mk_registerPoly_foldl hpoly positive wide hc bits))

/-! ## Bursts -/

/-- The divisor has no factor `X` if the feedback word sets the highest bit. -/
theorem isCoprime_divisor_X (positive : 0 < n) (top : poly.getLsbD (n - 1) = true) :
    IsCoprime (divisor n poly) (X : (ZMod 2)[X]) := by
  have constant : (divisor n poly).coeff 0 = 1 := by
    have last := coeff_registerPoly poly (Nat.sub_lt positive Nat.one_pos)
    rw [Nat.sub_self, top] at last
    rw [divisor, coeff_add, coeff_X_pow, if_neg (by omega), zero_add, last]
    rfl
  have rest := X_mul_divX_add (divisor n poly)
  rw [constant, C_1] at rest
  exact ⟨1, -(divisor n poly).divX, by linear_combination -rest⟩

/-- **Bursts are detected.**  Two messages that differ only inside a window of at
most `n` bits leave different registers, whatever is before and behind the window. -/
theorem foldl_feed_burst (hpoly : Fits n poly) (top : poly.getLsbD (n - 1) = true)
    (positive : 0 < n) {c : BitVec w} (hc : Fits n c) {front a b back : List Bool}
    (length : a.length = b.length) (short : a.length ≤ n)
    (same : (front ++ a ++ back).foldl (feed poly) c = (front ++ b ++ back).foldl (feed poly) c) :
    a = b := by
  have wide : 0 < w := by
    have inside : n - 1 < w := BitVec.lt_of_getLsbD top
    omega
  have residues := congrArg (fun r => AdjoinRoot.mk (divisor n poly) (registerPoly n r)) same
  rw [mk_registerPoly_foldl hpoly positive wide hc, mk_registerPoly_foldl hpoly positive wide hc,
    AdjoinRoot.mk_eq_mk] at residues
  have window : ∀ e : List Bool, messagePoly (front ++ e ++ back) =
      X ^ back.length * (X ^ e.length * messagePoly front + messagePoly e) + messagePoly back := by
    intro e
    rw [messagePoly_append, messagePoly_append]
  -- both messages move the register they start with by the same length
  have difference : divisor n poly ∣ X ^ (n + back.length) * (messagePoly a - messagePoly b) := by
    have lengths : (front ++ a ++ back).length = (front ++ b ++ back).length := by
      simp [length]
    rw [lengths, window, window, length] at residues
    convert residues using 1
    ring
  have divides : divisor n poly ∣ messagePoly a - messagePoly b :=
    (isCoprime_divisor_X positive top).pow_right.dvd_of_dvd_mul_left difference
  have small : (messagePoly a - messagePoly b).degree < (divisor n poly).degree := by
    have bound : (a.length : WithBot ℕ) ≤ n := by exact_mod_cast short
    rw [degree_divisor]
    refine lt_of_le_of_lt (degree_sub_le _ _) (max_lt ?_ ?_)
    · exact (degree_messagePoly_lt a).trans_le bound
    · exact (degree_messagePoly_lt b).trans_le (length ▸ bound)
  exact messagePoly_injective length (sub_eq_zero.mp (eq_zero_of_dvd_of_degree_lt divides small))

end Division

end SpectrogramServers.Crc
