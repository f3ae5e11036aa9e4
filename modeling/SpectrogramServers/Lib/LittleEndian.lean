import Mathlib.Data.Nat.Digits.Defs
import Mathlib.Algebra.Order.Ring.Nat

/-!
# Little-endian numbers

What a little-endian host stores for a number of `k` bytes, and the number those bytes are
read back as.  A program that writes the fields of a header with `fwrite` and one that
reads them again meet in these two functions, so a round trip of a file format comes down
to a round trip of its fields.

* **One number.**  `natLE_bytesLE` is the only fact that is proved by induction: `k` bytes
  keep a number modulo `256 ^ k`.  A number that fits its width comes back
  (`natLE_bytesLE_of_lt`).
* **A record**, that is numbers of given widths one after the other.  `fields_putFields`
  says that the numbers come back if every one fits, whatever follows the record.
* **A sequence of `int16_t`**, which has a sign.  `int16sLE_int16Bytes` says that writing
  and reading are inverse; on an odd number of bytes the reader drops the last.

The bytes of a number are given by recursion on the width and not with `Nat.digits`, since
a field has its width whatever the number is.
-/

namespace SpectrogramServers

/-- The lowest `k` bytes of a number, the lowest first. -/
def bytesLE : ℕ → ℕ → List UInt8
  | 0, _ => []
  | k + 1, n => UInt8.ofNat n :: bytesLE k (n / 256)

/-- The number that bytes stand for, the lowest first. -/
def natLE (bytes : List UInt8) : ℕ := Nat.ofDigits 256 (bytes.map UInt8.toNat)

/-- A field has its width, whatever the number. -/
@[simp] theorem length_bytesLE (k n : ℕ) : (bytesLE k n).length = k := by
  induction k generalizing n with
  | zero => rfl
  | succ k ih => rw [bytesLE, List.length_cons, ih]

/-- **What `k` bytes keep of a number.** -/
theorem natLE_bytesLE (k n : ℕ) : natLE (bytesLE k n) = n % 256 ^ k := by
  induction k generalizing n with
  | zero => rw [pow_zero, Nat.mod_one]; rfl
  | succ k ih =>
      have lowest : (UInt8.ofNat n).toNat = n % 256 := UInt8.toNat_ofNat'
      have rest : Nat.ofDigits 256 ((bytesLE k (n / 256)).map UInt8.toNat) =
          n / 256 % 256 ^ k := ih (n / 256)
      rw [natLE, bytesLE, List.map_cons, Nat.ofDigits_cons, rest, lowest, pow_succ',
        Nat.mod_mul]

/-- A number that fits is read back. -/
theorem natLE_bytesLE_of_lt {k n : ℕ} (fits : n < 256 ^ k) : natLE (bytesLE k n) = n := by
  rw [natLE_bytesLE, Nat.mod_eq_of_lt fits]

theorem natLE_bytesLE_uint16 (x : UInt16) : natLE (bytesLE 2 x.toNat) = x.toNat :=
  natLE_bytesLE_of_lt x.toNat_lt

/-! ## Records of fields -/

/-- Numbers of given widths, one after the other. -/
def putFields (fs : List (ℕ × ℕ)) : List UInt8 := fs.flatMap fun f => bytesLE f.1 f.2

/-- The numbers of given widths at the beginning of some bytes.  Where the bytes end too
early a number is read from those that are left. -/
def fields : List ℕ → List UInt8 → List ℕ
  | [], _ => []
  | k :: ks, bytes => natLE (bytes.take k) :: fields ks (bytes.drop k)

/-- **A record is read back**, where every number fits its width. -/
theorem fields_putFields {fs : List (ℕ × ℕ)} (fit : ∀ f ∈ fs, f.2 < 256 ^ f.1)
    (rest : List UInt8) : fields (fs.map Prod.fst) (putFields fs ++ rest) = fs.map Prod.snd := by
  induction fs with
  | nil => rfl
  | cons f fs ih =>
      have width : (bytesLE f.1 f.2).length = f.1 := length_bytesLE f.1 f.2
      rw [List.forall_mem_cons] at fit
      rw [putFields, List.flatMap_cons, ← putFields, List.append_assoc, List.map_cons, fields,
        List.take_left' width, List.drop_left' width, natLE_bytesLE_of_lt fit.1, ih fit.2,
        List.map_cons]

/-! ## Sequences of `int16_t` -/

/-- The two bytes of an `int16_t`. -/
def int16Bytes (x : Int16) : List UInt8 := bytesLE 2 x.toUInt16.toNat

/-- A whole number of `int16_t`, one after the other; what is left over is
dropped. -/
def int16sLE : List UInt8 → List Int16
  | low :: high :: bytes => (UInt16.ofNat (natLE [low, high])).toInt16 :: int16sLE bytes
  | _ => []

@[simp] theorem length_int16Bytes (x : Int16) : (int16Bytes x).length = 2 := length_bytesLE 2 _

theorem length_flatMap_int16Bytes (xs : List Int16) :
    (xs.flatMap int16Bytes).length = 2 * xs.length := by
  induction xs with
  | nil => rfl
  | cons x xs ih =>
      rw [List.flatMap_cons, List.length_append, ih, length_int16Bytes, List.length_cons]
      omega

/-- **Samples are read back.** -/
theorem int16sLE_int16Bytes (xs : List Int16) : int16sLE (xs.flatMap int16Bytes) = xs := by
  induction xs with
  | nil => rfl
  | cons x xs ih =>
      have two : natLE (int16Bytes x) = x.toUInt16.toNat := natLE_bytesLE_uint16 _
      have pair : int16Bytes x = [UInt8.ofNat x.toUInt16.toNat,
        UInt8.ofNat (x.toUInt16.toNat / 256)] := rfl
      rw [pair] at two
      rw [List.flatMap_cons, pair, List.cons_append, List.cons_append, List.nil_append, int16sLE,
        two, ih, UInt16.ofNat_toNat, Int16.toInt16_toUInt16]

end SpectrogramServers
