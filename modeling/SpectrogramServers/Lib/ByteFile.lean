import Mathlib.Data.List.Basic

/-!
# Files of bytes

A `FILE` opened for writing: its bytes and its position.  `fwrite` writes whole items at
the position and may stop early, `fseek` moves the position from the start of the file.
That is all a program needs that writes a header, appends data, and goes back to patch the
header when it knows the size.

Two things can be said about a write, and nothing else is needed:

* **at the end of the file it appends** (`write_atEnd`), and leaves the position at the
  end, so writes that follow each other lay their data out one behind the other
  (`writes_atEnd`);
* **inside the file it replaces** exactly as many bytes as it writes, and everything
  before and behind stays (`write_inside`).

`write` itself is total, as the C library is: behind the end it fills the gap with zeros.
The device is a number, how many items it takes before it fails; the result of `fwrite` is
the number it has taken.
-/

namespace SpectrogramServers

/-- An open file: what is in it, and where the next write goes. -/
@[ext] structure ByteFile where
  bytes : List UInt8
  pos : ℕ

namespace ByteFile

/-- `fopen(name, "wb+")`: whatever was there is gone. -/
def create : ByteFile := ⟨[], 0⟩

/-- `fseek(fp, pos, SEEK_SET)`. -/
def fseek (pos : ℕ) (f : ByteFile) : ByteFile := { f with pos := pos }

/-- Bytes go to the position, over what is there; a gap behind the end is filled
with zeros. -/
def write (data : List UInt8) (f : ByteFile) : ByteFile where
  bytes := (f.bytes ++ List.replicate (f.pos - f.bytes.length) 0).take f.pos ++ data ++
    f.bytes.drop (f.pos + data.length)
  pos := f.pos + data.length

/-- The items an `fwrite` stores when the device takes `stored` of them, and the number it
returns.  Items are stored whole or not at all. -/
def fwrite (items : List (List UInt8)) (stored : ℕ) (f : ByteFile) : ByteFile × ℕ :=
  (f.write (items.take stored).flatten, (items.take stored).length)

/-- Nothing is behind the position. -/
def AtEnd (f : ByteFile) : Prop := f.pos = f.bytes.length

@[simp] theorem create_atEnd : create.AtEnd := rfl

/-- At the end of the file a write appends. -/
theorem write_atEnd {f : ByteFile} (atEnd : f.AtEnd) (data : List UInt8) :
    f.write data = ⟨f.bytes ++ data, f.bytes.length + data.length⟩ := by
  unfold AtEnd at atEnd
  ext1
  · show (f.bytes ++ List.replicate (f.pos - f.bytes.length) 0).take f.pos ++ data ++
        f.bytes.drop (f.pos + data.length) = f.bytes ++ data
    rw [atEnd, Nat.sub_self, List.replicate_zero, List.append_nil, List.take_length,
      List.drop_eq_nil_of_le (Nat.le_add_right _ _), List.append_nil]
  · show f.pos + data.length = f.bytes.length + data.length
    rw [atEnd]

/-- After a write at the end the position is at the end. -/
theorem AtEnd.write {f : ByteFile} (atEnd : f.AtEnd) (data : List UInt8) :
    (f.write data).AtEnd := by
  rw [write_atEnd atEnd, AtEnd, List.length_append]

theorem AtEnd.bytes_write {f : ByteFile} (atEnd : f.AtEnd) (data : List UInt8) :
    (f.write data).bytes = f.bytes ++ data := by
  rw [write_atEnd atEnd]

/-- One write after the other. -/
def writes (fields : List (List UInt8)) (f : ByteFile) : ByteFile :=
  fields.foldl (fun g data => g.write data) f

/-- **Writes at the end lay the fields out** one behind the other. -/
theorem writes_atEnd (fields : List (List UInt8)) {f : ByteFile} (atEnd : f.AtEnd) :
    (f.writes fields).bytes = f.bytes ++ fields.flatten ∧ (f.writes fields).AtEnd := by
  induction fields generalizing f with
  | nil => exact ⟨(List.append_nil f.bytes).symm, atEnd⟩
  | cons data fields ih =>
      obtain ⟨laid, last⟩ := ih (atEnd.write data)
      refine ⟨?_, last⟩
      rw [List.flatten_cons, ← List.append_assoc, ← atEnd.bytes_write data]
      exact laid

/-- **Inside the file a write replaces** the bytes between what is before the
position and what is behind the bytes written. -/
theorem write_inside (replaced : List UInt8) {f : ByteFile} {before behind data : List UInt8}
    (split : f.bytes = before ++ (replaced ++ behind)) (start : f.pos = before.length)
    (size : data.length = replaced.length) :
    (f.write data).bytes = before ++ (data ++ behind) := by
  have inside : f.pos - f.bytes.length = 0 := by
    rw [start, split, List.length_append]
    omega
  have stop : f.pos + data.length = (before ++ replaced).length := by
    rw [start, size, List.length_append]
  show (f.bytes ++ List.replicate (f.pos - f.bytes.length) 0).take f.pos ++ data ++
    f.bytes.drop (f.pos + data.length) = before ++ (data ++ behind)
  rw [inside, List.replicate_zero, List.append_nil, stop, split, start, List.take_left,
    ← List.append_assoc before replaced, List.drop_left, List.append_assoc]

end ByteFile

end SpectrogramServers
