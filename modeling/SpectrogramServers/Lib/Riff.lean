import SpectrogramServers.Lib.LittleEndian

/-!
# RIFF/WAVE files

A RIFF file is a form of chunks, each an identifier of four bytes, a size and so many
bytes, with a zero behind an odd number of them.  `chunks` walks over them, and
`chunks_flatMap_bytes` is the round trip for every list of chunks: the size of a chunk is
below `2 ^ 32` because a `Chunk` says so itself, so the walk never loses its place.

## PCM

A PCM wave file is a form with a `fmt ` chunk and a `data` chunk.  `readWave` is a strict
reader: it refuses a file whose sizes, byte rate or block align disagree with the other
fields.  A writer that gets one of them wrong is then caught, where a lenient player would
not notice.  Other chunks may stand anywhere, as the format allows.

`encodeWave` writes the two chunks and nothing else, and `readWave_encodeWave` reads it
back.  What has to hold for it is collected in `Fits`: the fields fit into their widths,
and the data is a whole number of blocks.

## 16-bit mono

For a recording of one channel the layout is written out field by field
(`encodeWave_wave`), so that a program that writes its header with a sequence of `fwrite`
calls can be compared with it.  `readMono16` gives the samples with their signs.
-/

namespace SpectrogramServers

/-- A chunk, its identifier and size being what a file can hold. -/
@[ext] structure Chunk where
  ident : List UInt8
  body : List UInt8
  length_ident : ident.length = 4
  length_body : body.length < 2 ^ 32

/-- The zero behind an odd number of bytes. -/
def pad (body : List UInt8) : List UInt8 := List.replicate (body.length % 2) 0

/-- An identifier, the size of a body and the body, padded. -/
def chunkBytes (ident body : List UInt8) : List UInt8 :=
  ident ++ (bytesLE 4 body.length ++ (body ++ pad body))

theorem length_chunkBytes (ident body : List UInt8) :
    (chunkBytes ident body).length = ident.length + 4 + body.length + body.length % 2 := by
  rw [chunkBytes, pad, List.length_append, List.length_append, List.length_append,
    length_bytesLE, List.length_replicate]
  omega

namespace Chunk

/-- A chunk in a file. -/
def bytes (c : Chunk) : List UInt8 := chunkBytes c.ident c.body

/-- The place that a chunk takes in a file. -/
theorem length_bytes (c : Chunk) :
    c.bytes.length = 8 + c.body.length + c.body.length % 2 := by
  rw [bytes, length_chunkBytes, c.length_ident]

end Chunk

/-- The first chunk of some bytes and what is behind it, where the bytes hold a
whole chunk. -/
def firstChunk (bytes : List UInt8) : Option (Chunk × List UInt8) :=
  let size := natLE ((bytes.drop 4).take 4)
  if h : 8 + size + size % 2 ≤ bytes.length ∧ size < 2 ^ 32 then
    some (⟨bytes.take 4, (bytes.drop 8).take size, by simp; omega, by simp; omega⟩,
      bytes.drop (8 + size + size % 2))
  else none

theorem length_of_firstChunk {bytes rest : List UInt8} {c : Chunk}
    (h : firstChunk bytes = some (c, rest)) : rest.length < bytes.length := by
  rw [firstChunk, Option.dite_none_right_eq_some] at h
  obtain ⟨whole, h⟩ := h
  obtain ⟨-, rfl⟩ := Prod.mk.inj (Option.some.inj h)
  rw [List.length_drop]
  omega

/-- The chunks of a form.  The walk ends with the last one, or fails where a chunk is not
whole. -/
def chunks (bytes : List UInt8) : Option (List Chunk) :=
  if bytes = [] then some []
  else
    match _h : firstChunk bytes with
    | none => none
    | some (c, rest) => (chunks rest).map (c :: ·)
  termination_by bytes.length
  decreasing_by exact length_of_firstChunk _h

/-- A chunk is read back and the walk is right behind it. -/
theorem firstChunk_bytes (c : Chunk) (rest : List UInt8) :
    firstChunk (c.bytes ++ rest) = some (c, rest) := by
  have ident : (c.bytes ++ rest).take 4 = c.ident := by
    rw [Chunk.bytes, chunkBytes, List.append_assoc, List.take_left' c.length_ident]
  have behind : (c.bytes ++ rest).drop 4 =
      bytesLE 4 c.body.length ++ (c.body ++ (pad c.body ++ rest)) := by
    rw [Chunk.bytes, chunkBytes, List.append_assoc, List.drop_left' c.length_ident]
    simp only [List.append_assoc]
  have size : natLE (((c.bytes ++ rest).drop 4).take 4) = c.body.length := by
    rw [behind, List.take_left' (length_bytesLE 4 _)]
    exact natLE_bytesLE_of_lt c.length_body
  have body : ((c.bytes ++ rest).drop 8).take c.body.length = c.body := by
    rw [← List.drop_drop (i := 4) (j := 4), behind, List.drop_left' (length_bytesLE 4 _),
      List.take_left]
  have stop : (c.bytes ++ rest).drop (8 + c.body.length + c.body.length % 2) = rest :=
    List.drop_left' c.length_bytes
  have whole : 8 + c.body.length + c.body.length % 2 ≤ (c.bytes ++ rest).length := by
    rw [List.length_append, c.length_bytes]
    omega
  unfold firstChunk
  simp only [size, ident, body, stop]
  rw [dif_pos ⟨whole, c.length_body⟩]

/-- **The walk reads back every list of chunks**, by induction on the list: a chunk is
read and the walk is right behind it. -/
theorem chunks_flatMap_bytes (cs : List Chunk) : chunks (cs.flatMap Chunk.bytes) = some cs := by
  induction cs with
  | nil => rw [List.flatMap_nil, chunks, if_pos rfl]
  | cons c cs ih =>
      have nonempty : c.bytes ++ cs.flatMap Chunk.bytes ≠ [] := by
        intro empty
        have none := congrArg List.length empty
        rw [List.length_append, c.length_bytes, List.length_nil] at none
        omega
      rw [List.flatMap_cons, chunks, if_neg nonempty, firstChunk_bytes]
      show (chunks (cs.flatMap Chunk.bytes)).map (c :: ·) = some (c :: cs)
      rw [ih]
      rfl

/-! ## PCM wave files -/

def riffID : List UInt8 := [0x52, 0x49, 0x46, 0x46]
def waveID : List UInt8 := [0x57, 0x41, 0x56, 0x45]
def fmtID : List UInt8 := [0x66, 0x6d, 0x74, 0x20]
def dataID : List UInt8 := [0x64, 0x61, 0x74, 0x61]

/-- What a `fmt ` chunk says of PCM data. -/
@[ext] structure WaveFormat where
  channels : ℕ
  sampleRate : ℕ
  bitsPerSample : ℕ
  deriving DecidableEq

/-- A PCM wave file: its format and the bytes of its samples. -/
@[ext] structure Wave where
  format : WaveFormat
  data : List UInt8
  deriving DecidableEq

namespace WaveFormat

/-- Bytes of one sample of all channels. -/
def blockAlign (f : WaveFormat) : ℕ := f.channels * f.bitsPerSample / 8

def byteRate (f : WaveFormat) : ℕ := f.sampleRate * f.blockAlign

/-- The fields of the chunk with their widths; 1 is PCM. -/
def fieldList (f : WaveFormat) : List (ℕ × ℕ) :=
  [(2, 1), (2, f.channels), (4, f.sampleRate), (4, f.byteRate), (2, f.blockAlign),
    (2, f.bitsPerSample)]

/-- The format can be written down. -/
structure Fits (f : WaveFormat) : Prop where
  fields : ∀ g ∈ f.fieldList, g.2 < 256 ^ g.1
  whole : f.blockAlign * 8 = f.channels * f.bitsPerSample

end WaveFormat

/-- The format a `fmt ` chunk describes, where it is PCM and its fields agree. -/
def readFormat (body : List UInt8) : Option WaveFormat :=
  match fields [2, 2, 4, 4, 2, 2] body with
  | [audioFormat, channels, sampleRate, byteRate, blockAlign, bitsPerSample] =>
      if 16 ≤ body.length ∧ audioFormat = 1 ∧ byteRate = sampleRate * blockAlign ∧
          blockAlign * 8 = channels * bitsPerSample then
        some ⟨channels, sampleRate, bitsPerSample⟩
      else none
  | _ => none

/-- The wave of a form: its first `fmt ` and its first `data` chunk. -/
def readForm (cs : List Chunk) : Option Wave :=
  (cs.find? fun c => c.ident = fmtID).bind fun fmt =>
    (readFormat fmt.body).bind fun format =>
      (cs.find? fun c => c.ident = dataID).bind fun data =>
        if data.body.length % format.blockAlign = 0 then some ⟨format, data.body⟩ else none

/-- A strict reader of PCM wave files. -/
def readWave (bytes : List UInt8) : Option Wave :=
  if bytes.take 4 = riffID ∧ natLE ((bytes.drop 4).take 4) + 8 = bytes.length ∧
      (bytes.drop 8).take 4 = waveID then
    (chunks (bytes.drop 12)).bind readForm
  else none

/-- A form of type `WAVE`. -/
def riffForm (body : List UInt8) : List UInt8 :=
  riffID ++ (bytesLE 4 (4 + body.length) ++ (waveID ++ body))

/-- A wave file with the two chunks and nothing else. -/
def encodeWave (w : Wave) : List UInt8 :=
  riffForm (chunkBytes fmtID (putFields w.format.fieldList) ++ chunkBytes dataID w.data)

/-- The wave can be written down: its format fits, its size fits, and its data is a whole
number of blocks. -/
structure Wave.Fits (w : Wave) : Prop where
  format : w.format.Fits
  size : 36 + w.data.length + w.data.length % 2 < 2 ^ 32
  whole : w.data.length % w.format.blockAlign = 0

/-- What the reader finds in a form is what its chunks say. -/
theorem readWave_riffForm {body : List UInt8} (size : 4 + body.length < 2 ^ 32) :
    readWave (riffForm body) = (chunks body).bind readForm := by
  have width : (bytesLE 4 (4 + body.length)).length = 4 := length_bytesLE 4 _
  have behind : (riffForm body).drop 4 = bytesLE 4 (4 + body.length) ++ (waveID ++ body) :=
    List.drop_left' rfl
  have behind8 : (riffForm body).drop 8 = waveID ++ body := by
    rw [← List.drop_drop (i := 4) (j := 4), behind, List.drop_left' width]
  have behind12 : (riffForm body).drop 12 = body := by
    rw [← List.drop_drop (i := 4) (j := 8), behind8]
    exact List.drop_left' rfl
  have length : (riffForm body).length = 4 + (4 + (4 + body.length)) := by
    rw [riffForm, List.length_append, List.length_append, List.length_append, width]
    rfl
  have stored : natLE (((riffForm body).drop 4).take 4) = 4 + body.length := by
    rw [behind, List.take_left' width]
    exact natLE_bytesLE_of_lt size
  rw [readWave, stored, behind8, behind12, length]
  exact if_pos ⟨List.take_left' rfl, by omega, List.take_left' rfl⟩

/-- The format is read back. -/
theorem readFormat_fieldList {f : WaveFormat} (fits : f.Fits) :
    readFormat (putFields f.fieldList) = some f := by
  have read := fields_putFields fits.fields []
  rw [List.append_nil] at read
  have values : fields [2, 2, 4, 4, 2, 2] (putFields f.fieldList) =
    [1, f.channels, f.sampleRate, f.byteRate, f.blockAlign, f.bitsPerSample] := read
  have long : 16 ≤ (putFields f.fieldList).length := le_refl 16
  rw [readFormat, values]
  dsimp only
  rw [if_pos ⟨long, rfl, rfl, fits.whole⟩]

/-- **What was written is read back.** -/
theorem readWave_encodeWave {w : Wave} (fits : w.Fits) : readWave (encodeWave w) = some w := by
  have size := fits.size
  let fmt : Chunk := ⟨fmtID, putFields w.format.fieldList, rfl, by show 16 < 2 ^ 32; decide⟩
  let data : Chunk := ⟨dataID, w.data, rfl, by omega⟩
  have walk : chunks (chunkBytes fmtID (putFields w.format.fieldList) ++
      chunkBytes dataID w.data) = some [fmt, data] := by
    have both := chunks_flatMap_bytes [fmt, data]
    rwa [List.flatMap_cons, List.flatMap_cons, List.flatMap_nil, List.append_nil] at both
  have found : readForm [fmt, data] = some w := by
    have isFmt : ([fmt, data].find? fun c => c.ident = fmtID) = some fmt := rfl
    have isData : ([fmt, data].find? fun c => c.ident = dataID) = some data := rfl
    rw [readForm, isFmt, isData, Option.bind_some, readFormat_fieldList fits.format,
      Option.bind_some, Option.bind_some]
    exact if_pos fits.whole
  have fits32 : 4 + (chunkBytes fmtID (putFields w.format.fieldList) ++
      chunkBytes dataID w.data).length < 2 ^ 32 := by
    have sixteen : (putFields w.format.fieldList).length = 16 := rfl
    have four : fmtID.length = 4 ∧ dataID.length = 4 := ⟨rfl, rfl⟩
    rw [List.length_append, length_chunkBytes, length_chunkBytes, sixteen, four.1, four.2]
    omega
  rw [encodeWave, readWave_riffForm fits32, walk, Option.bind_some, found]

/-! ## 16-bit mono -/

/-- A recording of one channel. -/
@[ext] structure Mono16 where
  sampleRate : ℕ
  samples : List Int16
  deriving DecidableEq

/-- The recording in a wave file, where it has one channel of 16 bits. -/
def readMono16 (bytes : List UInt8) : Option Mono16 :=
  (readWave bytes).bind fun w =>
    if w.format.channels = 1 ∧ w.format.bitsPerSample = 16 then
      some ⟨w.format.sampleRate, int16sLE w.data⟩
    else none

/-- The wave file of a recording. -/
def Mono16.wave (r : Mono16) : Wave := ⟨⟨1, r.sampleRate, 16⟩, r.samples.flatMap int16Bytes⟩

theorem Mono16.blockAlign_wave (r : Mono16) : r.wave.format.blockAlign = 2 := by
  simp [wave, WaveFormat.blockAlign]

theorem Mono16.byteRate_wave (r : Mono16) : r.wave.format.byteRate = r.sampleRate * 2 := by
  rw [WaveFormat.byteRate, blockAlign_wave]
  rfl

/-- The fields of the `fmt ` chunk of a recording. -/
theorem Mono16.fieldList_wave (r : Mono16) : r.wave.format.fieldList =
    [(2, 1), (2, 1), (4, r.sampleRate), (4, r.sampleRate * 2), (2, 2), (2, 16)] := by
  rw [WaveFormat.fieldList, byteRate_wave, blockAlign_wave]
  rfl

/-- The layout of the wave file of a recording. -/
theorem encodeWave_wave (r : Mono16) : encodeWave r.wave =
    [riffID, bytesLE 4 (36 + 2 * r.samples.length), waveID, fmtID, bytesLE 4 16, bytesLE 2 1,
      bytesLE 2 1, bytesLE 4 r.sampleRate, bytesLE 4 (r.sampleRate * 2), bytesLE 2 2,
      bytesLE 2 16, dataID, bytesLE 4 (2 * r.samples.length)].flatten ++
    r.samples.flatMap int16Bytes := by
  have data : r.wave.data = r.samples.flatMap int16Bytes := rfl
  have length : (r.samples.flatMap int16Bytes).length = 2 * r.samples.length :=
    length_flatMap_int16Bytes r.samples
  have sixteen : (putFields r.wave.format.fieldList).length = 16 := rfl
  have evenFmt : pad (putFields r.wave.format.fieldList) = [] := by
    rw [pad, sixteen]
    rfl
  have evenData : pad (r.samples.flatMap int16Bytes) = [] := by
    rw [pad, length, Nat.mul_mod_right, List.replicate_zero]
  have form : 4 + (chunkBytes fmtID (putFields r.wave.format.fieldList) ++
      chunkBytes dataID (r.samples.flatMap int16Bytes)).length = 36 + 2 * r.samples.length := by
    have four : fmtID.length = 4 ∧ dataID.length = 4 := ⟨rfl, rfl⟩
    rw [List.length_append, length_chunkBytes, length_chunkBytes, sixteen, length, four.1, four.2]
    omega
  rw [encodeWave, riffForm, data, form, chunkBytes, chunkBytes, sixteen, evenFmt, evenData,
    length, r.fieldList_wave]
  simp only [putFields, List.flatMap_cons, List.flatMap_nil, List.flatten_cons,
    List.flatten_nil, List.append_assoc, List.append_nil]

/-- **A recording is read back**, as long as its byte rate and its size fit. -/
theorem readMono16_encodeWave {r : Mono16} (rate : 2 * r.sampleRate < 2 ^ 32)
    (size : 36 + 2 * r.samples.length < 2 ^ 32) : readMono16 (encodeWave r.wave) = some r := by
  have length : r.wave.data.length = 2 * r.samples.length := length_flatMap_int16Bytes r.samples
  have format : r.wave.format.Fits := by
    refine ⟨?_, by rw [r.blockAlign_wave]; rfl⟩
    rw [r.fieldList_wave]
    simp only [List.forall_mem_cons]
    refine ⟨by decide, by decide, ?_, ?_, by decide, by decide, by simp⟩ <;> omega
  have fits : r.wave.Fits := by
    refine ⟨format, ?_, ?_⟩
    · rw [length]
      omega
    · rw [r.blockAlign_wave, length]
      omega
  rw [readMono16, readWave_encodeWave fits, Option.bind_some, if_pos ⟨rfl, rfl⟩]
  congr 1
  ext1
  · rfl
  · exact int16sLE_int16Bytes r.samples

end SpectrogramServers
