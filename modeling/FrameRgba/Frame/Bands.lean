import FrameRgba.Converter

/-!
# Conversion in bands

The destination is cut into chunks of the same number of rows, the last one maybe shorter, and each
chunk is converted on its own. The chunks share no byte, so they may be converted in any order: a
`Schedule` chooses one.
-/

namespace FrameRgba

/-- A piece of a buffer. -/
structure Chunk where
  index : Nat
  start : Nat
  stop : Nat
  deriving DecidableEq, Repr

/-- The consecutive chunks of `length` items of a buffer of `size` items. The last one has what is
left. That these are the chunks which are handed out for work in parallel, each of them once and
with its own index, is assumed of the library that hands them out. When each is converted is not
(`Schedule`). -/
def Chunk.cut (size length : Nat) : Checked (List Chunk) :=
  if length = 0 then .error .emptyChunk
  else .ok ((List.range ((size + length - 1) / length)).map fun i =>
    ⟨i, i * length, min (i * length + length) size⟩)

/-- An order in which the chunks are converted. -/
structure Schedule where
  arrange : List Chunk → List Chunk
  perm : ∀ chunks, (arrange chunks).Perm chunks

/-- From the first chunk to the last. -/
def Schedule.inOrder : Schedule :=
  ⟨id, List.Perm.refl⟩

namespace Frame

/-- Convert the rows of one chunk of the destination. Chunk `i` holds `bandRows` rows from row
`i * bandRows` on, or fewer where the frame ends. -/
def convertChunk (frame : Frame) (converter : Converter) (bandRows : UInt32) (chunk : Chunk)
    (dst : Bytes) : Outcome FrameError Bytes :=
  .checked (Word.fit 32 chunk.index) fun index =>
  .checked (Word.mul 32 index bandRows.toNat) fun start =>
  let stop := min (Word.addSaturating 32 start bandRows.toNat) frame.dims.height.toNat
  .within dst chunk.start chunk.stop
    (converter.convertRange frame.dims ⟨.ofNat start, .ofNat stop⟩ frame.raw)

/-- Convert the whole frame in bands of `rowsPerBand` rows, after both buffers were checked. A band
has at least one row and at most all of them. -/
def writeBands (frame : Frame) (converter : Converter) (schedule : Schedule)
    (rowsPerBand : UInt32) (dst : Bytes) : Outcome FrameError Bytes :=
  .require (frame.dims.checkConversion converter.stride frame.raw.size dst.size) dst fun _ =>
  if dst.size = 0 then .done dst
  else
    .checked (Word.clamp rowsPerBand.toNat 1 frame.dims.height.toNat) fun bandRows =>
    .checked (Word.mul Word.sizeBits bandRows frame.dims.width.toNat) fun bandPixels =>
    .checked (Word.mul Word.sizeBits bandPixels 4) fun bandSize =>
    .checked (Chunk.cut dst.size bandSize) fun chunks =>
    .inTurn (frame.convertChunk converter (.ofNat bandRows)) (schedule.arrange chunks) dst

/-- Convert the frame to RGBA in bands. -/
def convertInBands (frame : Frame) (options : Options) (rowsPerBand : UInt32) (dst : Bytes)
    (schedule : Schedule) : Reported (Outcome ConversionError Bytes) :=
  (frame.withConverter options dst fun converter =>
      frame.writeBands converter schedule rowsPerBand dst).report
    [.bandsConverted frame.format frame.dims rowsPerBand]
    fun error => [.frameRefused frame.format frame.dims error]

end Frame

end FrameRgba
