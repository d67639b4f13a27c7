import FrameRgba.Pixel

/-!
# Images

An image is a buffer of pixels with rows `stride` pixels apart; what lies between the rows and after
the last one is not part of the image. `Frame.convertInto` converts into an image that the caller
has, row by row, and `Frame.toImage` makes a new one.
-/

namespace FrameRgba

/-- Pixels in rows. -/
structure Image where
  pixels : Array Rgba
  dims : Dims
  stride : Nat
  stride_pos : 0 < stride
  width_le_stride : dims.width.toNat ≤ stride
  /-- Every pixel of the image lies in the buffer. For an image that a caller brings, this is the
  documented precondition on its buffer and nothing that its constructor checks; `make` does. -/
  fits : ∀ x y, x < dims.width.toNat → y < dims.height.toNat → y * stride + x < pixels.size

namespace Image

/-- The image of these dimensions in a buffer, if its rows do not overlap and the buffer holds all
of them. -/
def make (dims : Dims) (stride : Nat) (pixels : Array Rgba) : Checked Image :=
  let width := dims.width.toNat
  let height := dims.height.toNat
  let size := if width = 0 ∨ height = 0 then 0 else (height - 1) * stride + width
  if hpos : stride = 0 then .error .emptyChunk
  else if hwidth : stride < width then .error (.outOfBounds width stride)
  else if hsize : pixels.size < size then .error (.outOfBounds size pixels.size)
  else .ok {
    pixels, dims, stride
    stride_pos := Nat.pos_of_ne_zero hpos
    width_le_stride := Nat.le_of_not_lt hwidth
    fits := fun x y hx hy => by
      have hrow : y * stride ≤ (height - 1) * stride := Nat.mul_le_mul_right _ (by omega)
      have : size = (height - 1) * stride + width := if_neg (by omega)
      omega }

/-- The number of rows that are visited. An image is assumed to yield each of its rows once, from
the first to the last, and these are `height` rows if it has columns. Rows are cut from the buffer,
and an image without columns asks nothing of its buffer: a row that would begin behind the end of it
is never reached. Such rows hold nothing, so no pixel tells how many of them were visited. -/
def rowCount (image : Image) : Nat :=
  min image.dims.height.toNat (image.pixels.size / image.stride + 1)

/-- The image with other pixels from `start` on. -/
def overwrite (image : Image) (start : Nat) (pixels : Array Rgba) : Image :=
  { image with
    pixels := Buffer.overwrite image.pixels start pixels.toList
    fits := by rw [Buffer.size_overwrite]; exact image.fits }

/-- Run a write on the pixels of row `y`. They are assumed to be the `width` pixels from `y * stride`
on. -/
def withinRow {ε : Type} (image : Image) (y : Nat)
    (write : Array Rgba → Outcome ε (Array Rgba)) : Outcome ε Image :=
  let start := y * image.stride
  .checked (Buffer.window image.pixels start (start + image.dims.width.toNat)) fun row =>
  (write row).map (image.overwrite start)

end Image

namespace Frame

/-- Convert row `y` of the frame into row `y` of the image. -/
def convertImageRow (frame : Frame) (converter : Converter) (y : Nat) (image : Image) :
    Outcome FrameError Image :=
  .checked (Word.add 32 y 1) fun next =>
  image.withinRow y fun row =>
  Rgba.asBytes row (converter.convertRange frame.dims ⟨.ofNat y, .ofNat next⟩ frame.raw)

/-- The image has to have the dimensions of the frame. If it has not, the sizes in bytes are
reported, which may be the same. -/
def checkImage (frame : Frame) (image : Image) : Checked (Except FrameError Unit) :=
  if image.dims = frame.dims then pure (.ok ())
  else
    match frame.rgbaSize with
    | .error e => pure (.error e)
    | .ok expected => do
      let pixels ← Word.mul Word.sizeBits image.dims.width.toNat image.dims.height.toNat
      let actual ← Word.mul Word.sizeBits pixels 4
      pure (.error (.wrongDestination expected actual))

/-- Convert the frame into an image of the same dimensions. -/
def writeImage (frame : Frame) (converter : Converter) (image : Image) :
    Outcome FrameError Image :=
  .checked (frame.checkImage image) fun dims =>
  .require dims image fun _ =>
  .require (frame.dims.checkSource converter.stride frame.raw.size) image fun _ =>
  .inTurn (frame.convertImageRow converter) (List.range image.rowCount) image

/-- Convert the frame into an image that the caller has. Only a refusal is logged. -/
def convertInto (frame : Frame) (options : Options) (image : Image) :
    Reported (Outcome ConversionError Image) :=
  (frame.withConverter options image fun converter =>
      frame.writeImage converter image).report
    [] fun error => [.imageRefused frame.format error]

/-- Make an image of the frame's pixels, its rows without space between them. There is none without
columns, which is found only after the conversion was logged. -/
def toImage (frame : Frame) (options : Options) :
    Reported (Checked (Except ConversionError Image)) :=
  match frame.area with
  | .error e => ⟨pure (.error (.malformed e)), []⟩
  | .ok count =>
    (frame.convertPixels options (Array.replicate count ⟨0, 0, 0, 0⟩)).map fun outcome =>
      match outcome with
      | .done pixels =>
        if frame.dims.width = 0 then
          pure (.error (.malformed (.noColumns frame.dims.height)))
        else
          (Image.make frame.dims frame.dims.width.toNat pixels).map .ok
      | .refused e _ => pure (.error e)
      | .fault cause => .error cause

end Frame

end FrameRgba
