import FrameRgba.Error

/-!
# Frames and the sizes of their buffers

A frame is a format, dimensions and the bytes that a camera delivered. The sizes in bytes that
follow from its dimensions are computed with 64-bit words; dimensions for which such a size is no
word are refused.
-/

namespace FrameRgba

/-- A frame as a camera delivers it. -/
structure Frame where
  dims : Dims
  format : PixelFormat
  raw : Bytes
  deriving DecidableEq

namespace Dims

/-- A size that follows from these dimensions, or the refusal of them. -/
def sized (dims : Dims) (size : Option Nat) : Except FrameError Nat :=
  match size with
  | some n => .ok n
  | none => .error (.tooLarge dims)

def area (dims : Dims) : Except FrameError Nat :=
  dims.sized (Word.mul? dims.width.toNat dims.height.toNat)

/-- The number of bytes of an image with `stride` bytes for each pixel. -/
def imageSize (dims : Dims) (stride : Nat) : Except FrameError Nat := do
  let pixels ← dims.area
  dims.sized (Word.mul? pixels stride)

/-- The number of source bytes to read, if the source has them. It may have more. -/
def checkSource (dims : Dims) (stride sourceSize : Nat) : Except FrameError Nat := do
  let needed ← dims.imageSize stride
  if sourceSize < needed then .error (.shortSource needed sourceSize) else .ok needed

/-- The number of source bytes to read, if the destination is exactly the RGBA image and the source
has enough bytes. -/
def checkConversion (dims : Dims) (stride sourceSize destinationSize : Nat) :
    Except FrameError Nat := do
  let expected ← dims.imageSize 4
  if destinationSize ≠ expected then .error (.wrongDestination expected destinationSize)
  else dims.checkSource stride sourceSize

theorem area_eq_ok (dims : Dims) :
    dims.area = .ok (dims.width.toNat * dims.height.toNat) := by
  have h : dims.width.toNat * dims.height.toNat < Word.limit Word.sizeBits := by
    calc dims.width.toNat * dims.height.toNat
        < 2 ^ 32 * 2 ^ 32 := Nat.mul_lt_mul'' dims.width.toNat_lt dims.height.toNat_lt
      _ = Word.limit Word.sizeBits := rfl
  simp [area, sized, Word.mul?, h]

theorem imageSize_eq (dims : Dims) (stride : Nat) :
    dims.imageSize stride =
      if dims.width.toNat * dims.height.toNat * stride < Word.limit Word.sizeBits then
        .ok (dims.width.toNat * dims.height.toNat * stride)
      else .error (.tooLarge dims) := by
  rw [imageSize, area_eq_ok]
  change dims.sized (Word.mul? _ _) = _
  unfold Word.mul?
  split <;> rfl

end Dims

namespace Frame

def area (frame : Frame) : Except FrameError Nat :=
  frame.dims.area

/-- The size of the frame as RGBA, in bytes. -/
def rgbaSize (frame : Frame) : Except FrameError Nat :=
  frame.dims.imageSize 4

/-- The number of bytes that a conversion of the frame reads. -/
def sourceSize (frame : Frame) (options : Options) : Except ConversionError Nat :=
  match frame.format.layout? with
  | some layout => (frame.dims.imageSize (layout.stride options)).mapError .malformed
  | none => .error (.unsupported frame.format)

end Frame

end FrameRgba
