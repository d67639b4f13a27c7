import FrameRgba.Kernel.Checks
import FrameRgba.PixelFormat.Encoding

/-!
# Dimensions, and reasons to refuse a conversion

The numbers that describe a frame and a part of it are 32-bit words and may be any such words:
whether they go together with each other and with the buffers is checked where they are used. A
conversion is refused because they do not, or because its format has no layout. The texts are the
ones that are shown and logged.
-/

namespace FrameRgba

/-! ## Dimensions and row ranges -/

/-- The size of a frame or an image in pixels. -/
structure Dims where
  width : UInt32
  height : UInt32
  deriving DecidableEq, Repr

/-- The rows from `start` on, up to `stop`. -/
structure RowRange where
  start : UInt32
  stop : UInt32
  deriving DecidableEq, Repr

/-- The rows are rows of an image of this height. -/
def RowRange.Within (rows : RowRange) (height : UInt32) : Prop :=
  rows.start ≤ rows.stop ∧ rows.stop ≤ height

instance (rows : RowRange) (height : UInt32) : Decidable (rows.Within height) :=
  inferInstanceAs (Decidable (_ ∧ _))

/-! ## Errors -/

/-- The frame and its buffers do not go together. -/
inductive FrameError where
  /-- The conversion reads `needed` bytes, and the source has fewer. -/
  | shortSource (needed actual : Nat)
  /-- The destination has to have `expected` bytes. -/
  | wrongDestination (expected actual : Nat)
  /-- The size of the image is no 64-bit word. -/
  | tooLarge (dims : Dims)
  | rowsOutside (rows : RowRange) (height : UInt32)
  /-- An image without columns cannot be made. -/
  | noColumns (height : UInt32)
  | kernel (error : KernelError)
  deriving DecidableEq, Repr

def FrameError.message : FrameError → String
  | .shortSource needed actual =>
    "source too short: need " ++ toString needed ++ " bytes, got " ++ toString actual
  | .wrongDestination expected actual =>
    "destination must be exactly " ++ toString expected ++ " bytes, got " ++ toString actual
  | .tooLarge dims =>
    "dimensions overflow: " ++ toString dims.width ++ "x" ++ toString dims.height
  | .rowsOutside rows height =>
    "rows " ++ toString rows.start ++ ".." ++ toString rows.stop ++
      " outside image height " ++ toString height
  | .noColumns height =>
    "image of width 0 and height " ++ toString height ++ " has no representable rows"
  | .kernel error => error.message

/-- A conversion is refused. -/
inductive ConversionError where
  | unsupported (format : PixelFormat)
  | malformed (error : FrameError)
  deriving DecidableEq, Repr

namespace ConversionError

def message : ConversionError → String
  | .unsupported format => "unsupported pixel format: " ++ format.wireName
  | .malformed error => "malformed frame: " ++ error.message

/-- Whether the format is to blame. -/
def isUnsupported : ConversionError → Bool
  | .unsupported _ => true
  | .malformed _ => false

end ConversionError

end FrameRgba
