import FrameRgba.Outcome
import FrameRgba.Kernel.Packed
import FrameRgba.Kernel.Gray

/-!
# Checked runs of the kernels

The kernels as a caller with plain buffers uses them. First the channel map has to fit the stride,
then the source has to be a positive number of whole pixels, then the destination has to have room
for all of them; a longer destination keeps its tail. Nothing is written before all of this holds.

The kernel then runs on the tier of the machine. That one tier does what the other does is shown in
`FrameRgba.Proofs.Writes`, so where nothing is said about the tier it is the wide one.
-/

namespace FrameRgba

/-- Why a kernel does not run on its buffers. -/
inductive KernelError where
  /-- The source holds no pixel or a part of one. -/
  | notWholePixels
  /-- The destination has no room for all pixels. -/
  | tooManyPixels
  | mapMisfit
  deriving DecidableEq, Repr

def KernelError.message : KernelError → String
  | .notWholePixels => "buffer is empty or not a whole number of pixels"
  | .tooManyPixels => "destination is smaller than the source pixel count"
  | .mapMisfit => "source stride does not fit the channel layout"

namespace Kernel

/-- The map has to fit the stride, which its greatest offset decides. -/
def checkFit (map : ChannelMap) (stride : Nat) : Except KernelError Unit :=
  if stride ∈ map.strides ∧ map.maxOffset.toNat < stride then .ok () else .error .mapMisfit

/-- The source has to be whole pixels, and the destination as many RGBA pixels or more. -/
def checkSizes (sourceSize stride destinationSize : Nat) : Checked (Except KernelError Unit) :=
  if sourceSize = 0 ∨ sourceSize % stride ≠ 0 then
    pure (.error .notWholePixels)
  else
    (Word.mul Word.sizeBits (sourceSize / stride) 4).map fun needed =>
      if destinationSize < needed then .error .tooManyPixels else .ok ()

/-- Convert packed pixels `stride` bytes apart to RGBA. -/
def writePacked (src dst : Bytes) (map : ChannelMap) (stride : Nat) (tier : Tier := .wide) :
    Outcome KernelError Bytes :=
  .require (checkFit map stride) dst fun _ =>
  .checked (checkSizes src.size stride dst.size) fun sizes =>
  .require sizes dst fun _ =>
  .checked (packed map stride) fun kernel =>
  .checked (kernel.runOn tier src dst) .done

def writeGray8 (src dst : Bytes) (tier : Tier := .wide) : Outcome KernelError Bytes :=
  .checked (checkSizes src.size 1 dst.size) fun sizes =>
  .require sizes dst fun _ =>
  .checked (gray8.runOn tier src dst) .done

def writeGray16 (src dst : Bytes) (rounding : Rounding) (tier : Tier := .wide) :
    Outcome KernelError Bytes :=
  .checked (checkSizes src.size 2 dst.size) fun sizes =>
  .require sizes dst fun _ =>
  .checked ((gray16 rounding).runOn tier src dst) .done

end Kernel

end FrameRgba
