import FrameRgba.Event
import FrameRgba.Frame

/-!
# Converters

A converter is a format with its layout looked up, and options; it can be used for any number of
frames. It converts a whole image or a range of rows of one, and in both cases checks the sizes of
the buffers before anything is written. It logs nothing.

The entry points for a single call, `Frame.convert` for a whole frame and `Frame.convertRange` for
some of its rows, make the converter, use it once and log one event.
-/

namespace FrameRgba

/-! ## Images of one layout -/

/-- Convert a packed image through any channel map. The map is looked at only if there are
pixels. -/
def ChannelMap.convert (map : ChannelMap) (options : Options) (dims : Dims) (src dst : Bytes) :
    Outcome FrameError Bytes :=
  let stride := map.stride options
  .require (dims.checkConversion stride src.size dst.size) dst fun needed =>
  if needed = 0 then .done dst
  else
    .checked (Buffer.window src 0 needed) fun pixels =>
    (Kernel.writePacked pixels dst map stride).mapError .kernel

def GrayDepth.convert (depth : GrayDepth) (options : Options) (dims : Dims) (src dst : Bytes) :
    Outcome FrameError Bytes :=
  .require (dims.checkConversion depth.bytes src.size dst.size) dst fun needed =>
  if needed = 0 then .done dst
  else
    .checked (Buffer.window src 0 needed) fun samples =>
    Outcome.mapError .kernel <|
      match depth with
      | .eight => Kernel.writeGray8 samples dst
      | .sixteen => Kernel.writeGray16 samples dst options.rounding

def Layout.convert (layout : Layout) (options : Options) (dims : Dims) (src dst : Bytes) :
    Outcome FrameError Bytes :=
  match layout with
  | .packed map => map.convert options dims src dst
  | .gray depth => depth.convert options dims src dst

/-! ## Converters -/

/-- A format that can be converted, and how. -/
structure Converter where
  format : PixelFormat
  layout : Layout
  options : Options
  layout_eq : format.layout? = some layout
  deriving DecidableEq

namespace Converter

/-- The converter for a format, if the format has a layout. -/
def ofFormat (format : PixelFormat) (options : Options) : Except ConversionError Converter :=
  match h : format.layout? with
  | some layout => .ok ⟨format, layout, options, h⟩
  | none => .error (.unsupported format)

theorem ofFormat_eq_ok {format : PixelFormat} {layout : Layout}
    (h : format.layout? = some layout) (options : Options) :
    ofFormat format options = .ok ⟨format, layout, options, h⟩ := by
  unfold ofFormat
  split
  · rename_i found hfound
    cases hfound.symm.trans h
    rfl
  · rename_i hnone
    cases hnone.symm.trans h

theorem ofFormat_eq_error {format : PixelFormat} (h : format.layout? = none)
    (options : Options) : ofFormat format options = .error (.unsupported format) := by
  unfold ofFormat
  split
  · rename_i found hfound
    cases hfound.symm.trans h
  · rfl

/-- The distance between neighbouring pixels of the source, in bytes. -/
def stride (converter : Converter) : Nat :=
  converter.layout.stride converter.options

def convert (converter : Converter) (dims : Dims) (src dst : Bytes) :
    Outcome FrameError Bytes :=
  converter.layout.convert converter.options dims src dst

/-- The rows have to be rows of the image. -/
def checkRows (rows : RowRange) (height : UInt32) : Except FrameError Unit :=
  if rows.Within height then .ok () else .error (.rowsOutside rows height)

/-- Convert some rows of an image. The source is the whole image and the destination these rows
only; they are converted like an image of their own. -/
def convertRange (converter : Converter) (dims : Dims) (rows : RowRange) (src dst : Bytes) :
    Outcome FrameError Bytes :=
  .require (checkRows rows dims.height) dst fun _ =>
  .require (dims.checkSource converter.stride src.size) dst fun _ =>
  .require (Dims.imageSize ⟨dims.width, 1⟩ converter.stride) dst fun rowSize =>
  .checked (Word.mul Word.sizeBits rows.start.toNat rowSize) fun start =>
  .checked (Word.mul Word.sizeBits rows.stop.toNat rowSize) fun stop =>
  .checked (Buffer.window src start stop) fun band =>
  .checked (Word.sub rows.stop.toNat rows.start.toNat) fun count =>
  converter.convert ⟨dims.width, .ofNat count⟩ band dst

end Converter

/-! ## Frames -/

namespace Frame

/-- Make the converter for the frame's format and write with it. -/
def withConverter {σ : Type} (frame : Frame) (options : Options) (dst : σ)
    (write : Converter → Outcome FrameError σ) : Outcome ConversionError σ :=
  .require (Converter.ofFormat frame.format options) dst fun converter =>
  (write converter).mapError .malformed

theorem withConverter_eq {σ : Type} {frame : Frame} {layout : Layout}
    (h : frame.format.layout? = some layout) (options : Options) (dst : σ)
    (write : Converter → Outcome FrameError σ) :
    frame.withConverter options dst write =
      (write ⟨frame.format, layout, options, h⟩).mapError .malformed := by
  rw [withConverter, Converter.ofFormat_eq_ok h, Outcome.require_ok]

/-- Convert the frame to RGBA. -/
def convert (frame : Frame) (options : Options) (dst : Bytes) :
    Reported (Outcome ConversionError Bytes) :=
  (frame.withConverter options dst fun converter =>
      converter.convert frame.dims frame.raw dst).report
    [.frameConverted frame.format frame.dims]
    fun error => [.frameRefused frame.format frame.dims error]

/-- Convert some rows of the frame to RGBA. The destination holds these rows only. -/
def convertRange (frame : Frame) (options : Options) (rows : RowRange) (dst : Bytes) :
    Reported (Outcome ConversionError Bytes) :=
  (frame.withConverter options dst fun converter =>
      converter.convertRange frame.dims rows frame.raw dst).report
    [.rowsConverted frame.format frame.dims.width rows]
    fun error => [.rowsRefused frame.format frame.dims rows error]

end Frame

end FrameRgba
