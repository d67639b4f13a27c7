import FrameRgba.ChannelMap

/-!
# Pixel formats

The formats in which a camera may deliver its frames. Every format has a name; nine of them have a
`Layout`, which says how to read a pixel, and only those can be converted.
-/

namespace FrameRgba

inductive PixelFormat where
  | unknown
  | i420
  | yv12
  | nv12
  | nv21
  | uyvy
  | yuy2
  | argb
  | bgra
  | bgr
  | bgrx
  | rgba
  | rgbx
  | rgb
  | mjpeg
  | y8
  | y16
  | z16
  deriving DecidableEq, Repr

instance : Inhabited PixelFormat := ⟨.unknown⟩

/-- The size of a gray sample. -/
inductive GrayDepth where
  | eight
  | sixteen
  deriving DecidableEq, Repr

def GrayDepth.bytes : GrayDepth → Nat
  | .eight => 1
  | .sixteen => 2

/-- How to read a pixel. -/
inductive Layout where
  /-- Samples of a byte each, where the map says. -/
  | packed (map : ChannelMap)
  | gray (depth : GrayDepth)
  deriving DecidableEq, Repr

/-- The distance between neighbouring pixels, in bytes. -/
def Layout.stride (layout : Layout) (options : Options) : Nat :=
  match layout with
  | .packed map => map.stride options
  | .gray depth => depth.bytes

namespace PixelFormat

def all : List PixelFormat :=
  [.unknown, .i420, .yv12, .nv12, .nv21, .uyvy, .yuy2, .argb, .bgra, .bgr, .bgrx, .rgba, .rgbx,
    .rgb, .mjpeg, .y8, .y16, .z16]

theorem mem_all (format : PixelFormat) : format ∈ all := by
  cases format <;> decide

/-- The layout of a format that can be converted. -/
def layout? : PixelFormat → Option Layout
  | .rgba => some (.packed .rgba)
  | .rgbx => some (.packed .rgbx)
  | .rgb => some (.packed .rgb)
  | .bgra => some (.packed .bgra)
  | .bgrx => some (.packed .bgrx)
  | .bgr => some (.packed .bgr)
  | .argb => some (.packed .argb)
  | .y8 => some (.gray .eight)
  | .y16 => some (.gray .sixteen)
  | _ => none

def hasLayout (format : PixelFormat) : Bool :=
  format.layout?.isSome

/-- The formats that can be converted, colour before gray. -/
def convertible : List PixelFormat :=
  [.bgra, .bgrx, .bgr, .rgba, .rgbx, .rgb, .argb, .y8, .y16]

theorem mem_convertible_iff {format : PixelFormat} :
    format ∈ convertible ↔ format.hasLayout = true := by
  cases format <;> decide

/-- Whether every sample has bytes of its own: no chroma shared between pixels, no compression. -/
def hasSeparateSamples : PixelFormat → Bool
  | .bgra | .bgr | .bgrx | .y8 | .y16 | .rgba | .rgbx | .rgb | .argb | .z16 => true
  | _ => false

end PixelFormat

end FrameRgba
