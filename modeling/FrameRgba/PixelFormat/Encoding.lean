import FrameRgba.PixelFormat

/-!
# Pixel formats as text

A format has a short name, such as `BGRA`, and a wire name, which puts `PIXEL_FORMAT_` in front of
it. Both are read without regard to the case of ASCII letters. `ofName` takes what it does not know
for `unknown`; `parse` tells the name of that format from text that names none.

ROS image messages have encoding strings of their own for some formats. Case matters in them, and
several encodings may stand for one format.
-/

namespace FrameRgba.PixelFormat

/-! ## Names -/

def name : PixelFormat → String
  | .unknown => "UNKNOWN"
  | .i420 => "I420"
  | .yv12 => "YV12"
  | .nv12 => "NV12"
  | .nv21 => "NV21"
  | .uyvy => "UYVY"
  | .yuy2 => "YUY2"
  | .argb => "ARGB"
  | .bgra => "BGRA"
  | .bgr => "BGR"
  | .bgrx => "BGRX"
  | .rgba => "RGBA"
  | .rgbx => "RGBX"
  | .rgb => "RGB"
  | .mjpeg => "MJPEG"
  | .y8 => "Y8"
  | .y16 => "Y16"
  | .z16 => "Z16"

/-- What stands in front of the short name on the wire. -/
def wirePrefix : String :=
  "PIXEL_FORMAT_"

/-- The name of a format on the wire and in messages. -/
def wireName (format : PixelFormat) : String :=
  wirePrefix ++ format.name

/-- The same text but for the case of ASCII letters. -/
def SameName (a b : List Char) : Prop :=
  a.map Char.toLower = b.map Char.toLower

instance (a b : List Char) : Decidable (SameName a b) :=
  inferInstanceAs (Decidable (_ = _))

/-- The text before and after its first `n` bytes in UTF-8, unless it is shorter or a character lies
on both sides of the cut. -/
def splitAtByte? : Nat → List Char → Option (List Char × List Char)
  | 0, text => some ([], text)
  | _ + 1, [] => none
  | n + 1, c :: text =>
    if c.utf8Size ≤ n + 1 then
      (splitAtByte? (n + 1 - c.utf8Size) text).map fun (before, after) => (c :: before, after)
    else
      none

theorem append_of_splitAtByte? {n : Nat} {text before after : List Char}
    (h : splitAtByte? n text = some (before, after)) : before ++ after = text := by
  fun_induction splitAtByte? n text generalizing before after with
  | case1 text => simp_all
  | case2 n => simp at h
  | case3 n c text fits ih =>
    obtain ⟨⟨first, rest⟩, hsplit, heq⟩ := Option.map_eq_some_iff.1 h
    obtain ⟨rfl, rfl⟩ := Prod.mk.inj heq
    rw [List.cons_append, ih hsplit]
  | case4 n c text fits => simp at h

/-- A name without the wire prefix, if it begins with it. No more than one is taken off. -/
def withoutWirePrefix (text : List Char) : List Char :=
  match splitAtByte? wirePrefix.utf8ByteSize text with
  | some (before, after) => if SameName before wirePrefix.toList then after else text
  | none => text

/-- The format of a short name or a wire name, or `unknown`. -/
def ofName (text : String) : PixelFormat :=
  let short := withoutWirePrefix text.toList
  (all.find? fun format => SameName format.name.toList short).getD .unknown

inductive NameError where
  | unrecognized
  deriving DecidableEq, Repr

def NameError.message : NameError → String
  | .unrecognized => "unknown pixel format name"

/-- The text is a name of the format `unknown`. -/
def NamesUnknown (text : String) : Prop :=
  SameName text.toList unknown.name.toList ∨ SameName text.toList unknown.wireName.toList

instance (text : String) : Decidable (NamesUnknown text) :=
  inferInstanceAs (Decidable (_ ∨ _))

/-- The format of a short name or a wire name. -/
def parse (text : String) : Except NameError PixelFormat :=
  let format := ofName text
  if format = .unknown ∧ ¬ NamesUnknown text then .error .unrecognized else .ok format

/-! ## ROS image encodings -/

/-- The format of an encoding, or `unknown`. A single channel of 16 bits is taken for gray. -/
def ofEncoding : String → PixelFormat
  | "bgra8" => .bgra
  | "bgr8" => .bgr
  | "rgba8" => .rgba
  | "rgb8" => .rgb
  | "8UC1" | "mono8" => .y8
  | "16UC1" | "mono16" => .y16
  | _ => .unknown

/-- The encoding of a format, if there is one. -/
def encoding? : PixelFormat → Option String
  | .bgra => some "bgra8"
  | .bgr => some "bgr8"
  | .rgba => some "rgba8"
  | .rgb => some "rgb8"
  | .y8 => some "8UC1"
  | .y16 | .z16 => some "16UC1"
  | _ => none

end FrameRgba.PixelFormat
