import FrameRgba.Converter

/-!
# Typed pixels

Pixels as records of their samples, and buffers of them. A buffer of pixels is the same thing as the
buffer of their bytes, one pixel after the other, so the conversions into pixels are those into
bytes seen through `Pixel.toBytes` and `Pixel.ofBytes`.
-/

namespace FrameRgba

/-- A type of pixels that are a fixed number of bytes. -/
class Pixel (ρ : Type) where
  size : Nat
  size_pos : 0 < size
  bytes : ρ → Vector UInt8 size
  decode : Vector UInt8 size → ρ
  decode_bytes : ∀ pixel, decode (bytes pixel) = pixel
  bytes_decode : ∀ samples, bytes (decode samples) = samples

namespace Pixel

variable {ρ : Type} [Pixel ρ]

/-- The bytes of the pixels, one pixel after the other. That a buffer of pixels lies in memory like
this, with no space inside a pixel or between two, is assumed of the types of pixels: seeing the
buffer as bytes copies nothing and is this function. -/
def toBytes (pixels : Array ρ) : Bytes :=
  Array.ofFn fun i : Fin (pixels.size * size ρ) =>
    have : i.val / size ρ < pixels.size := (Nat.div_lt_iff_lt_mul size_pos).2 i.isLt
    have : i.val % size ρ < size ρ := Nat.mod_lt _ size_pos
    (bytes pixels[i.val / size ρ])[i.val % size ρ]

/-- The pixels of a buffer of bytes, which is seen as pixels under the same assumption. A part of a
pixel at the end is dropped. -/
def ofBytes (buffer : Bytes) : Array ρ :=
  Array.ofFn fun i : Fin (buffer.size / size ρ) =>
    have room : i.val * size ρ + size ρ ≤ buffer.size := by
      rw [← Nat.succ_mul]
      exact Nat.le_trans (Nat.mul_le_mul_right _ i.isLt) (Nat.div_mul_le_self _ _)
    decode (Vector.ofFn fun j => buffer[i.val * size ρ + j.val])

@[simp] theorem size_toBytes (pixels : Array ρ) :
    (toBytes pixels).size = pixels.size * size ρ :=
  Array.size_ofFn

@[simp] theorem size_ofBytes (buffer : Bytes) :
    (ofBytes buffer : Array ρ).size = buffer.size / size ρ :=
  Array.size_ofFn

/-- Nothing is lost when pixels are seen as bytes and back. -/
theorem ofBytes_toBytes (pixels : Array ρ) : ofBytes (toBytes pixels) = pixels := by
  have hsize : (toBytes pixels).size / size ρ = pixels.size := by
    rw [size_toBytes, Nat.mul_div_cancel _ size_pos]
  apply Array.ext
  · rw [size_ofBytes, hsize]
  · intro i h h'
    simp only [ofBytes, Array.getElem_ofFn]
    rw [← decode_bytes pixels[i]]
    congr 1
    apply Vector.ext
    intro j hj
    have hdiv : (i * size ρ + j) / size ρ = i := by
      rw [Nat.mul_comm, Nat.mul_add_div size_pos, Nat.div_eq_of_lt hj, Nat.add_zero]
    have hmod : (i * size ρ + j) % size ρ = j := by
      rw [Nat.mul_comm, Nat.mul_add_mod, Nat.mod_eq_of_lt hj]
    simp only [Vector.getElem_ofFn, toBytes, Array.getElem_ofFn, hdiv, hmod]

end Pixel

structure Rgba where
  r : UInt8
  g : UInt8
  b : UInt8
  a : UInt8
  deriving DecidableEq, Repr

structure Bgra where
  b : UInt8
  g : UInt8
  r : UInt8
  a : UInt8
  deriving DecidableEq, Repr

structure Bgr where
  b : UInt8
  g : UInt8
  r : UInt8
  deriving DecidableEq, Repr

structure Gray where
  value : UInt8
  deriving DecidableEq, Repr

instance : Pixel Rgba where
  size := 4
  size_pos := by decide
  bytes p := #v[p.r, p.g, p.b, p.a]
  decode s := ⟨s[0], s[1], s[2], s[3]⟩
  decode_bytes _ := rfl
  bytes_decode s := by
    ext i h
    match i, h with
    | 0, _ | 1, _ | 2, _ | 3, _ => rfl

instance : Pixel Bgra where
  size := 4
  size_pos := by decide
  bytes p := #v[p.b, p.g, p.r, p.a]
  decode s := ⟨s[0], s[1], s[2], s[3]⟩
  decode_bytes _ := rfl
  bytes_decode s := by
    ext i h
    match i, h with
    | 0, _ | 1, _ | 2, _ | 3, _ => rfl

instance : Pixel Bgr where
  size := 3
  size_pos := by decide
  bytes p := #v[p.b, p.g, p.r]
  decode s := ⟨s[0], s[1], s[2]⟩
  decode_bytes _ := rfl
  bytes_decode s := by
    ext i h
    match i, h with
    | 0, _ | 1, _ | 2, _ => rfl

instance : Pixel Gray where
  size := 1
  size_pos := Nat.one_pos
  bytes p := #v[p.value]
  decode s := ⟨s.get ⟨0, Nat.one_pos⟩⟩
  decode_bytes _ := rfl
  bytes_decode s := by
    ext i h
    match i, h with
    | 0, _ => rfl

namespace Rgba

/-- Write into pixels as into their bytes. -/
def asBytes {ε : Type} (dst : Array Rgba) (write : Bytes → Outcome ε Bytes) :
    Outcome ε (Array Rgba) :=
  (write (Pixel.toBytes dst)).map Pixel.ofBytes

/-- Copy pixels, with blue and red in the other's place. -/
def copyBgra (src : Array Bgra) (dst : Array Rgba) : Outcome KernelError (Array Rgba) :=
  asBytes dst fun bytes => Kernel.writePacked (Pixel.toBytes src) bytes .bgra 4

/-- Copy pixels, with blue and red in the other's place and alpha 255. -/
def copyBgr (src : Array Bgr) (dst : Array Rgba) : Outcome KernelError (Array Rgba) :=
  asBytes dst fun bytes => Kernel.writePacked (Pixel.toBytes src) bytes .bgr 3

/-- Copy gray pixels, with alpha 255. -/
def copyGray (src : Array Gray) (dst : Array Rgba) : Outcome KernelError (Array Rgba) :=
  asBytes dst fun bytes => Kernel.writeGray8 (Pixel.toBytes src) bytes

end Rgba

/-- Convert the frame into a buffer of pixels. -/
def Frame.convertPixels (frame : Frame) (options : Options) (dst : Array Rgba) :
    Reported (Outcome ConversionError (Array Rgba)) :=
  (frame.convert options (Pixel.toBytes dst)).map (Outcome.map Pixel.ofBytes)

end FrameRgba
