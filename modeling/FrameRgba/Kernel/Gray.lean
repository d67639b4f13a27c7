import FrameRgba.Options
import FrameRgba.Kernel.Block
import FrameRgba.Kernel.Register

/-!
# The kernels for gray samples

A gray sample becomes the pixel with that value in red, green and blue, and alpha 255. Samples of
16 bits are little-endian and are reduced to a byte first. The wide block for bytes takes eight
samples, the one for 16-bit samples sixteen.
-/

namespace FrameRgba.Kernel

/-- The opaque pixel of one gray value. -/
def grayPixel (value : UInt8) : Vector UInt8 4 :=
  #v[value, value, value, 0xFF]

/-- The alpha bytes of eight pixels, all bits set. -/
def fullAlpha : Register :=
  Vector.ofFn fun i => if i.val % 4 = 3 then 0xFF else 0

/-- A shuffle that writes byte `source p` to red, green and blue of pixel `p` and clears alpha. -/
def spread (source : Fin 8 → UInt8) : Register :=
  Vector.ofFn fun i => if i.val % 4 = 3 then 0x80 else source ⟨i.val / 4, Register.div_four_lt i⟩

/-- Eight samples of a byte: they are in both halves, and the upper half takes the last four. -/
def gray8Wide : Block where
  read := 8
  advance := 8
  write := 32
  convert samples :=
    let values := Register.broadcast (littleEndian64 samples)
    pure ((values.shuffle (spread fun p => UInt8.ofNat p)).or fullAlpha)
  advance_pos := by decide
  advance_le_read := by decide

/-- One sample of a byte. -/
def gray8Plain : Block where
  read := 1
  advance := 1
  write := 4
  convert samples := pure (grayPixel samples[0])
  advance_pos := by decide
  advance_le_read := by decide

/-- The low bytes of the first four words of each half. -/
def spreadLow : Register :=
  spread fun p => UInt8.ofNat (2 * (p.val % 4))

/-- The low bytes of the last four words of each half. -/
def spreadHigh : Register :=
  spread fun p => UInt8.ofNat (8 + 2 * (p.val % 4))

/-- Sixteen samples of 16 bits. The words are reduced all at once; the two shuffles give pixels 0 to
3 with 8 to 11 and pixels 4 to 7 with 12 to 15, and the halves are then put into order. -/
def gray16Wide (bias : Bias) : Block where
  read := 32
  advance := 32
  write := 64
  convert samples :=
    let values := Register.words samples
    let odd := values.highBytes.and (.splat bias.parity)
    let biased := values.addSaturating (Words.add (.splat bias.base) odd)
    let grays := biased.highBytes.bytes
    let a := (grays.shuffle spreadLow).or fullAlpha
    let b := (grays.shuffle spreadHigh).or fullAlpha
    pure (Register.permuteHalves 0x20 a b ++ Register.permuteHalves 0x31 a b)
  advance_pos := by decide
  advance_le_read := by decide

/-- One sample of 16 bits. -/
def gray16Plain (bias : Bias) : Block where
  read := 2
  advance := 2
  write := 4
  convert samples := (bias.reduce (littleEndian16 samples[0] samples[1])).map grayPixel
  advance_pos := by decide
  advance_le_read := by decide

/-- The kernel for samples of a byte. -/
def gray8 : Kernel where
  wide := gray8Wide
  plain := gray8Plain

/-- The kernel for samples of 16 bits. -/
def gray16 (rounding : Rounding) : Kernel where
  wide := gray16Wide rounding.bias
  plain := gray16Plain rounding.bias

end FrameRgba.Kernel
