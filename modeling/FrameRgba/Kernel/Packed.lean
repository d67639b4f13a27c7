import FrameRgba.ChannelMap
import FrameRgba.Word
import FrameRgba.Kernel.Block
import FrameRgba.Kernel.Register

/-!
# The kernel for packed pixels

Both blocks follow a table that is made of the channel map once. The plain block takes one pixel and
copies its samples from where the table says they lie; an alpha that pixels do not have becomes 255.
The wide blocks take eight pixels: they shuffle each half of a register by the part of the table for
four pixels and set the bytes of a missing alpha. Pixels of three bytes are first moved so that each
half begins with a pixel.
-/

namespace FrameRgba

/-- How packed pixels become RGBA pixels. For the four pixels in half a register, `control` says
which byte goes where and `fill` has the bits that are set afterwards. For a single pixel there are
the positions of its samples. -/
structure ShuffleTable where
  control : Vector UInt8 16
  fill : Vector UInt8 16
  colors : Vector Nat 3
  alpha : Option Nat
  /-- The distance between neighbouring pixels, in bytes. -/
  stride : Nat
  deriving DecidableEq

namespace ShuffleTable

/-- The channel that byte `i` belongs to. -/
def channel (i : Nat) : Fin 4 :=
  ⟨i % 4, Nat.mod_lt i (by decide)⟩

/-- Byte `i` of the table: the offset, from the first of the four pixels, of channel `i % 4` of
pixel `i / 4`, or the code for a zero byte. -/
def controlByte (map : ChannelMap) (stride : Nat) (i : Fin 16) : Checked UInt8 :=
  match map.offset? (channel i.val) with
  | some offset => do
    let start ← Word.fit 8 (i.val / 4 * stride)
    let position ← Word.add 8 start offset.toNat
    pure (UInt8.ofNat position)
  | none => pure 0x80

/-- Byte `i` of the fill: all bits, for a channel that pixels do not have. -/
def fillByte (map : ChannelMap) (i : Fin 16) : UInt8 :=
  match map.offset? (channel i.val) with
  | some _ => 0
  | none => 0xFF

/-- The table of a map for pixels `stride` bytes apart. -/
def ofMap (map : ChannelMap) (stride : Nat) : Checked ShuffleTable := do
  let control ← Vector.ofFnM (controlByte map stride)
  pure {
    control, stride
    fill := Vector.ofFn (fillByte map)
    colors := map.colors.map UInt8.toNat
    alpha := map.alpha.map UInt8.toNat }

/-- The position of channel `c` in a pixel; `none` for an alpha that pixels do not have. -/
def position? (table : ShuffleTable) (c : Fin 4) : Option Nat :=
  if h : c.val < 3 then some table.colors[c.val] else table.alpha

/-- Shuffle both halves of a register. -/
def apply (table : ShuffleTable) (values : Register) : Register :=
  (values.shuffle (table.control ++ table.control)).or (table.fill ++ table.fill)

/-- Eight pixels of four bytes. -/
def block4 (table : ShuffleTable) : Block where
  read := 8 * 4
  advance := 8 * 4
  write := 32
  convert values := pure (table.apply values)
  advance_pos := by decide
  advance_le_read := by decide

/-- Bytes 0 to 15 and 12 to 27, which hold four pixels of three bytes each. -/
def tripleOrder : Vector (Fin 8) 8 :=
  #v[0, 1, 2, 3, 3, 4, 5, 6]

/-- Eight pixels of three bytes, in the first 24 of 32 bytes. -/
def block3 (table : ShuffleTable) : Block where
  read := 32
  advance := 24
  write := 32
  convert values := pure (table.apply (Register.permuteDwords values tripleOrder))
  advance_pos := by decide
  advance_le_read := by decide

end ShuffleTable

namespace Kernel

/-- One packed pixel. -/
def packedPixel (table : ShuffleTable) (pixel : Vector UInt8 table.stride) :
    Checked (Vector UInt8 4) :=
  Vector.ofFnM fun c =>
    match table.position? c with
    | some position => Buffer.item pixel.toArray position
    | none => pure 0xFF

/-- One packed pixel of as many bytes as the table says. -/
def packedBlock (table : ShuffleTable) (h : 0 < table.stride) : Block where
  read := table.stride
  advance := table.stride
  write := 4
  convert := packedPixel table
  advance_pos := h
  advance_le_read := Nat.le_refl table.stride

/-- The kernel of a map for pixels `stride` bytes apart. -/
def packed (map : ChannelMap) (stride : Nat) : Checked Kernel := do
  let table ← ShuffleTable.ofMap map stride
  if h : 0 < table.stride then
    pure {
      wide := if stride = 4 then table.block4 else table.block3
      plain := packedBlock table h }
  else
    .error .emptyChunk

end Kernel

end FrameRgba
