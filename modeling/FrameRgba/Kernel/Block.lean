import FrameRgba.Buffer

/-!
# Blocks and sweeps

A kernel walks over a source and a destination at the same time and knows neither width nor
height. A `Block` is one step of the walk: it looks at `read` bytes of the source, makes `write`
bytes of the destination out of them, and moves `advance` bytes on in the source. It may look
further than it moves.

`Block.sweep` repeats the step while both buffers have room for it. A `Kernel` sweeps with a block
that takes many pixels at a time and then with one that takes a single pixel; `Kernel.runPlain` uses
the second one only. Which of the two runs it is depends on the machine (`Kernel.runOn`).
-/

namespace FrameRgba

/-- One step of a kernel. -/
structure Block where
  /-- The number of source bytes the step looks at. -/
  read : Nat
  /-- The number of source bytes the step uses up. -/
  advance : Nat
  /-- The number of destination bytes the step makes. -/
  write : Nat
  convert : Vector UInt8 read → Checked (Vector UInt8 write)
  advance_pos : 0 < advance
  advance_le_read : advance ≤ read

/-- How far a kernel has come, and the destination as it is now. -/
structure Cursor where
  srcAt : Nat
  dstAt : Nat
  dst : Bytes
  deriving DecidableEq

/-- The cursor of a kernel that has not begun. -/
def Cursor.start (dst : Bytes) : Cursor :=
  ⟨0, 0, dst⟩

/-- Repeat the step while the source has `read` bytes left and the destination `write`. -/
def Block.sweep (block : Block) (src : Bytes) (srcAt dstAt : Nat) (dst : Bytes) :
    Checked Cursor :=
  if _ : srcAt + block.read ≤ src.size ∧ dstAt + block.write ≤ dst.size then do
    let taken ← Buffer.load src srcAt block.read
    let made ← block.convert taken
    let dst ← Buffer.store dst dstAt made
    sweep block src (srcAt + block.advance) (dstAt + block.write) dst
  else
    pure ⟨srcAt, dstAt, dst⟩
termination_by src.size - srcAt
decreasing_by
  have := block.advance_pos
  have := block.advance_le_read
  omega

/-- A sweep ends where one of the buffers has no room for a step. -/
theorem Block.sweep_eq_end {block : Block} {src dst : Bytes} {srcAt dstAt : Nat}
    (h : src.size < srcAt + block.read ∨ dst.size < dstAt + block.write) :
    block.sweep src srcAt dstAt dst = .ok ⟨srcAt, dstAt, dst⟩ := by
  rw [sweep, dif_neg (by omega)]
  rfl

/-- A sweep with room for a step makes the step and goes on. -/
theorem Block.sweep_eq_next {block : Block} {src dst : Bytes} {srcAt dstAt : Nat}
    {made : Vector UInt8 block.write} (hsrc : srcAt + block.read ≤ src.size)
    (hdst : dstAt + block.write ≤ dst.size)
    (h : block.convert (Vector.ofFn fun i => src[srcAt + i.val]) = .ok made) :
    block.sweep src srcAt dstAt dst =
      block.sweep src (srcAt + block.advance) (dstAt + block.write)
        (Buffer.overwrite dst dstAt made.toList) := by
  conv => lhs; rw [sweep]
  rw [dif_pos ⟨hsrc, hdst⟩, Buffer.load_eq_ok hsrc]
  change (block.convert _ >>= _) = _
  rw [h]
  change (Buffer.store dst dstAt made >>= _) = _
  rw [Buffer.store_eq_ok hdst]
  rfl

/-- Sweep on from a cursor, which has to lie in both buffers. -/
def Block.run (block : Block) (src : Bytes) (cursor : Cursor) : Checked Cursor :=
  if src.size < cursor.srcAt then .error (.outOfBounds cursor.srcAt src.size)
  else if cursor.dst.size < cursor.dstAt then .error (.outOfBounds cursor.dstAt cursor.dst.size)
  else block.sweep src cursor.srcAt cursor.dstAt cursor.dst

/-- A wide block, and a plain block for the pixels that the wide one leaves. -/
structure Kernel where
  wide : Block
  plain : Block

/-- Sweep with the wide block, then with the plain one. -/
def Kernel.run (kernel : Kernel) (src dst : Bytes) : Checked Bytes := do
  let cursor ← kernel.wide.run src (.start dst)
  let cursor ← kernel.plain.run src cursor
  pure cursor.dst

/-- Sweep with the plain block only. -/
def Kernel.runPlain (kernel : Kernel) (src dst : Bytes) : Checked Bytes := do
  let cursor ← kernel.plain.run src (.start dst)
  pure cursor.dst

/-- What a machine has for kernels. -/
inductive Tier where
  /-- Registers of 32 bytes, which a wide block needs. -/
  | wide
  | plain
  deriving DecidableEq, Repr

/-- Run the kernel with the blocks for which the machine has the registers. -/
def Kernel.runOn (kernel : Kernel) (tier : Tier) (src dst : Bytes) : Checked Bytes :=
  match tier with
  | .wide => kernel.run src dst
  | .plain => kernel.runPlain src dst

end FrameRgba
