import FrameRgba.Kernel.Block
import FrameRgba.Proofs.Raster

/-!
# Sweeps

What a kernel leaves behind. A block renders a source when each of its steps makes the next few
pixels of one raster, no matter where in the source it stands (`Block.Renders`). The invariant of a
sweep is then one number: the cursor stands at pixel `p` in both buffers, and the destination is the
old one with the first `p` pixels written over it. A step moves `p` on by the pixels of the block
(`Renders.sweep_eq_next`), and a sweep stops at a `p` from which no further step has room
(`Renders.sweep_eq`).

A wide block and a plain one that render the same pixels can follow each other, and for a plain
block the stopping point is known: it is the number of whole pixels that both buffers have room for.
So a kernel with its wide block and without it leaves the same destination, and neither ever reads
or writes outside the buffers (`Kernel.Renders.run_eq`, `Kernel.Renders.runPlain_eq`).
-/

namespace FrameRgba

/-- Each step of the block makes `count` pixels of the raster `pixel` out of a source with pixels
`stride` bytes apart. -/
structure Block.Renders (block : Block) (count stride : Nat) (src : Bytes)
    (pixel : Nat → Vector UInt8 4) : Prop where
  advance_eq : block.advance = count * stride
  write_eq : block.write = 4 * count
  convert_eq : ∀ p (_ : p * stride + block.read ≤ src.size),
    ∃ made, block.convert (Vector.ofFn fun i => src[p * stride + i.val]) = .ok made ∧
      made.toList = raster pixel p count

/-- The cursor of a sweep that has made `p` pixels. -/
def Cursor.atPixel (stride : Nat) (dst : Bytes) (pixel : Nat → Vector UInt8 4) (p : Nat) :
    Cursor :=
  ⟨p * stride, 4 * p, Buffer.overwrite dst 0 (raster pixel 0 p)⟩

theorem Cursor.atPixel_zero (stride : Nat) (dst : Bytes) (pixel : Nat → Vector UInt8 4) :
    Cursor.atPixel stride dst pixel 0 = .start dst := by
  rw [atPixel, Nat.zero_mul, Nat.mul_zero, raster_zero, Buffer.overwrite_nil, start]

namespace Block

variable {block : Block} {count stride : Nat} {src : Bytes} {pixel : Nat → Vector UInt8 4}

/-- The bytes that a step looks at are bytes of the source. -/
theorem getElem_taken {src : Bytes} {first n k : Nat} (room : first + n ≤ src.size) (h : k < n) :
    (Vector.ofFn fun i : Fin n => src[first + i.val])[k] = src.getD (first + k) 0 := by
  rw [Vector.getElem_ofFn, Array.getElem_eq_getD 0]

/-- A step with room in both buffers makes the next pixels. -/
theorem Renders.sweep_eq_next (h : block.Renders count stride src pixel) {p : Nat} {dst : Bytes}
    (hsrc : p * stride + block.read ≤ src.size) (hdst : 4 * p + block.write ≤ dst.size) :
    block.sweep src (p * stride) (4 * p) (Buffer.overwrite dst 0 (raster pixel 0 p)) =
      block.sweep src ((p + count) * stride) (4 * (p + count))
        (Buffer.overwrite dst 0 (raster pixel 0 (p + count))) := by
  obtain ⟨made, hmade, hbytes⟩ := h.convert_eq p hsrc
  rw [Block.sweep_eq_next hsrc (by rwa [Buffer.size_overwrite]) hmade, hbytes,
    Buffer.overwrite_raster_add, h.advance_eq, h.write_eq, ← Nat.add_mul, ← Nat.mul_add]

/-- A sweep from pixel `p` on makes all pixels up to some `q`, and stops there because one of the
buffers has no room for another step. -/
theorem Renders.sweep_eq (h : block.Renders count stride src pixel) (dst : Bytes) {p : Nat}
    (hsrc : p * stride ≤ src.size) (hdst : 4 * p ≤ dst.size) :
    ∃ q, q * stride ≤ src.size ∧ 4 * q ≤ dst.size ∧
      (src.size < q * stride + block.read ∨ dst.size < 4 * q + block.write) ∧
      block.sweep src (p * stride) (4 * p) (Buffer.overwrite dst 0 (raster pixel 0 p)) =
        .ok (.atPixel stride dst pixel q) := by
  -- every step uses up source bytes, so the bytes that are left bound the number of steps
  induction hleft : src.size - p * stride using Nat.strongRecOn generalizing p with
  | _ left ih =>
    subst hleft
    by_cases room : p * stride + block.read ≤ src.size ∧ 4 * p + block.write ≤ dst.size
    · obtain ⟨hread, hwrite⟩ := room
      have hnext : (p + count) * stride = p * stride + block.advance := by
        rw [Nat.add_mul, h.advance_eq]
      have hstep := h.write_eq
      have := block.advance_pos
      have := block.advance_le_read
      rw [h.sweep_eq_next hread hwrite]
      exact ih _ (by omega) (by omega) (by omega) rfl
    · have hend : src.size < p * stride + block.read ∨ dst.size < 4 * p + block.write := by omega
      exact ⟨p, hsrc, hdst, hend, Block.sweep_eq_end (by rwa [Buffer.size_overwrite])⟩

/-- The same, for a run that starts at a cursor and so looks first whether it lies in the
buffers. -/
theorem Renders.run_atPixel (h : block.Renders count stride src pixel) (dst : Bytes) {p : Nat}
    (hsrc : p * stride ≤ src.size) (hdst : 4 * p ≤ dst.size) :
    ∃ q, q * stride ≤ src.size ∧ 4 * q ≤ dst.size ∧
      (src.size < q * stride + block.read ∨ dst.size < 4 * q + block.write) ∧
      block.run src (.atPixel stride dst pixel p) = .ok (.atPixel stride dst pixel q) := by
  obtain ⟨q, hqsrc, hqdst, hend, hsweep⟩ := h.sweep_eq dst hsrc hdst
  refine ⟨q, hqsrc, hqdst, hend, ?_⟩
  rw [Block.run, Cursor.atPixel, if_neg (by simp only; omega),
    if_neg (by simp only [Buffer.size_overwrite]; omega)]
  exact hsweep

/-- A block for single pixels leaves none that both buffers have room for. -/
theorem Renders.run_atPixel_single (h : block.Renders 1 stride src pixel)
    (hread : block.read = stride) (dst : Bytes) {p : Nat} (hsrc : p * stride ≤ src.size)
    (hdst : 4 * p ≤ dst.size) :
    block.run src (.atPixel stride dst pixel p) =
      .ok (.atPixel stride dst pixel (min (src.size / stride) (dst.size / 4))) := by
  obtain ⟨q, hqsrc, hqdst, hend, hrun⟩ := h.run_atPixel dst hsrc hdst
  have hpos : 0 < stride := by
    have := block.advance_pos
    rwa [h.advance_eq, Nat.one_mul] at this
  have hle : q ≤ src.size / stride := (Nat.le_div_iff_mul_le hpos).2 hqsrc
  have hstop : src.size / stride < q + 1 ∨ dst.size < 4 * q + 4 := by
    rw [hread, h.write_eq] at hend
    refine hend.imp (fun hlt => ?_) id
    rwa [Nat.div_lt_iff_lt_mul hpos, Nat.succ_mul]
  have hq : q = min (src.size / stride) (dst.size / 4) := by omega
  rw [hrun, hq]

end Block

namespace Kernel

/-- Both blocks of the kernel make the pixels of one raster, the plain one a single pixel at a
time. -/
structure Renders (kernel : Kernel) (stride : Nat) (src : Bytes)
    (pixel : Nat → Vector UInt8 4) : Prop where
  wide : ∃ count, kernel.wide.Renders count stride src pixel
  plain : kernel.plain.Renders 1 stride src pixel
  read_eq : kernel.plain.read = stride

variable {kernel : Kernel} {stride : Nat} {src : Bytes} {pixel : Nat → Vector UInt8 4}

/-- The destination after as many pixels were written over its beginning as both buffers have room
for. -/
def written (stride : Nat) (src dst : Bytes) (pixel : Nat → Vector UInt8 4) : Bytes :=
  Buffer.overwrite dst 0 (raster pixel 0 (min (src.size / stride) (dst.size / 4)))

@[simp] theorem size_written (stride : Nat) (src dst : Bytes) (pixel : Nat → Vector UInt8 4) :
    (written stride src dst pixel).size = dst.size :=
  Buffer.size_overwrite _ _ _

/-- What is not written is kept. -/
theorem getElem?_written (stride : Nat) (src dst : Bytes) (pixel : Nat → Vector UInt8 4)
    (i : Nat) :
    (written stride src dst pixel)[i]? =
      if i / 4 < min (src.size / stride) (dst.size / 4) then (pixel (i / 4))[i % 4]?
      else dst[i]? := by
  rw [written, Buffer.getElem?_overwrite, length_raster, Nat.zero_add]
  by_cases h : i / 4 < min (src.size / stride) (dst.size / 4)
  · rw [if_pos (by omega), if_pos h, Nat.sub_zero, getElem?_raster (by omega), Nat.zero_add]
  · rw [if_neg (by omega), if_neg h]

theorem Renders.runPlain_eq (h : kernel.Renders stride src pixel) (dst : Bytes) :
    kernel.runPlain src dst = .ok (written stride src dst pixel) := by
  have hrun := h.plain.run_atPixel_single h.read_eq dst (p := 0) (by omega) (by omega)
  rw [Cursor.atPixel_zero] at hrun
  rw [runPlain, hrun]
  rfl

theorem Renders.run_eq (h : kernel.Renders stride src pixel) (dst : Bytes) :
    kernel.run src dst = .ok (written stride src dst pixel) := by
  obtain ⟨count, hwide⟩ := h.wide
  obtain ⟨q, hsrc, hdst, -, hrun⟩ := hwide.run_atPixel dst (p := 0) (by omega) (by omega)
  rw [Cursor.atPixel_zero] at hrun
  rw [run, hrun]
  change (kernel.plain.run src (.atPixel stride dst pixel q) >>= _) = _
  rw [h.plain.run_atPixel_single h.read_eq dst hsrc hdst]
  rfl

/-- On every tier, the kernel writes the same. -/
theorem Renders.runOn_eq (h : kernel.Renders stride src pixel) (tier : Tier) (dst : Bytes) :
    kernel.runOn tier src dst = .ok (written stride src dst pixel) := by
  cases tier with
  | wide => exact h.run_eq dst
  | plain => exact h.runPlain_eq dst

end Kernel

end FrameRgba
