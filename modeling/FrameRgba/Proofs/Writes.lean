import FrameRgba.Kernel.Checks
import FrameRgba.Proofs.GrayLanes
import FrameRgba.Proofs.Shuffle

/-!
# Writes of the kernels

What a caller of a kernel gets. The three writes run their kernel behind the same check of the
sizes, so there is one lemma about that (`checked_run_eq`): either a reason is given and the
destination is kept, or the kernel's pixels are written. It holds where the size that the check
computes is a 64-bit word.

No write tells on which tier its kernel ran (`writePacked_eq_wide`, `writeGray8_eq_wide`,
`writeGray16_eq_wide`), whatever it was given. So what is shown of a conversion, which says nothing
about the tier, holds on every machine.

The last part is about sources of exactly as many pixels as the destination holds, which is what a
conversion hands to a kernel: the old destination is gone then (`written_eq_toArray`).
-/

namespace FrameRgba.Kernel

variable {stride : Nat} {src dst : Bytes} {pixel : Nat → Vector UInt8 4} {kernel : Kernel}
  {tier : Tier}

theorem checkSizes_eq {sourceSize destinationSize : Nat}
    (hfit : sourceSize / stride * 4 < Word.limit Word.sizeBits) :
    checkSizes sourceSize stride destinationSize =
      .ok (if sourceSize = 0 ∨ sourceSize % stride ≠ 0 then .error .notWholePixels
        else if destinationSize < sourceSize / stride * 4 then .error .tooManyPixels
        else .ok ()) := by
  rw [checkSizes]
  split
  · rfl
  · rw [Word.mul_eq_ok hfit]
    rfl

/-- A source in memory never has too many packed pixels: they grow from three bytes to four at
most. -/
theorem rgba_lt_limit_of_fits {map : ChannelMap} (h : map.Fits stride)
    (hmemory : src.size < Word.limit 63) : src.size / stride * 4 < Word.limit Word.sizeBits := by
  have hlimit : Word.limit Word.sizeBits = 2 * Word.limit 63 := rfl
  rcases h.stride_eq with rfl | rfl
  · omega
  · omega

/-- A kernel behind the check of the sizes. -/
theorem checked_run_eq (h : kernel.Renders stride src pixel)
    (hfit : src.size / stride * 4 < Word.limit Word.sizeBits) :
    (.checked (checkSizes src.size stride dst.size) fun sizes =>
      .require sizes dst fun _ =>
      .checked (kernel.runOn tier src dst) .done : Outcome KernelError Bytes) =
      if src.size = 0 ∨ src.size % stride ≠ 0 then .refused .notWholePixels dst
      else if dst.size < src.size / stride * 4 then .refused .tooManyPixels dst
      else .done (written stride src dst pixel) := by
  rw [checkSizes_eq hfit, h.runOn_eq, Outcome.checked_ok]
  split
  · rfl
  · split <;> rfl

theorem writePacked_eq {map : ChannelMap} (h : map.Fits stride)
    (hfit : src.size / stride * 4 < Word.limit Word.sizeBits) :
    writePacked src dst map stride tier =
      if src.size = 0 ∨ src.size % stride ≠ 0 then .refused .notWholePixels dst
      else if dst.size < src.size / stride * 4 then .refused .tooManyPixels dst
      else .done (written stride src dst (map.pixel stride src)) := by
  rw [writePacked, checkFit, if_pos (ChannelMap.fits_iff_maxOffset.1 h), Outcome.require_ok,
    packed_eq_ok h]
  exact checked_run_eq (packedOf_renders h src) hfit

/-- The kernel looks at a map before it makes a table of it. -/
theorem writePacked_eq_refused {map : ChannelMap} (h : ¬ map.Fits stride) (src dst : Bytes) :
    writePacked src dst map stride tier = .refused .mapMisfit dst := by
  rw [writePacked, checkFit, if_neg (mt ChannelMap.fits_iff_maxOffset.2 h), Outcome.require_error]

theorem writeGray8_eq (hfit : src.size / 1 * 4 < Word.limit Word.sizeBits) :
    writeGray8 src dst tier =
      if src.size = 0 ∨ src.size % 1 ≠ 0 then .refused .notWholePixels dst
      else if dst.size < src.size / 1 * 4 then .refused .tooManyPixels dst
      else .done (written 1 src dst fun p => grayPixel (gray8Value src p)) :=
  checked_run_eq (gray8_renders src) hfit

theorem writeGray16_eq {rounding : Rounding} (hfit : src.size / 2 * 4 < Word.limit Word.sizeBits) :
    writeGray16 src dst rounding tier =
      if src.size = 0 ∨ src.size % 2 ≠ 0 then .refused .notWholePixels dst
      else if dst.size < src.size / 2 * 4 then .refused .tooManyPixels dst
      else .done (written 2 src dst fun p => grayPixel (gray16Value rounding src p)) :=
  checked_run_eq (gray16_renders rounding src) hfit

/-! ## Tiers -/

theorem writePacked_eq_wide (src dst : Bytes) (map : ChannelMap) (stride : Nat) (tier : Tier) :
    writePacked src dst map stride tier = writePacked src dst map stride .wide := by
  by_cases h : map.Fits stride
  · simp only [writePacked, packed_eq_ok h, Outcome.checked_ok, (packedOf_renders h src).runOn_eq]
  · rw [writePacked_eq_refused h, writePacked_eq_refused h]

theorem writeGray8_eq_wide (src dst : Bytes) (tier : Tier) :
    writeGray8 src dst tier = writeGray8 src dst .wide := by
  simp only [writeGray8, (gray8_renders src).runOn_eq]

theorem writeGray16_eq_wide (src dst : Bytes) (rounding : Rounding) (tier : Tier) :
    writeGray16 src dst rounding tier = writeGray16 src dst rounding .wide := by
  simp only [writeGray16, (gray16_renders rounding src).runOn_eq]

/-! ## Buffers of the same number of pixels -/

/-- A destination with room for exactly the pixels of the source is written from its first byte to
its last. -/
theorem written_eq_toArray {count : Nat} (hstride : 0 < stride) (hsrc : src.size = count * stride)
    (hdst : dst.size = count * 4) :
    written stride src dst pixel = (raster pixel 0 count).toArray := by
  have hcount : min (src.size / stride) (dst.size / 4) = count := by
    rw [hsrc, hdst, Nat.mul_div_cancel _ hstride, Nat.mul_div_cancel _ (by decide), Nat.min_self]
  rw [written, hcount, Buffer.overwrite_eq_toArray (by rw [length_raster, hdst]; omega)]

/-- On such buffers, a write that checks the sizes first is done. -/
theorem ite_sizes_eq_done {count : Nat} (hstride : 0 < stride) (hcount : 0 < count)
    (hsrc : src.size = count * stride) (hdst : dst.size = count * 4) :
    (if src.size = 0 ∨ src.size % stride ≠ 0 then .refused .notWholePixels dst
      else if dst.size < src.size / stride * 4 then .refused .tooManyPixels dst
      else .done (written stride src dst pixel) : Outcome KernelError Bytes) =
      .done (raster pixel 0 count).toArray := by
  have hpos : 0 < src.size := hsrc ▸ Nat.mul_pos hcount hstride
  have hwhole : src.size % stride = 0 := by rw [hsrc, Nat.mul_mod_left]
  have hquotient : src.size / stride = count := by rw [hsrc, Nat.mul_div_cancel _ hstride]
  rw [if_neg (by omega), if_neg (by rw [hquotient]; omega), written_eq_toArray hstride hsrc hdst]

end FrameRgba.Kernel
