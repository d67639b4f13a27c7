import FrameRgba.Proofs.Picture

/-!
# Calls of the kernels

What a caller with plain buffers gets from a kernel, in full: the reason for which the call is
refused, or the pixels that it leaves behind. The reasons come in a fixed order and are conditions
on what the caller gives, first the map and its stride (`ChannelMap.WrongStride`,
`ChannelMap.ReachesBeyond`) and then the sizes of the buffers; a call without a reason is done.

What is left behind is said by reading the buffers pixel by pixel (`PixelsWritten`): the destination
as RGBA, and the source at the offsets of the map or as gray samples, which are rounded as rational
numbers if they have 16 bits. The three kernels have the check of the sizes and the form of their
result in common, and so there is one lemma for them (`Kernel.answers_ite_sizes`).

Sources are bounded only so that the size of their pixels as RGBA is a 64-bit word. Packed pixels
that fit into memory never have more bytes than that, gray samples can have.
-/

namespace FrameRgba

/-! ## Pixels in buffers -/

/-- Pixel `i` of a buffer of RGBA pixels. -/
def rgbaPixel? (buffer : Bytes) (i : Nat) : Option Rgba :=
  colorPixel? buffer (4 * i) 0 1 2 (some 3)

/-- Pixel `i` of a source with pixels `stride` bytes apart, read at the offsets of the map. -/
def ChannelMap.pixel? (map : ChannelMap) (stride : Nat) (src : Bytes) (i : Nat) : Option Rgba :=
  match map with
  | .three red green blue => colorPixel? src (stride * i) red.toNat green.toNat blue.toNat none
  | .four red green blue alpha =>
    colorPixel? src (stride * i) red.toNat green.toNat blue.toNat (alpha.map UInt8.toNat)

/-- The first `count` pixels of `out` are these, and all other bytes are those of `dst`. -/
structure PixelsWritten (count : Nat) (pixel? : Nat → Option Rgba) (dst out : Bytes) : Prop where
  size_eq : out.size = dst.size
  pixel_eq : ∀ i, i < count → ∃ pixel, pixel? i = some pixel ∧ rgbaPixel? out i = some pixel
  tail_eq : ∀ k, 4 * count ≤ k → out[k]? = dst[k]?

theorem rgbaPixel?_eq {buffer : Bytes} {i : Nat} {samples : Vector UInt8 4}
    (h : ∀ c (_ : c < 4), buffer[4 * i + c]? = some samples[c]) :
    rgbaPixel? buffer i = some (Pixel.decode samples) := by
  rw [rgbaPixel?, colorPixel?, h 0 (by decide), h 1 (by decide), h 2 (by decide)]
  show (do
    let a ← buffer[4 * i + 3]?
    pure (⟨_, _, _, a⟩ : Rgba)) = _
  rw [h 3 (by decide)]
  rfl

theorem ChannelMap.pixel?_eq {map : ChannelMap} {stride : Nat} (h : map.Fits stride) {src : Bytes}
    {p : Nat} (room : p * stride + stride ≤ src.size) :
    map.pixel? stride src p = some (Pixel.decode (map.pixel stride src p)) := by
  cases map with
  | three red green blue => exact colorPixel?_eq h room
  | four red green blue alpha => exact colorPixel?_eq h room

section

variable {src dst : Bytes} {stride count : Nat} {pixel : Nat → Vector UInt8 4}
  {pixel? : Nat → Option Rgba}

/-- A raster that is written over the beginning of a buffer is there pixel by pixel. -/
theorem pixelsWritten_overwrite (hroom : 4 * count ≤ dst.size)
    (h : ∀ i, i < count → pixel? i = some (Pixel.decode (pixel i))) :
    PixelsWritten count pixel? dst (Buffer.overwrite dst 0 (raster pixel 0 count)) where
  size_eq := Buffer.size_overwrite _ _ _
  pixel_eq i hi := by
    refine ⟨_, h i hi, rgbaPixel?_eq fun c hc => ?_⟩
    have hdiv : (4 * i + c) / 4 = i := by omega
    have hmod : (4 * i + c) % 4 = c := by omega
    rw [Buffer.getElem?_overwrite_of_inside (by rw [length_raster]; omega) (Nat.zero_le _)
        (by rw [length_raster]; omega), Nat.sub_zero, getElem?_raster (by omega), Nat.zero_add,
      hdiv, hmod, Vector.getElem?_eq_getElem hc]
  tail_eq k hk := by
    apply Buffer.getElem?_overwrite_of_outside
    rw [length_raster]
    omega

theorem pixelsWritten_toArray (hdst : dst.size = 4 * count)
    (h : ∀ i, i < count → pixel? i = some (Pixel.decode (pixel i))) :
    PixelsWritten count pixel? dst (raster pixel 0 count).toArray := by
  rw [← Buffer.overwrite_eq_toArray (length_raster.trans hdst.symm)]
  exact pixelsWritten_overwrite (Nat.le_of_eq hdst.symm) h

/-- Pixels before the last one lie in the source with it. -/
theorem pixel_room (hsource : count * stride ≤ src.size) {i : Nat} (hi : i < count) :
    i * stride + stride ≤ src.size := by
  rw [← Nat.succ_mul]
  exact Nat.le_trans (Nat.mul_le_mul_right stride hi) hsource

end

/-! ## Maps and strides -/

namespace ChannelMap

/-- Pixels of this shape are never `stride` bytes apart. -/
def WrongStride : ChannelMap → Nat → Prop
  | .three .., stride => stride ≠ 3 ∧ stride ≠ 4
  | .four .., stride => stride ≠ 4

/-- A sample lies behind the `stride` bytes of its pixel. -/
def ReachesBeyond : ChannelMap → Nat → Prop
  | .three red green blue, stride =>
    stride ≤ red.toNat ∨ stride ≤ green.toNat ∨ stride ≤ blue.toNat
  | .four red green blue alpha, stride =>
    stride ≤ red.toNat ∨ stride ≤ green.toNat ∨ stride ≤ blue.toNat ∨
      ∃ offset, alpha = some offset ∧ stride ≤ offset.toNat

variable {map : ChannelMap} {stride : Nat}

theorem wrongStride_iff : map.WrongStride stride ↔ stride ∉ map.strides := by
  cases map with
  | three red green blue => simp [WrongStride, strides]
  | four red green blue alpha => simp [WrongStride, strides]

theorem reachesBeyond_iff :
    map.ReachesBeyond stride ↔ ¬ ∀ offset ∈ map.offsets, offset.toNat < stride := by
  cases map with
  | three red green blue => simp [ReachesBeyond, offsets, colors, alpha, imp_iff_not_or]
  | four red green blue alpha =>
    cases alpha with
    | none => simp [ReachesBeyond, offsets, colors, alpha, imp_iff_not_or]
    | some offset => simp [ReachesBeyond, offsets, colors, alpha, imp_iff_not_or]

/-- A map that does not fit has the wrong stride or an offset that is too great. -/
theorem not_fits_iff : ¬ map.Fits stride ↔ map.WrongStride stride ∨ map.ReachesBeyond stride := by
  rw [Fits, not_and_or, wrongStride_iff, reachesBeyond_iff]

instance (map : ChannelMap) (stride : Nat) : Decidable (map.WrongStride stride) :=
  decidable_of_iff _ wrongStride_iff.symm

-- by going through the offsets of the map, of which there are fewer than of bytes
instance (map : ChannelMap) (stride : Nat) : Decidable (map.ReachesBeyond stride) :=
  @decidable_of_iff _ _ reachesBeyond_iff.symm (@instDecidableNot _
    (List.decidableBAll (fun offset => offset.toNat < stride) map.offsets))

end ChannelMap

/-! ## Answers -/

namespace Kernel

/-- The answer to a call on these buffers, whose source has its pixels `stride` bytes apart: a
source without whole pixels is refused first, a destination without room for them next, and
otherwise the pixels are written. -/
def Answers (stride : Nat) (pixel? : Nat → Option Rgba) (src dst : Bytes)
    (outcome : Outcome KernelError Bytes) : Prop :=
  if src.size = 0 ∨ ¬ stride ∣ src.size then outcome = .refused .notWholePixels dst
  else if dst.size < 4 * (src.size / stride) then outcome = .refused .tooManyPixels dst
  else ∃ out, outcome = .done out ∧ PixelsWritten (src.size / stride) pixel? dst out

variable {stride : Nat} {src dst : Bytes} {pixel : Nat → Vector UInt8 4}
  {pixel? : Nat → Option Rgba}

/-- A kernel behind the check of the sizes answers with the pixels that it renders. -/
theorem answers_ite_sizes
    (h : ∀ i, i * stride + stride ≤ src.size → pixel? i = some (Pixel.decode (pixel i))) :
    Answers stride pixel? src dst
      (if src.size = 0 ∨ src.size % stride ≠ 0 then .refused .notWholePixels dst
        else if dst.size < src.size / stride * 4 then .refused .tooManyPixels dst
        else .done (written stride src dst pixel)) := by
  have hwhole : (src.size = 0 ∨ ¬ stride ∣ src.size) ↔ src.size = 0 ∨ src.size % stride ≠ 0 := by
    rw [Nat.dvd_iff_mod_eq_zero]
  have hcount : src.size / stride * 4 = 4 * (src.size / stride) := Nat.mul_comm _ _
  simp only [Answers, hwhole, hcount]
  split
  · rfl
  · split
    · rfl
    · rename_i hroom
      have hmin : min (src.size / stride) (dst.size / 4) = src.size / stride := by omega
      rw [written, hmin]
      refine ⟨_, rfl, pixelsWritten_overwrite (Nat.le_of_not_lt hroom) fun i hi => h i ?_⟩
      exact pixel_room (Nat.div_mul_le_self _ _) hi

/-- The outcome of a call with packed pixels, whatever the map, the stride and the buffers are and
on every tier, as long as the source is one that fits into memory. A map that cannot be meant for
the stride is refused before the sizes are looked at. -/
theorem writePacked_exact (map : ChannelMap) (stride : Nat) (src dst : Bytes) (tier : Tier)
    (hmemory : src.size < Word.limit 63) :
    if map.WrongStride stride ∨ map.ReachesBeyond stride then
      writePacked src dst map stride tier = .refused .mapMisfit dst
    else Answers stride (map.pixel? stride src) src dst (writePacked src dst map stride tier) := by
  split
  · rename_i hmisfit
    exact writePacked_eq_refused (ChannelMap.not_fits_iff.2 hmisfit) src dst
  · rename_i hfit
    have hfits : map.Fits stride := Decidable.not_not.1 (mt ChannelMap.not_fits_iff.1 hfit)
    rw [writePacked_eq hfits (rgba_lt_limit_of_fits hfits hmemory)]
    exact answers_ite_sizes fun i room => ChannelMap.pixel?_eq hfits room

/-- Two pixels through a map that names an offset twice, and three bytes behind them. -/
theorem writePacked_exact_tail :
    (#[1, 2, 3, 4, 5, 6, 7, 8] : Bytes).size < Word.limit 63 ∧
      ∃ out, writePacked #[1, 2, 3, 4, 5, 6, 7, 8] (Array.replicate 11 9) (.three 3 0 3) 4 .wide =
          .done out ∧
        out.size = 11 ∧ rgbaPixel? out 1 = some ⟨8, 5, 8, 255⟩ ∧ out[8]? = some 9 := by
  have h := writePacked_exact (.three 3 0 3) 4 #[1, 2, 3, 4, 5, 6, 7, 8] (Array.replicate 11 9)
    .wide
  rw [if_neg (by decide), Answers, if_neg (by decide), if_neg (by decide)] at h
  obtain ⟨out, hout, hwritten⟩ := h (by decide)
  obtain ⟨pixel, hsrc, hdst⟩ := hwritten.pixel_eq 1 (by decide)
  refine ⟨by decide, out, hout, hwritten.size_eq, ?_, ?_⟩
  · exact hdst.trans (hsrc.symm.trans (by decide))
  · exact (hwritten.tail_eq 8 (by decide)).trans (by decide)

/-- The outcome of a call with gray samples of a byte, and of one with samples of 16 bits, on every
tier. -/
theorem writeGray_exact (src dst : Bytes) (rounding : Rounding) (tier : Tier)
    (hsize : src.size < Word.limit 62) :
    Answers 1 (gray8Pixel? src) src dst (writeGray8 src dst tier) ∧
      Answers 2 (fun i => gray16Pixel? rounding src (2 * i)) src dst
        (writeGray16 src dst rounding tier) := by
  have hlimit : Word.limit Word.sizeBits = 4 * Word.limit 62 := rfl
  constructor
  · rw [writeGray8_eq (by omega)]
    exact answers_ite_sizes fun i room => gray8Pixel?_eq (by omega)
  · rw [writeGray16_eq (by omega)]
    exact answers_ite_sizes fun i room => gray16Pixel?_eq rounding room

/-- Two samples of 16 bits, halfway between two bytes and the greatest, into a destination that is
one byte short for samples of 8 bits. -/
theorem writeGray_exact_ties :
    (#[128, 1, 255, 255] : Bytes).size < Word.limit 62 ∧
      writeGray8 #[128, 1, 255, 255] (Array.replicate 15 9) .plain =
        .refused .tooManyPixels (Array.replicate 15 9) ∧
      ∃ out, writeGray16 #[128, 1, 255, 255] (Array.replicate 15 9) .halfEven .plain = .done out ∧
        rgbaPixel? out 0 = some ⟨2, 2, 2, 255⟩ ∧ rgbaPixel? out 1 = some ⟨255, 255, 255, 255⟩ ∧
        out[8]? = some 9 := by
  obtain ⟨hbytes, hwords⟩ := writeGray_exact #[128, 1, 255, 255] (Array.replicate 15 9) .halfEven
    .plain (by decide)
  rw [Answers, if_neg (by decide), if_pos (by decide)] at hbytes
  rw [Answers, if_neg (by decide), if_neg (by decide)] at hwords
  obtain ⟨out, hout, hwritten⟩ := hwords
  obtain ⟨first, hsrc, hdst⟩ := hwritten.pixel_eq 0 (by decide)
  obtain ⟨second, hsrc', hdst'⟩ := hwritten.pixel_eq 1 (by decide)
  refine ⟨by decide, hbytes, out, hout, ?_, ?_, ?_⟩
  · exact hdst.trans (hsrc.symm.trans (by decide +kernel))
  · exact hdst'.trans (hsrc'.symm.trans (by decide +kernel))
  · exact (hwritten.tail_eq 8 (by decide)).trans (by decide)

end Kernel

end FrameRgba
