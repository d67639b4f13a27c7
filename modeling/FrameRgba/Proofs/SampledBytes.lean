import FrameRgba.Proofs.Bands
import FrameRgba.Proofs.Picture

/-!
# Sampled bytes

What a packed conversion tells of its source: the bytes that are samples of the pixels converted,
each of them, and nothing else. It is a statement about two runs. Two sources are converted to the
same bytes exactly if they have the same samples (`ChannelMap.SameSamples`), so a byte of padding,
of a row that is not converted or behind the image never has an influence, and a sample always has.

A pixel is as good as its samples (`ChannelMap.Fits.pixel_inj`) and a raster as its pixels
(`raster_inj`). The rest is to say of which pixels the outcome is the raster: of all for a whole
frame (`Frame.convert_result_eq_raster`), in bands or not, and of those between the ends of the rows
for some rows of it (`Frame.convertRange_result_eq_raster`).
-/

namespace FrameRgba

/-! ## Samples -/

namespace ChannelMap

variable {map : ChannelMap} {stride : Nat} {src src' : Bytes}

/-- Pixel `p` has the same samples in both sources, alpha only if the map has an offset for it. -/
def SameSamplesAt (map : ChannelMap) (stride : Nat) (src src' : Bytes) (p : Nat) : Prop :=
  let same (offset : UInt8) := src[p * stride + offset.toNat]? = src'[p * stride + offset.toNat]?
  match map with
  | .three red green blue => same red ∧ same green ∧ same blue
  | .four red green blue alpha =>
    same red ∧ same green ∧ same blue ∧ ∀ offset, alpha = some offset → same offset

/-- The sources have the same samples of the pixels from `first` on, up to `last`. -/
def SameSamples (map : ChannelMap) (stride : Nat) (src src' : Bytes) (first last : Nat) : Prop :=
  ∀ p, p < last → first ≤ p → map.SameSamplesAt stride src src' p

/-- The samples of a pixel are its bytes at the offsets of the map. -/
theorem sameSamplesAt_iff {p : Nat} :
    map.SameSamplesAt stride src src' p ↔
      ∀ offset ∈ map.offsets,
        src[p * stride + offset.toNat]? = src'[p * stride + offset.toNat]? := by
  cases map with
  | three red green blue => simp [SameSamplesAt, offsets, colors, alpha]
  | four red green blue alpha =>
    cases alpha with
    | none => simp [SameSamplesAt, offsets, colors, ChannelMap.alpha]
    | some offset => simp [SameSamplesAt, offsets, colors, ChannelMap.alpha]

-- by going through the offsets of the map, of which there are fewer than of bytes
instance (map : ChannelMap) (stride : Nat) (src src' : Bytes) (p : Nat) :
    Decidable (map.SameSamplesAt stride src src' p) :=
  @decidable_of_iff _ _ sameSamplesAt_iff.symm (List.decidableBAll _ map.offsets)

instance (map : ChannelMap) (stride : Nat) (src src' : Bytes) (first last : Nat) :
    Decidable (map.SameSamples stride src src' first last) :=
  inferInstanceAs (Decidable (∀ p, p < last → first ≤ p → map.SameSamplesAt stride src src' p))

/-- A sample is lost in no pixel: two pixels are equal only if all of their samples are. -/
theorem Fits.pixel_inj (h : map.Fits stride) {p : Nat} (room : p * stride + stride ≤ src.size)
    (room' : p * stride + stride ≤ src'.size) :
    map.pixel stride src p = map.pixel stride src' p ↔ map.SameSamplesAt stride src src' p := by
  have hsample : ∀ c offset, map.offset? c = some offset →
      ((map.pixel stride src p)[c] = (map.pixel stride src' p)[c] ↔
        src[p * stride + offset.toNat]? = src'[p * stride + offset.toNat]?) := by
    intro c offset hoffset
    have hlt := h.offset_lt hoffset
    rw [Fin.getElem_fin, Fin.getElem_fin, getElem_pixel, getElem_pixel, sample_of_some hoffset,
      sample_of_some hoffset, getElem?_eq_some_getD (by omega), getElem?_eq_some_getD (by omega),
      Option.some.injEq]
  rw [sameSamplesAt_iff]
  constructor
  · intro heq offset hmem
    obtain ⟨c, hoffset⟩ := mem_offsets_iff.1 hmem
    rw [← hsample c offset hoffset, heq]
  · intro hall
    apply Vector.ext
    intro c hc
    cases hoffset : map.offset? ⟨c, hc⟩ with
    | some offset =>
      exact (hsample ⟨c, hc⟩ offset hoffset).2 (hall offset (mem_offsets_iff.2 ⟨_, hoffset⟩))
    | none =>
      rw [getElem_pixel, getElem_pixel, sample_of_none hoffset, sample_of_none hoffset]

/-- Nor is it lost in a run of pixels. -/
theorem Fits.raster_inj (h : map.Fits stride) {first count last : Nat}
    (hlast : first + count = last) (room : last * stride ≤ src.size)
    (room' : last * stride ≤ src'.size) :
    (raster (map.pixel stride src) first count).toArray =
        (raster (map.pixel stride src') first count).toArray ↔
      map.SameSamples stride src src' first last := by
  have hroom : ∀ p, p < last → p * stride + stride ≤ last * stride := by
    intro p hp
    rw [← Nat.succ_mul]
    exact Nat.mul_le_mul_right _ hp
  rw [← Array.toList_inj, FrameRgba.raster_inj]
  constructor
  · intro heq p hp hfirst
    obtain ⟨q, rfl⟩ := Nat.exists_eq_add_of_le hfirst
    have hend := hroom _ hp
    exact (h.pixel_inj (by omega) (by omega)).1 (heq q (by omega))
  · intro hsame q hq
    have hp : first + q < last := by omega
    have hend := hroom _ hp
    exact (h.pixel_inj (by omega) (by omega)).2 (hsame _ hp (Nat.le_add_right _ _))

end ChannelMap

/-! ## Rasters of frames -/

namespace Frame

variable {frame : Frame} {layout : Layout} {options : Options} {dst : Bytes}

/-- A whole frame is converted to the raster of its pixels. -/
theorem convert_result_eq_raster (hlayout : frame.format.layout? = some layout)
    (hsource : frame.dims.pixelCount * layout.stride options ≤ frame.raw.size)
    (hdst : dst.size = frame.dims.pixelCount * 4) (hsmall : dst.size < Word.limit Word.sizeBits) :
    (frame.convert options dst).result =
      .done (raster (layout.pixel options frame.raw) 0 frame.dims.pixelCount).toArray := by
  have hfits := PixelFormat.fits_of_layout? hlayout options
  have hle := Nat.mul_le_mul_left frame.dims.pixelCount hfits.stride_le
  have hcheck : frame.dims.checkConversion (layout.stride options) frame.raw.size dst.size =
      .ok (frame.dims.pixelCount * layout.stride options) := by
    rw [Dims.checkConversion_eq_ok_iff, Dims.checkSource_eq_ok_iff]
    exact ⟨by omega, hdst, by omega, hsource, rfl⟩
  exact convert_eq_done_iff.2 ⟨layout, _, hlayout, hcheck, rfl⟩

theorem result_convertInBands (frame : Frame) (options : Options) (rowsPerBand : UInt32)
    (dst : Bytes) (schedule : Schedule) :
    (frame.convertInBands options rowsPerBand dst schedule).result =
      (frame.convert options dst).result :=
  congrArg (frame.withConverter options dst)
    (funext fun _ => writeBands_eq_convert schedule rowsPerBand dst)

/-- Some rows of a frame are converted to the raster of the pixels between their ends. -/
theorem convertRange_result_eq_raster {rows : RowRange} (hrows : rows.Within frame.dims.height)
    (hlayout : frame.format.layout? = some layout)
    (hbytes : frame.dims.pixelCount * layout.stride options < Word.limit Word.sizeBits)
    (hsource : frame.dims.pixelCount * layout.stride options ≤ frame.raw.size)
    (hdst : dst.size = (rows.stop.toNat - rows.start.toNat) * frame.dims.width.toNat * 4)
    (hsmall : dst.size < Word.limit Word.sizeBits) :
    (frame.convertRange options rows dst).result =
      .done (raster (layout.pixel options frame.raw)
        (rows.start.toNat * frame.dims.width.toNat)
        ((rows.stop.toNat - rows.start.toNat) * frame.dims.width.toNat)).toArray := by
  have hdone := Converter.convertRange_eq_done ⟨frame.format, layout, options, hlayout⟩ hrows
    (hdst ▸ hsmall) (Dims.checkSource_eq_ok_iff.2 ⟨hbytes, hsource, rfl⟩) hdst
  show frame.withConverter options dst _ = _
  rw [withConverter_eq hlayout, hdone, Converter.extract_image _ _ hrows]
  rfl

end Frame

/-! ## Two sources -/

/-- Both writes are done, and they leave the same behind exactly if the condition holds. -/
def Outcome.SameIff {ε σ : Type} (first second : Outcome ε σ) (condition : Prop) : Prop :=
  ∃ out out', first = .done out ∧ second = .done out' ∧ (out = out' ↔ condition)

namespace Frame

variable {format : PixelFormat} {map : ChannelMap} {options : Options} {dims : Dims}
  {src src' dst dst' : Bytes}

theorem convert_sameIff (hformat : format.layout? = some (.packed map))
    (hsrc : dims.pixelCount * map.stride options ≤ src.size)
    (hsrc' : dims.pixelCount * map.stride options ≤ src'.size)
    (hdst : dst.size = dims.pixelCount * 4) (hdst' : dst'.size = dims.pixelCount * 4)
    (hsmall : dims.pixelCount * 4 < Word.limit Word.sizeBits) :
    ((⟨dims, format, src⟩ : Frame).convert options dst).result.SameIff
      ((⟨dims, format, src'⟩ : Frame).convert options dst').result
      (map.SameSamples (map.stride options) src src' 0 dims.pixelCount) := by
  have hfits : map.Fits (map.stride options) := PixelFormat.fits_of_layout? hformat options
  refine ⟨_, _, convert_result_eq_raster hformat hsrc hdst (hdst ▸ hsmall),
    convert_result_eq_raster hformat hsrc' hdst' (hdst' ▸ hsmall), ?_⟩
  exact hfits.raster_inj (Nat.zero_add _) hsrc hsrc'

/-- The rows of two sources are converted to the same bytes if the samples between their ends are
the same. -/
theorem convertRange_sameIff (hformat : format.layout? = some (.packed map)) {rows : RowRange}
    (hrows : rows.Within dims.height)
    (hbytes : dims.pixelCount * map.stride options < Word.limit Word.sizeBits)
    (hsrc : dims.pixelCount * map.stride options ≤ src.size)
    (hsrc' : dims.pixelCount * map.stride options ≤ src'.size)
    (hdst : dst.size = (rows.stop.toNat - rows.start.toNat) * dims.width.toNat * 4)
    (hdst' : dst'.size = (rows.stop.toNat - rows.start.toNat) * dims.width.toNat * 4)
    (hsmall : (rows.stop.toNat - rows.start.toNat) * dims.width.toNat * 4 <
      Word.limit Word.sizeBits) :
    ((⟨dims, format, src⟩ : Frame).convertRange options rows dst).result.SameIff
      ((⟨dims, format, src'⟩ : Frame).convertRange options rows dst').result
      (map.SameSamples (map.stride options) src src' (rows.start.toNat * dims.width.toNat)
        (rows.stop.toNat * dims.width.toNat)) := by
  have hfits : map.Fits (map.stride options) := PixelFormat.fits_of_layout? hformat options
  refine ⟨_, _, convertRange_result_eq_raster hrows hformat hbytes hsrc hdst (hdst ▸ hsmall),
    convertRange_result_eq_raster hrows hformat hbytes hsrc' hdst' (hdst' ▸ hsmall), ?_⟩
  have hend := (Dims.rows_le hrows (map.stride options)).2
  exact hfits.raster_inj (Dims.start_add_rows hrows) (Nat.le_trans hend hsrc)
    (Nat.le_trans hend hsrc')

/-- Two sources that have all pixels of an image are converted to the same bytes exactly if they
have the same samples of the pixels that are converted, whether the whole image is converted, some
of its rows, or the image in bands, which may be other bands for each source and come in any order.
The samples of a pixel are the bytes at the offsets of its map, and neither the other bytes of the
sources nor what the destinations held has an influence. -/
theorem packed_sameIff_sameSamples (hformat : format.layout? = some (.packed map))
    (options : Options) (dims : Dims) (src src' : Bytes)
    (hbytes : dims.pixelCount * map.stride options < Word.limit Word.sizeBits)
    (hsrc : dims.pixelCount * map.stride options ≤ src.size)
    (hsrc' : dims.pixelCount * map.stride options ≤ src'.size) :
    (∀ dst dst' : Bytes, dst.size = dims.pixelCount * 4 → dst'.size = dims.pixelCount * 4 →
      dims.pixelCount * 4 < Word.limit Word.sizeBits →
      ((⟨dims, format, src⟩ : Frame).convert options dst).result.SameIff
          ((⟨dims, format, src'⟩ : Frame).convert options dst').result
          (map.SameSamples (map.stride options) src src' 0 dims.pixelCount) ∧
        ∀ (rowsPerBand rowsPerBand' : UInt32) (schedule schedule' : Schedule),
          ((⟨dims, format, src⟩ : Frame).convertInBands options rowsPerBand dst
              schedule).result.SameIff
            ((⟨dims, format, src'⟩ : Frame).convertInBands options rowsPerBand' dst'
              schedule').result
            (map.SameSamples (map.stride options) src src' 0 dims.pixelCount)) ∧
      ∀ (rows : RowRange) (dst dst' : Bytes), rows.Within dims.height →
        dst.size = (rows.stop.toNat - rows.start.toNat) * dims.width.toNat * 4 →
        dst'.size = (rows.stop.toNat - rows.start.toNat) * dims.width.toNat * 4 →
        (rows.stop.toNat - rows.start.toNat) * dims.width.toNat * 4 <
          Word.limit Word.sizeBits →
        ((⟨dims, format, src⟩ : Frame).convertRange options rows dst).result.SameIff
          ((⟨dims, format, src'⟩ : Frame).convertRange options rows dst').result
          (map.SameSamples (map.stride options) src src' (rows.start.toNat * dims.width.toNat)
            (rows.stop.toNat * dims.width.toNat)) := by
  constructor
  · intro dst dst' hdst hdst' hsmall
    have hwhole := convert_sameIff hformat hsrc hsrc' hdst hdst' hsmall
    refine ⟨hwhole, fun rowsPerBand rowsPerBand' schedule schedule' => ?_⟩
    rwa [result_convertInBands, result_convertInBands]
  · intro rows dst dst' hrows hdst hdst' hsmall
    exact convertRange_sameIff hformat hrows hbytes hsrc hsrc' hdst hdst' hsmall

/-- Two sources that differ in a sample of the first row, in all padding and in length. Their second
rows are converted to the same bytes, and the whole images are not. -/
theorem packed_sameIff_sameSamples_padding :
    (∃ out,
      ((⟨⟨1, 2⟩, .bgrx, #[1, 2, 3, 0, 4, 5, 6, 0]⟩ : Frame).convertRange {} ⟨1, 2⟩
          #[0, 0, 0, 0]).result = .done out ∧
        ((⟨⟨1, 2⟩, .bgrx, #[9, 2, 3, 7, 4, 5, 6, 8, 77]⟩ : Frame).convertRange {} ⟨1, 2⟩
          #[5, 5, 5, 5]).result = .done out) ∧
      ∃ out out',
        ((⟨⟨1, 2⟩, .bgrx, #[1, 2, 3, 0, 4, 5, 6, 0]⟩ : Frame).convert {}
            #[0, 0, 0, 0, 0, 0, 0, 0]).result = .done out ∧
          ((⟨⟨1, 2⟩, .bgrx, #[9, 2, 3, 7, 4, 5, 6, 8, 77]⟩ : Frame).convert {}
            #[0, 0, 0, 0, 0, 0, 0, 0]).result = .done out' ∧ out ≠ out' := by
  have hformat : PixelFormat.bgrx.layout? = some (.packed .bgrx) := rfl
  obtain ⟨hwhole, hrows⟩ := packed_sameIff_sameSamples hformat {} ⟨1, 2⟩
    #[1, 2, 3, 0, 4, 5, 6, 0] #[9, 2, 3, 7, 4, 5, 6, 8, 77] (by decide) (by decide) (by decide)
  obtain ⟨row, row', hrow, hrow', hsame⟩ := hrows ⟨1, 2⟩ #[0, 0, 0, 0] #[5, 5, 5, 5] (by decide)
    rfl rfl (by decide)
  obtain ⟨⟨out, out', hout, hout', hdiffer⟩, -⟩ := hwhole #[0, 0, 0, 0, 0, 0, 0, 0]
    #[0, 0, 0, 0, 0, 0, 0, 0] rfl rfl (by decide)
  have hequal : row = row' := hsame.2 (by decide +kernel)
  refine ⟨⟨row, hrow, hequal ▸ hrow'⟩, out, out', hout, hout', fun heq => ?_⟩
  exact absurd (hdiffer.1 heq) (by decide +kernel)

end Frame

end FrameRgba
