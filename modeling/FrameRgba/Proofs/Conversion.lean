import FrameRgba.Converter
import FrameRgba.Proofs.Sizes
import FrameRgba.Proofs.Writes

/-!
# Conversions

What a conversion does once its checks have passed: it writes the raster of the layout's pixels,
and nothing is left of the old destination (`Converter.convert_eq`). Converting some rows writes
the same pixels, counted from the first of these rows (`Converter.convertRange_eq_done`). So the
checks of the kernels refuse nothing that the checks of a conversion let pass, and no step of a
conversion faults.
-/

namespace FrameRgba

/-- A byte of a window is a byte of the source. -/
theorem getD_extract {src : Bytes} {start stop k : Nat} (hstop : stop ≤ src.size)
    (h : start + k < stop) : (src.extract start stop).getD k 0 = src.getD (start + k) 0 := by
  rw [← Array.getElem_eq_getD 0 (h := by rw [Array.size_extract]; omega),
    ← Array.getElem_eq_getD 0 (h := by omega), Array.getElem_extract]

/-! ## Pixels of a layout -/

namespace Layout

/-- Pixel `p` of a source with this layout, as RGBA. -/
def pixel (layout : Layout) (options : Options) (src : Bytes) (p : Nat) : Vector UInt8 4 :=
  match layout with
  | .packed map => map.pixel (map.stride options) src p
  | .gray .eight => Kernel.grayPixel (Kernel.gray8Value src p)
  | .gray .sixteen => Kernel.grayPixel (Kernel.gray16Value options.rounding src p)

/-- All samples of a pixel lie in its own bytes. -/
def Fits (layout : Layout) (options : Options) : Prop :=
  match layout with
  | .packed map => map.Fits (map.stride options)
  | .gray _ => True

theorem Fits.stride_pos {layout : Layout} {options : Options} (h : layout.Fits options) :
    0 < layout.stride options := by
  cases layout with
  | packed map => exact ChannelMap.Fits.stride_pos h
  | gray depth =>
    change 0 < depth.bytes
    cases depth <;> decide

theorem Fits.stride_le {layout : Layout} {options : Options} (h : layout.Fits options) :
    layout.stride options ≤ 4 := by
  cases layout with
  | packed map =>
    have : map.stride options = 3 ∨ map.stride options = 4 := ChannelMap.Fits.stride_eq h
    rw [stride]
    omega
  | gray depth =>
    change depth.bytes ≤ 4
    cases depth <;> decide

/-- A pixel is a function of its own bytes. -/
theorem Fits.pixel_congr {layout : Layout} {options : Options} (h : layout.Fits options)
    {src src' : Bytes} {p p' : Nat}
    (hbytes : ∀ k, k < layout.stride options →
      src.getD (p * layout.stride options + k) 0 = src'.getD (p' * layout.stride options + k) 0) :
    layout.pixel options src p = layout.pixel options src' p' := by
  match layout, h with
  | .packed map, h =>
    apply Vector.ext
    intro c hc
    rw [pixel, pixel, ChannelMap.getElem_pixel, ChannelMap.getElem_pixel]
    cases hoffset : map.offset? ⟨c, hc⟩ with
    | some offset =>
      rw [ChannelMap.sample_of_some hoffset, ChannelMap.sample_of_some hoffset]
      exact hbytes offset.toNat (ChannelMap.Fits.offset_lt h hoffset)
    | none => rw [ChannelMap.sample_of_none hoffset, ChannelMap.sample_of_none hoffset]
  | .gray .eight, _ =>
    have hvalue := hbytes 0 Nat.one_pos
    simp only [stride, GrayDepth.bytes, Nat.mul_one, Nat.add_zero] at hvalue
    rw [pixel, pixel, Kernel.gray8Value, Kernel.gray8Value, hvalue]
  | .gray .sixteen, _ =>
    have hlow := hbytes 0 Nat.two_pos
    have hhigh := hbytes 1 Nat.one_lt_two
    simp only [stride, GrayDepth.bytes, Nat.add_zero] at hlow hhigh
    rw [pixel, pixel, Kernel.gray16Value, Kernel.gray16Value, Kernel.gray16Sample,
      Kernel.gray16Sample, hlow, hhigh]

/-- The pixels of a window that begins at pixel `first` are pixels of the source. -/
theorem Fits.raster_extract {layout : Layout} {options : Options} (h : layout.Fits options)
    {src : Bytes} {first count stop : Nat} (hstop : stop ≤ src.size)
    (hcount : (first + count) * layout.stride options ≤ stop) :
    raster (layout.pixel options (src.extract (first * layout.stride options) stop)) 0 count =
      raster (layout.pixel options src) first count := by
  apply raster_congr
  intro p hp
  rw [Nat.zero_add]
  apply h.pixel_congr
  intro k hk
  have hlast : (first + p + 1) * layout.stride options ≤ stop :=
    Nat.le_trans (Nat.mul_le_mul_right _ (by omega)) hcount
  have hroom : first * layout.stride options + (p * layout.stride options + k) < stop := by
    rw [Nat.add_mul, Nat.add_mul, Nat.one_mul] at hlast
    omega
  rw [getD_extract hstop hroom, Nat.add_mul, Nat.add_assoc]

end Layout

/-- The layouts of all formats fit, however the pixels of three channels are spaced. -/
theorem PixelFormat.fits_of_layout? {format : PixelFormat} {layout : Layout}
    (h : format.layout? = some layout) (options : Options) : layout.Fits options := by
  match format, h with
  | .rgba, rfl | .rgbx, rfl | .bgra, rfl | .bgrx, rfl | .argb, rfl =>
    show ChannelMap.Fits _ 4
    decide
  | .rgb, rfl | .bgr, rfl =>
    show ChannelMap.Fits _ options.spacing.bytes
    cases options.spacing <;> decide
  | .y8, rfl | .y16, rfl => exact trivial

/-! ## Whole images -/

section

variable {layout : Layout} {options : Options} {dims : Dims} {src dst : Bytes}

/-- What the conversions of all layouts have in common: the checks, and then a write that gets the
bytes of the pixels and no others. -/
theorem Layout.Fits.require_eq (h : layout.Fits options)
    (write : Bytes → Outcome KernelError Bytes)
    (hwrite : ∀ pixels : Bytes, 0 < dims.pixelCount →
      dims.pixelCount * 4 < Word.limit Word.sizeBits →
      pixels.size = dims.pixelCount * layout.stride options → dst.size = dims.pixelCount * 4 →
      write pixels = .done (raster (layout.pixel options pixels) 0 dims.pixelCount).toArray) :
    (.require (dims.checkConversion (layout.stride options) src.size dst.size) dst fun needed =>
      if needed = 0 then .done dst
      else
        .checked (Buffer.window src 0 needed) fun pixels =>
        (write pixels).mapError .kernel : Outcome FrameError Bytes) =
      .require (dims.checkConversion (layout.stride options) src.size dst.size) dst fun _ =>
        .done (raster (layout.pixel options src) 0 dims.pixelCount).toArray := by
  cases hcheck : dims.checkConversion (layout.stride options) src.size dst.size with
  | error e => rfl
  | ok needed =>
    obtain ⟨hsmall, hdst, hsource⟩ := Dims.checkConversion_eq_ok_iff.1 hcheck
    obtain ⟨-, hle, rfl⟩ := Dims.checkSource_eq_ok_iff.1 hsource
    rw [Outcome.require_ok, Outcome.require_ok]
    -- without pixels nothing is written, which is right only because the destination is empty then
    by_cases hzero : dims.pixelCount * layout.stride options = 0
    · have hnone : dims.pixelCount = 0 :=
        (Nat.mul_eq_zero.1 hzero).resolve_right (Nat.ne_of_gt h.stride_pos)
      have hempty : dst = #[] := Array.size_eq_zero_iff.1 (by rw [hdst, hnone])
      rw [if_pos hzero, hnone, raster_zero, hempty]
    · have hpos : 0 < dims.pixelCount :=
        Nat.pos_of_mul_pos_right (Nat.pos_of_ne_zero hzero)
      have hsize : (src.extract 0 (dims.pixelCount * layout.stride options)).size =
          dims.pixelCount * layout.stride options := by
        rw [Array.size_extract]
        omega
      have hpixels := h.raster_extract hle (Nat.mul_le_mul_right _ (Nat.zero_add _).le)
      rw [Nat.zero_mul] at hpixels
      rw [if_neg hzero, Buffer.window_eq_ok (Nat.zero_le _) hle, Outcome.checked_ok,
        hwrite _ hpos hsmall hsize hdst, hpixels]
      rfl

theorem ChannelMap.convert_eq {map : ChannelMap}
    (h : (Layout.packed map).Fits options) :
    map.convert options dims src dst =
      .require (dims.checkConversion (map.stride options) src.size dst.size) dst fun _ =>
        .done (raster ((Layout.packed map).pixel options src) 0 dims.pixelCount).toArray := by
  refine h.require_eq _ fun pixels hpos hsmall hsize hdst => ?_
  have hquotient : pixels.size / map.stride options = dims.pixelCount := by
    rw [hsize]
    exact Nat.mul_div_cancel _ h.stride_pos
  rw [Kernel.writePacked_eq h (by rwa [hquotient])]
  exact Kernel.ite_sizes_eq_done h.stride_pos hpos hsize hdst

/-- That a map does not fit is found only if there are pixels. -/
theorem ChannelMap.convert_eq_of_not_fits {map : ChannelMap}
    (h : ¬ map.Fits (map.stride options)) :
    map.convert options dims src dst =
      .require (dims.checkConversion (map.stride options) src.size dst.size) dst fun _ =>
        if dims.pixelCount = 0 then .done dst else .refused (.kernel .mapMisfit) dst := by
  rw [convert]
  cases hcheck : dims.checkConversion (map.stride options) src.size dst.size with
  | error e => rfl
  | ok needed =>
    obtain ⟨-, -, hsource⟩ := Dims.checkConversion_eq_ok_iff.1 hcheck
    obtain ⟨-, hle, rfl⟩ := Dims.checkSource_eq_ok_iff.1 hsource
    have hstride : map.stride options ≠ 0 := by
      have := eq_of_mem_strides (map.stride_mem_strides options)
      omega
    rw [Outcome.require_ok, Outcome.require_ok, Buffer.window_eq_ok (Nat.zero_le _) hle,
      Outcome.checked_ok, Kernel.writePacked_eq_refused h]
    by_cases hzero : dims.pixelCount = 0
    · rw [if_pos (Nat.mul_eq_zero.2 (.inl hzero)), if_pos hzero]
    · rw [if_neg (Nat.mul_ne_zero hzero hstride), if_neg hzero]
      rfl

theorem GrayDepth.convert_eq (depth : GrayDepth) :
    depth.convert options dims src dst =
      .require (dims.checkConversion depth.bytes src.size dst.size) dst fun _ =>
        .done (raster ((Layout.gray depth).pixel options src) 0 dims.pixelCount).toArray := by
  have hfits : (Layout.gray depth).Fits options := trivial
  cases depth with
  | eight =>
    refine hfits.require_eq (fun samples => Kernel.writeGray8 samples dst)
      fun pixels hpos hsmall hsize hdst => ?_
    have hsize : pixels.size = dims.pixelCount * 1 := hsize
    rw [Kernel.writeGray8_eq (by rwa [hsize, Nat.mul_div_cancel _ Nat.one_pos])]
    exact Kernel.ite_sizes_eq_done Nat.one_pos hpos hsize hdst
  | sixteen =>
    refine hfits.require_eq (fun samples => Kernel.writeGray16 samples dst options.rounding)
      fun pixels hpos hsmall hsize hdst => ?_
    have hsize : pixels.size = dims.pixelCount * 2 := hsize
    rw [Kernel.writeGray16_eq (by rwa [hsize, Nat.mul_div_cancel _ Nat.two_pos])]
    exact Kernel.ite_sizes_eq_done Nat.two_pos hpos hsize hdst

end

namespace Converter

variable {dims : Dims} {rows : RowRange} {src dst : Bytes} {needed : Nat}

theorem fits (converter : Converter) : converter.layout.Fits converter.options :=
  PixelFormat.fits_of_layout? converter.layout_eq converter.options

theorem stride_le (converter : Converter) : converter.stride ≤ 4 :=
  converter.fits.stride_le

/-- The pixels of a source, as bytes. -/
def image (converter : Converter) (dims : Dims) (src : Bytes) : Bytes :=
  (raster (converter.layout.pixel converter.options src) 0 dims.pixelCount).toArray

theorem size_image (converter : Converter) (dims : Dims) (src : Bytes) :
    (converter.image dims src).size = dims.pixelCount * 4 := by
  rw [image, size_toArray_raster, Nat.mul_comm]

/-- A conversion is refused by its checks or is done, and then nothing is left of the old
destination. -/
theorem convert_eq (converter : Converter) (dims : Dims) (src dst : Bytes) :
    converter.convert dims src dst =
      .require (dims.checkConversion converter.stride src.size dst.size) dst fun _ =>
        .done (converter.image dims src) := by
  have hfits := converter.fits
  unfold convert stride image
  cases hlayout : converter.layout with
  | packed map =>
    rw [hlayout] at hfits
    exact ChannelMap.convert_eq hfits
  | gray depth => exact GrayDepth.convert_eq depth

/-! ## Rows of an image -/

/-- The bytes of some rows of a source. -/
def sourceRows (converter : Converter) (dims : Dims) (rows : RowRange) (src : Bytes) : Bytes :=
  src.extract (rows.start.toNat * dims.width.toNat * converter.stride)
    (rows.stop.toNat * dims.width.toNat * converter.stride)

/-- A source with all pixels of the image has all bytes of its rows. -/
theorem size_sourceRows (converter : Converter) (hrows : rows.Within dims.height)
    (hle : dims.pixelCount * converter.stride ≤ src.size) :
    (converter.sourceRows dims rows src).size =
      (rows.stop.toNat - rows.start.toNat) * dims.width.toNat * converter.stride := by
  obtain ⟨-, hend⟩ := Dims.rows_le hrows converter.stride
  rw [sourceRows, Array.size_extract, Nat.min_eq_left (Nat.le_trans hend hle), ← Nat.sub_mul,
    ← Nat.sub_mul]

/-- Rows of the image are converted like an image of their own. -/
theorem convertRange_eq_convert (converter : Converter) (hrows : rows.Within dims.height)
    (hsource : dims.checkSource converter.stride src.size = .ok needed) (dst : Bytes) :
    converter.convertRange dims rows src dst =
      converter.convert ⟨dims.width, .ofNat (rows.stop.toNat - rows.start.toNat)⟩
        (converter.sourceRows dims rows src) dst := by
  obtain ⟨hbytes, hle, -⟩ := Dims.checkSource_eq_ok_iff.1 hsource
  obtain ⟨hbegin, hend⟩ := Dims.rows_le hrows converter.stride
  have hstart : Word.mul Word.sizeBits rows.start.toNat (dims.width.toNat * converter.stride) =
      .ok (rows.start.toNat * dims.width.toNat * converter.stride) := by
    rw [Word.mul_eq_ok] <;> rw [← Nat.mul_assoc]
    omega
  have hstop : Word.mul Word.sizeBits rows.stop.toNat (dims.width.toNat * converter.stride) =
      .ok (rows.stop.toNat * dims.width.toNat * converter.stride) := by
    rw [Word.mul_eq_ok] <;> rw [← Nat.mul_assoc]
    omega
  rw [convertRange, checkRows, if_pos hrows, Outcome.require_ok, hsource, Outcome.require_ok,
    Dims.imageSize_row converter.stride_le, Outcome.require_ok, hstart, Outcome.checked_ok, hstop,
    Outcome.checked_ok, Buffer.window_eq_ok hbegin (Nat.le_trans hend hle), Outcome.checked_ok,
    Word.sub, if_pos (UInt32.le_iff_toNat_le.1 hrows.1), Outcome.checked_ok, sourceRows]

/-- The bytes that some rows have in the whole image are those of their pixels. -/
theorem extract_image (converter : Converter) (src : Bytes) (hrows : rows.Within dims.height) :
    (converter.image dims src).extract (rows.start.toNat * dims.width.toNat * 4)
        (rows.stop.toNat * dims.width.toNat * 4) =
      (raster (converter.layout.pixel converter.options src) (rows.start.toNat * dims.width.toNat)
        ((rows.stop.toNat - rows.start.toNat) * dims.width.toNat)).toArray := by
  have hstop : rows.stop.toNat ≤ dims.height.toNat := UInt32.le_iff_toNat_le.1 hrows.2
  have hsum := Dims.start_add_rows hrows
  rw [image, Nat.mul_comm _ 4, Nat.mul_comm _ 4, ← hsum,
    extract_toArray_raster (hsum ▸ Dims.rows_mul_width_le hstop)]

/-- The image of some rows is the same piece of the whole image as the rows are of the source. -/
theorem image_sourceRows (converter : Converter) (hrows : rows.Within dims.height)
    (hle : dims.pixelCount * converter.stride ≤ src.size) :
    converter.image ⟨dims.width, .ofNat (rows.stop.toNat - rows.start.toNat)⟩
        (converter.sourceRows dims rows src) =
      (converter.image dims src).extract (rows.start.toNat * dims.width.toNat * 4)
        (rows.stop.toNat * dims.width.toNat * 4) := by
  obtain ⟨-, hend⟩ := Dims.rows_le hrows converter.stride
  have hcount : rows.stop.toNat - rows.start.toNat < UInt32.size :=
    Nat.lt_of_le_of_lt (Nat.sub_le _ _) rows.stop.toNat_lt
  have hpixels := converter.fits.raster_extract (Nat.le_trans hend hle)
    (Nat.le_of_eq (congrArg (· * converter.stride) (Dims.start_add_rows hrows)))
  rw [extract_image converter src hrows, image, Dims.pixelCount_ofNat hcount, sourceRows]
  exact congrArg List.toArray hpixels

/-- Rows that were checked to be rows of the image are converted to the bytes that they have in the
whole image. -/
theorem convertRange_eq_done (converter : Converter) (hrows : rows.Within dims.height)
    (hsmall : (rows.stop.toNat - rows.start.toNat) * dims.width.toNat * 4 <
      Word.limit Word.sizeBits)
    (hsource : dims.checkSource converter.stride src.size = .ok needed)
    (hdst : dst.size = (rows.stop.toNat - rows.start.toNat) * dims.width.toNat * 4) :
    converter.convertRange dims rows src dst =
      .done ((converter.image dims src).extract (rows.start.toNat * dims.width.toNat * 4)
        (rows.stop.toNat * dims.width.toNat * 4)) := by
  obtain ⟨hbytes, hle, -⟩ := Dims.checkSource_eq_ok_iff.1 hsource
  have hcount : rows.stop.toNat - rows.start.toNat ≤ dims.height.toNat :=
    Nat.le_trans (Nat.sub_le _ _) (UInt32.le_iff_toNat_le.1 hrows.2)
  have hband := Dims.rows_mul_width_le hcount
  have hcheck : Dims.checkConversion
      ⟨dims.width, .ofNat (rows.stop.toNat - rows.start.toNat)⟩ converter.stride
      (converter.sourceRows dims rows src).size dst.size =
      .ok ((rows.stop.toNat - rows.start.toNat) * dims.width.toNat * converter.stride) := by
    rw [Dims.checkConversion_eq_ok_iff, Dims.checkSource_eq_ok_iff,
      converter.size_sourceRows hrows hle,
      Dims.pixelCount_ofNat (Nat.lt_of_le_of_lt hcount dims.height.toNat_lt)]
    refine ⟨hsmall, hdst, ?_, Nat.le_refl _, rfl⟩
    exact Nat.lt_of_le_of_lt (Nat.mul_le_mul_right _ hband) hbytes
  rw [converter.convertRange_eq_convert hrows hsource, convert_eq, hcheck, Outcome.require_ok,
    converter.image_sourceRows hrows hle]

end Converter

end FrameRgba
