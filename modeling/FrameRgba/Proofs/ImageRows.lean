import FrameRgba.Image
import FrameRgba.Proofs.Refusals
import FrameRgba.Proofs.RowRanges

/-!
# Rows of an image

A frame goes into an image row by row. Three places belong to row `y`: its bytes in the source, its
pixels in the converted picture, and its pixels in the buffer of the image, which are `stride`
pixels after those of the row before. The invariant of the loop is `Image.RowsWritten`: the rows
that were converted are those of the picture, and no pixel outside of them has changed. Since rows
are no longer than the stride, the next row touches none of those before it
(`Image.RowsWritten.succ`).

All checks are made before the first row, and no row is refused after them
(`Frame.inTurn_convertImageRow`), so an image gets all of its rows or none
(`Frame.convertInto_result_exact`).
-/

namespace FrameRgba

namespace Image

variable {image out : Image} {picture : Bytes} {count y : Nat}

/-! ## Where rows lie -/

/-- The pixels of row `y`. -/
def row (image : Image) (y : Nat) : Array Rgba :=
  image.pixels.extract (y * image.stride) (y * image.stride + image.dims.width.toNat)

/-- Item `i` of the buffer is a pixel of row `y`. -/
def InRow (image : Image) (y i : Nat) : Prop :=
  y * image.stride ≤ i ∧ i < y * image.stride + image.dims.width.toNat

/-- A row ends before the next one begins. -/
theorem row_end_le (image : Image) {y' : Nat} (h : y < y') :
    y * image.stride + image.dims.width.toNat ≤ y' * image.stride := by
  calc y * image.stride + image.dims.width.toNat
      ≤ y * image.stride + image.stride := Nat.add_le_add_left image.width_le_stride _
    _ = (y + 1) * image.stride := (Nat.succ_mul _ _).symm
    _ ≤ y' * image.stride := Nat.mul_le_mul_right _ h

/-- The rows that a conversion goes through lie in the buffer. -/
theorem row_end_le_size (image : Image) (h : y < image.rowCount) :
    y * image.stride + image.dims.width.toNat ≤ image.pixels.size := by
  have hheight : y < image.dims.height.toNat := Nat.lt_of_lt_of_le h (Nat.min_le_left _ _)
  rcases Nat.eq_zero_or_pos image.dims.width.toNat with hwidth | hwidth
  · have hbegin : y < image.pixels.size / image.stride + 1 :=
      Nat.lt_of_lt_of_le h (Nat.min_le_right _ _)
    rw [hwidth, Nat.add_zero]
    exact (Nat.le_div_iff_mul_le image.stride_pos).1 (Nat.lt_succ_iff.1 hbegin)
  · have hlast := image.fits (image.dims.width.toNat - 1) y (by omega) hheight
    omega

/-- An image with columns has all of its rows gone through. -/
theorem rowCount_eq_height (h : 0 < image.dims.width.toNat) :
    image.rowCount = image.dims.height.toNat := by
  apply Nat.min_eq_left
  rcases Nat.eq_zero_or_pos image.dims.height.toNat with hheight | hheight
  · rw [hheight]
    exact Nat.zero_le _
  · have hlast := image.fits 0 (image.dims.height.toNat - 1) h (by omega)
    have hbegin : image.dims.height.toNat - 1 ≤ image.pixels.size / image.stride :=
      (Nat.le_div_iff_mul_le image.stride_pos).2 (by omega)
    omega

/-- The buffer has room for all pixels of the image. -/
theorem pixelCount_le_size (image : Image) : image.dims.pixelCount ≤ image.pixels.size := by
  rw [Dims.pixelCount]
  rcases Nat.eq_zero_or_pos image.dims.width.toNat with hwidth | hwidth
  · rw [hwidth, Nat.zero_mul]
    exact Nat.zero_le _
  · rcases Nat.eq_zero_or_pos image.dims.height.toNat with hheight | hheight
    · rw [hheight, Nat.mul_zero]
      exact Nat.zero_le _
    · have hlast := image.row_end_le_size (y := image.dims.height.toNat - 1)
        (by rw [rowCount_eq_height hwidth]; omega)
      calc image.dims.width.toNat * image.dims.height.toNat
          = (image.dims.height.toNat - 1) * image.dims.width.toNat + image.dims.width.toNat := by
            rw [← Nat.succ_mul, Nat.succ_eq_add_one, Nat.sub_add_cancel hheight, Nat.mul_comm]
        _ ≤ (image.dims.height.toNat - 1) * image.stride + image.dims.width.toNat :=
            Nat.add_le_add_right (Nat.mul_le_mul_left _ image.width_le_stride) _
        _ ≤ image.pixels.size := hlast

/-- The size in bytes of an image that is in memory is a word. -/
theorem pixelCount_mul_four_lt (hmemory : image.pixels.size * 4 < Word.limit 63) :
    image.dims.pixelCount * 4 < Word.limit Word.sizeBits := by
  have hlimit : Word.limit 63 < Word.limit Word.sizeBits := by decide
  have hcount := image.pixelCount_le_size
  omega

/-- What an image is made of. -/
theorem eq_of_make_eq_ok {dims : Dims} {stride : Nat} {pixels : Array Rgba}
    (h : make dims stride pixels = .ok image) :
    image.pixels = pixels ∧ image.dims = dims ∧ image.stride = stride := by
  dsimp only [make] at h
  by_cases hpos : stride = 0
  · rw [dif_pos hpos] at h
    cases h
  · rw [dif_neg hpos] at h
    by_cases hwidth : stride < dims.width.toNat
    · rw [dif_pos hwidth] at h
      cases h
    · rw [dif_neg hwidth] at h
      by_cases hsize : pixels.size < if dims.width.toNat = 0 ∨ dims.height.toNat = 0 then 0
          else (dims.height.toNat - 1) * stride + dims.width.toNat
      · rw [dif_pos hsize] at h
        cases h
      · rw [dif_neg hsize] at h
        cases h
        exact ⟨rfl, rfl, rfl⟩

/-! ## Rows of a picture -/

/-- The pixels of row `y` of a picture. -/
def pictureRow (dims : Dims) (picture : Bytes) (y : Nat) : Array Rgba :=
  Pixel.ofBytes (dims.rowBytes y picture)

theorem size_pictureRow {dims : Dims} (h : (y + 1) * dims.width.toNat * 4 ≤ picture.size) :
    (pictureRow dims picture y).size = dims.width.toNat := by
  rw [pictureRow, Pixel.size_ofBytes, Dims.size_rowBytes h]
  exact Nat.mul_div_cancel _ (by decide)

/-- `out` is the image with its first `count` rows replaced by those of the picture, and no other
pixel of the buffer changed. -/
structure RowsWritten (image : Image) (picture : Bytes) (count : Nat) (out : Image) : Prop where
  dims_eq : out.dims = image.dims
  stride_eq : out.stride = image.stride
  size_eq : out.pixels.size = image.pixels.size
  row_eq : ∀ y, y < count → out.row y = pictureRow image.dims picture y
  kept : ∀ i, (∀ y, y < count → ¬ image.InRow y i) → out.pixels[i]? = image.pixels[i]?

namespace RowsWritten

theorem zero (image : Image) (picture : Bytes) : image.RowsWritten picture 0 image :=
  ⟨rfl, rfl, rfl, fun _ hy => absurd hy (Nat.not_lt_zero _), fun _ _ => rfl⟩

theorem rowCount_eq (h : image.RowsWritten picture count out) : out.rowCount = image.rowCount := by
  rw [rowCount, rowCount, h.dims_eq, h.stride_eq, h.size_eq]

/-- The next row goes behind those that were written, and touches none of them. -/
theorem succ (h : image.RowsWritten picture y out) (hrow : y < image.rowCount)
    (hpicture : (y + 1) * image.dims.width.toNat * 4 ≤ picture.size) :
    image.RowsWritten picture (y + 1)
      (out.overwrite (y * image.stride) (pictureRow image.dims picture y)) := by
  have hlength : (pictureRow image.dims picture y).toList.length =
      image.dims.width.toNat := by
    rw [Array.length_toList, size_pictureRow hpicture]
  have hroom : y * image.stride + image.dims.width.toNat ≤ out.pixels.size := by
    rw [h.size_eq]
    exact image.row_end_le_size hrow
  have hself : (Buffer.overwrite out.pixels (y * image.stride)
      (pictureRow image.dims picture y).toList).extract (y * image.stride)
      (y * image.stride + image.dims.width.toNat) =
      pictureRow image.dims picture y := by
    have hwritten := Buffer.extract_overwrite_self (hlength ▸ hroom)
    rwa [hlength, Array.toArray_toList] at hwritten
  refine ⟨h.dims_eq, h.stride_eq, (Buffer.size_overwrite _ _ _).trans h.size_eq, ?_, ?_⟩
  · intro y' hy'
    show (Buffer.overwrite out.pixels _ _).extract (y' * out.stride)
      (y' * out.stride + out.dims.width.toNat) = _
    rw [h.stride_eq, h.dims_eq]
    rcases Nat.lt_or_ge y' y with hlt | hge
    · rw [Buffer.extract_overwrite_of_apart _ (.inl (image.row_end_le hlt)), ← h.row_eq y' hlt, row,
        h.stride_eq, h.dims_eq]
    · obtain rfl : y' = y := by omega
      exact hself
  · intro i hi
    have hoff : ¬ image.InRow y i := hi y (Nat.lt_succ_self y)
    have hbefore := h.kept i fun y' hy' => hi y' (Nat.lt_succ_of_lt hy')
    rw [InRow] at hoff
    exact (Buffer.getElem?_overwrite_of_outside _ (by rw [hlength]; omega)).trans hbefore

/-- Rows that are not gone through have no pixels. -/
theorem all (h : image.RowsWritten picture image.rowCount out) :
    image.RowsWritten picture image.dims.height.toNat out := by
  rcases Nat.eq_zero_or_pos image.dims.width.toNat with hwidth | hwidth
  · refine ⟨h.dims_eq, h.stride_eq, h.size_eq, ?_, ?_⟩
    · intro y hy
      have hout : (out.row y).size = 0 := by
        rw [row, h.dims_eq, hwidth, Array.size_extract]
        omega
      have hpicture : (pictureRow image.dims picture y).size = 0 := by
        rw [size_pictureRow (by rw [hwidth, Nat.mul_zero, Nat.zero_mul]; exact Nat.zero_le _),
          hwidth]
      rw [Array.eq_empty_of_size_eq_zero hout, Array.eq_empty_of_size_eq_zero hpicture]
    · intro i hi
      exact h.kept i fun y hy => hi y (Nat.lt_of_lt_of_le hy (Nat.min_le_left _ _))
  · rwa [rowCount_eq_height hwidth] at h

end RowsWritten

end Image

/-! ## The loop -/

/-- A single row is converted to the bytes that it has in the whole image. -/
theorem Converter.convertRange_eq_done_rowBytes (converter : Converter) {dims : Dims} {y : Nat}
    {src dst : Bytes} {needed : Nat} (hrow : y < dims.height.toNat)
    (hsource : dims.checkSource converter.stride src.size = .ok needed)
    (hdst : dst.size = dims.width.toNat * 4) :
    converter.convertRange dims ⟨.ofNat y, .ofNat (y + 1)⟩ src dst =
      .done (dims.rowBytes y (converter.image dims src)) := by
  have hheight : dims.height.toNat < UInt32.size := dims.height.toNat_lt
  have hstart : (UInt32.ofNat y).toNat = y := UInt32.toNat_ofNat_of_lt' (by omega)
  have hstop : (UInt32.ofNat (y + 1)).toNat = y + 1 := UInt32.toNat_ofNat_of_lt' (by omega)
  have hwithin : RowRange.Within ⟨.ofNat y, .ofNat (y + 1)⟩ dims.height := by
    rw [RowRange.Within, UInt32.le_iff_toNat_le, UInt32.le_iff_toNat_le, hstart, hstop]
    omega
  have hone : (y + 1 - y) * dims.width.toNat * 4 = dims.width.toNat * 4 := by
    rw [Nat.add_sub_cancel_left, Nat.one_mul]
  have hsmall : dims.width.toNat * 4 < Word.limit Word.sizeBits := by
    have hwidth := dims.width.toNat_lt
    show _ < 2 ^ 64
    omega
  have hdone := converter.convertRange_eq_done hwithin (by rwa [hstart, hstop, hone]) hsource
    (by rw [hdst, hstart, hstop, hone])
  rwa [hstart, hstop] at hdone

namespace Frame

variable {frame : Frame} {converter : Converter} {image : Image} {needed : Nat}

/-- After the checks, a row of the image is written with the same row of the picture. -/
theorem convertImageRow_eq_done (hdims : image.dims = frame.dims)
    (hsource : frame.dims.checkSource converter.stride frame.raw.size = .ok needed) {y : Nat}
    (hrow : y < image.rowCount) :
    frame.convertImageRow converter y image =
      .done (image.overwrite (y * image.stride)
        (Image.pictureRow image.dims (converter.image frame.dims frame.raw) y)) := by
  have hheight : y < frame.dims.height.toNat :=
    hdims ▸ Nat.lt_of_lt_of_le hrow (Nat.min_le_left _ _)
  have hlimit : frame.dims.height.toNat < UInt32.size := frame.dims.height.toNat_lt
  have hroom := image.row_end_le_size hrow
  have hsize : (Pixel.toBytes (image.row y)).size = frame.dims.width.toNat * 4 := by
    rw [Pixel.size_toBytes, Image.row, Array.size_extract, Nat.min_eq_left hroom,
      Nat.add_sub_cancel_left, hdims]
    rfl
  rw [convertImageRow, Word.add, Word.fit_eq_ok (show y + 1 < UInt32.size by omega),
    Outcome.checked_ok, Image.withinRow, Buffer.window_eq_ok (Nat.le_add_right _ _) hroom,
    Outcome.checked_ok, Rgba.asBytes, ← Image.row,
    converter.convertRange_eq_done_rowBytes hheight hsource hsize, hdims]
  rfl

/-- After the checks, no row is refused. -/
theorem inTurn_convertImageRow (hdims : image.dims = frame.dims)
    (hsource : frame.dims.checkSource converter.stride frame.raw.size = .ok needed) {count : Nat}
    (hcount : count ≤ image.rowCount) :
    ∃ out, .inTurn (frame.convertImageRow converter) (List.range count) image =
        (.done out : Outcome FrameError Image) ∧
      image.RowsWritten (converter.image frame.dims frame.raw) count out := by
  induction count with
  | zero => exact ⟨image, rfl, .zero image _⟩
  | succ y ih =>
    obtain ⟨out, hout, hwritten⟩ := ih (by omega)
    have hrow : y < image.rowCount := hcount
    have hheight : y + 1 ≤ frame.dims.height.toNat :=
      hdims ▸ Nat.lt_of_lt_of_le hrow (Nat.min_le_left _ _)
    have hpicture : (y + 1) * image.dims.width.toNat * 4 ≤
        (converter.image frame.dims frame.raw).size := by
      rw [Converter.size_image, hdims]
      exact Nat.mul_le_mul_right _ (Dims.rows_mul_width_le hheight)
    have hstep := convertImageRow_eq_done (hwritten.dims_eq.trans hdims) hsource
      (hwritten.rowCount_eq ▸ hrow)
    rw [hwritten.stride_eq, hwritten.dims_eq] at hstep
    refine ⟨_, ?_, hwritten.succ hrow hpicture⟩
    rw [List.range_succ, Outcome.inTurn_append, hout, Outcome.andThen_done, Outcome.inTurn_cons,
      hstep]
    rfl

/-! ## The checks in front of it -/

/-- The first reason not to convert the frame, whose source has `stride` bytes for each pixel, into
an image of these dimensions. -/
def imageRefusal? (frame : Frame) (stride : Nat) (dims : Dims) : Option FrameError :=
  if dims ≠ frame.dims then
    if Word.limit Word.sizeBits ≤ 4 * frame.dims.width.toNat * frame.dims.height.toNat then
      some (.tooLarge frame.dims)
    else
      some (.wrongDestination (4 * frame.dims.width.toNat * frame.dims.height.toNat)
        (4 * dims.width.toNat * dims.height.toNat))
  else if frame.raw.size < stride * frame.dims.width.toNat * frame.dims.height.toNat then
    some (.shortSource (stride * frame.dims.width.toNat * frame.dims.height.toNat) frame.raw.size)
  else
    none

/-- The answer for an image with other dimensions than the frame. The size of the frame may be no
word, and then that of the image is not looked at. -/
theorem checkImage_of_dims_ne (h : image.dims ≠ frame.dims) :
    frame.checkImage image =
      if Word.limit Word.sizeBits ≤ frame.dims.pixelCount * 4 then
        .ok (.error (.tooLarge frame.dims))
      else
        (Word.fit Word.sizeBits (image.dims.pixelCount * 4)).map fun actual =>
          .error (.wrongDestination (frame.dims.pixelCount * 4) actual) := by
  have hpixels : Word.mul Word.sizeBits image.dims.width.toNat image.dims.height.toNat =
      .ok image.dims.pixelCount :=
    Word.mul_eq_ok image.dims.pixelCount_lt
  rw [checkImage, if_neg h, rgbaSize]
  by_cases hlarge : Word.limit Word.sizeBits ≤ frame.dims.pixelCount * 4
  · rw [if_pos hlarge, Dims.imageSize_eq_of_le hlarge]
    rfl
  · rw [if_neg hlarge, Dims.imageSize_eq_of_lt (Nat.lt_of_not_le hlarge), hpixels]
    rfl

/-- The size of an image that is in memory never overflows, so the comparison of the dimensions
always has an answer. -/
theorem checkImage_eq (frame : Frame) (hmemory : image.pixels.size * 4 < Word.limit 63) :
    frame.checkImage image =
      .ok (if image.dims = frame.dims then .ok ()
        else if Word.limit Word.sizeBits ≤ frame.dims.pixelCount * 4 then
          .error (.tooLarge frame.dims)
        else
          .error (.wrongDestination (frame.dims.pixelCount * 4) (image.dims.pixelCount * 4))) := by
  by_cases hdims : image.dims = frame.dims
  · rw [checkImage, if_pos hdims, if_pos hdims]
    rfl
  · rw [checkImage_of_dims_ne hdims, if_neg hdims,
      Word.fit_eq_ok (Image.pixelCount_mul_four_lt hmemory)]
    split <;> rfl

/-- What becomes of an image: it is refused as a whole, or all of its rows are written. -/
theorem writeImage_eq (frame : Frame) (converter : Converter)
    (hmemory : image.pixels.size * 4 < Word.limit 63) :
    match frame.imageRefusal? converter.stride image.dims with
    | some error => frame.writeImage converter image = .refused error image
    | none =>
      frame.dims.pixelCount * 4 < Word.limit Word.sizeBits ∧
        frame.dims.checkSource converter.stride frame.raw.size =
          .ok (frame.dims.pixelCount * converter.stride) ∧
        ∃ out, frame.writeImage converter image = .done out ∧
          image.RowsWritten (converter.image frame.dims frame.raw) image.dims.height.toNat out := by
  simp only [imageRefusal?, Dims.mul_width_mul_height]
  rw [writeImage, checkImage_eq frame hmemory, Outcome.checked_ok]
  by_cases hdims : image.dims = frame.dims
  · have hcount : frame.dims.pixelCount * 4 < Word.limit Word.sizeBits :=
      hdims ▸ Image.pixelCount_mul_four_lt hmemory
    have hstride := Nat.mul_le_mul_left frame.dims.pixelCount converter.stride_le
    rw [if_pos hdims, Outcome.require_ok, if_neg (not_not_intro hdims)]
    by_cases hshort : frame.raw.size < frame.dims.pixelCount * converter.stride
    · have hsource : frame.dims.checkSource converter.stride frame.raw.size =
          .error (.shortSource (frame.dims.pixelCount * converter.stride) frame.raw.size) := by
        rw [Dims.checkSource_eq, if_neg (by omega), if_pos hshort]
      rw [if_pos hshort, hsource]
      rfl
    · have hsource : frame.dims.checkSource converter.stride frame.raw.size =
          .ok (frame.dims.pixelCount * converter.stride) := by
        rw [Dims.checkSource_eq, if_neg (by omega), if_neg hshort]
      obtain ⟨out, hout, hwritten⟩ := inTurn_convertImageRow hdims hsource (Nat.le_refl _)
      rw [if_neg hshort]
      refine ⟨hcount, hsource, out, ?_, hwritten.all⟩
      rw [hsource, Outcome.require_ok, hout]
  · rw [if_neg hdims, if_pos hdims]
    by_cases hlarge : Word.limit Word.sizeBits ≤ frame.dims.pixelCount * 4
    · rw [if_pos hlarge, if_pos hlarge]
      rfl
    · rw [if_neg hlarge, if_neg hlarge]
      rfl

theorem convertInto_result (frame : Frame) (options : Options) (image : Image) :
    (frame.convertInto options image).result =
      frame.withConverter options image fun converter => frame.writeImage converter image :=
  rfl

/-- What becomes of an image in memory: it is refused for the format of the frame, for other
dimensions than those of the frame or for a short source, in this order, and is as it was then. Else
each of its rows is the same row of the picture that the frame converts to, and no other pixel of
its buffer has changed. -/
theorem convertInto_result_exact (frame : Frame) (options : Options) (image : Image)
    (hmemory : image.pixels.size * 4 < Word.limit 63) :
    match frame.format.layout? with
    | none =>
      (frame.convertInto options image).result = .refused (.unsupported frame.format) image
    | some layout =>
      match frame.imageRefusal? (layout.stride options) image.dims with
      | some error => (frame.convertInto options image).result = .refused (.malformed error) image
      | none =>
        ∃ out picture, (frame.convertInto options image).result = .done out ∧
          (∀ dst : Bytes, dst.size = 4 * frame.dims.width.toNat * frame.dims.height.toNat →
            (frame.convert options dst).result = .done picture) ∧
          image.RowsWritten picture image.dims.height.toNat out := by
  cases hlayout : frame.format.layout? with
  | none =>
    rw [convertInto_result, withConverter, Converter.ofFormat_eq_error hlayout,
      Outcome.require_error]
  | some layout =>
    have hresult : (frame.convertInto options image).result =
        (frame.writeImage ⟨frame.format, layout, options, hlayout⟩ image).mapError .malformed := by
      rw [convertInto_result, withConverter, Converter.ofFormat_eq_ok hlayout, Outcome.require_ok]
    have hwrite := writeImage_eq frame ⟨frame.format, layout, options, hlayout⟩ hmemory
    dsimp only [Converter.stride] at hwrite ⊢
    rw [hresult]
    cases hrefusal : frame.imageRefusal? (layout.stride options) image.dims with
    | some error =>
      rw [hrefusal] at hwrite
      dsimp only at hwrite ⊢
      rw [hwrite]
      rfl
    | none =>
      rw [hrefusal] at hwrite
      obtain ⟨hsmall, hsource, out, hout, hwritten⟩ := hwrite
      refine ⟨out, _, by rw [hout]; rfl, fun dst hdst => ?_, hwritten⟩
      rw [convert_eq_done_iff]
      refine ⟨layout, _, hlayout, Dims.checkConversion_eq_ok_iff.2 ⟨hsmall, ?_, hsource⟩, rfl⟩
      rw [hdst, Dims.mul_width_mul_height]

/-- Two rows of two pixels, three pixels apart. -/
theorem convertInto_result_exact_padding :
    ∃ image out, Image.make ⟨2, 2⟩ 3 #[⟨9, 9, 9, 9⟩, ⟨9, 9, 9, 9⟩, ⟨8, 8, 8, 8⟩, ⟨9, 9, 9, 9⟩,
        ⟨9, 9, 9, 9⟩, ⟨7, 7, 7, 7⟩] = .ok image ∧
      image.pixels.size * 4 < Word.limit 63 ∧
      ((⟨⟨2, 2⟩, .y8, #[1, 2, 3, 4]⟩ : Frame).convertInto {} image).result = .done out ∧
      out.row 0 = #[⟨1, 1, 1, 255⟩, ⟨2, 2, 2, 255⟩] ∧
      out.row 1 = #[⟨3, 3, 3, 255⟩, ⟨4, 4, 4, 255⟩] ∧
      out.pixels[2]? = some ⟨8, 8, 8, 8⟩ ∧ out.pixels[5]? = some ⟨7, 7, 7, 7⟩ := by
  obtain ⟨image, hmake⟩ : ∃ image, Image.make ⟨2, 2⟩ 3 #[⟨9, 9, 9, 9⟩, ⟨9, 9, 9, 9⟩, ⟨8, 8, 8, 8⟩,
      ⟨9, 9, 9, 9⟩, ⟨9, 9, 9, 9⟩, ⟨7, 7, 7, 7⟩] = .ok image := ⟨_, rfl⟩
  obtain ⟨hpixels, hdims, hstride⟩ := Image.eq_of_make_eq_ok hmake
  have hmemory : image.pixels.size * 4 < Word.limit 63 := by
    rw [hpixels]
    decide
  have hexact := convertInto_result_exact ⟨⟨2, 2⟩, .y8, #[1, 2, 3, 4]⟩ {} image hmemory
  rw [hdims] at hexact
  obtain ⟨out, picture, hresult, hconvert, hwritten⟩ := hexact
  have hpicture : picture = #[1, 1, 1, 255, 2, 2, 2, 255, 3, 3, 3, 255, 4, 4, 4, 255] := by
    have hdone : ((⟨⟨2, 2⟩, .y8, #[1, 2, 3, 4]⟩ : Frame).convert {} (Array.replicate 16 0)).result =
        .done #[1, 1, 1, 255, 2, 2, 2, 255, 3, 3, 3, 255, 4, 4, 4, 255] := by decide +kernel
    have := (hconvert (Array.replicate 16 0) rfl).symm.trans hdone
    simpa using this
  have hrow := hwritten.row_eq
  have hkept := hwritten.kept
  simp only [hdims, hstride, hpixels, Image.InRow] at hrow hkept
  refine ⟨image, out, hmake, hmemory, hresult, ?_, ?_, ?_, ?_⟩
  · rw [hrow 0 (by decide), hpicture]
    decide +kernel
  · rw [hrow 1 (by decide), hpicture]
    decide +kernel
  · exact hkept 2 (by decide)
  · exact hkept 5 (by decide)

end Frame

end FrameRgba
