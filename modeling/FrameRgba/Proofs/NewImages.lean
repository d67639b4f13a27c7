import FrameRgba.Proofs.ImageRows

/-!
# New images

A frame becomes an image in two ways: a new one is made of all its pixels at once
(`Frame.toImage`), or its rows go into one that the caller has (`Frame.convertInto`). The two share
no check, and an image of the caller may have space between its rows, but on frames with columns
they come to the same answer: the same refusal, or the same pixel at every place
(`Frame.toImage_iff_convertInto`).

A new image is described like any other, by its rows. Pixels that are decoded from a picture have
the rows of the picture (`Image.row_make`), which is what the loop of `convertInto` writes
(`Image.RowsWritten`).
-/

namespace FrameRgba

/-- Whole pixels of a buffer are decoded like a buffer of their own. -/
theorem Pixel.ofBytes_extract {ρ : Type} [Pixel ρ] {buffer : Bytes} {first last : Nat}
    (h : last * size ρ ≤ buffer.size) :
    (ofBytes (buffer.extract (first * size ρ) (last * size ρ)) : Array ρ) =
      (ofBytes buffer).extract first last := by
  have hlast : last ≤ buffer.size / size ρ := (Nat.le_div_iff_mul_le size_pos).2 h
  have hsize : (buffer.extract (first * size ρ) (last * size ρ)).size / size ρ = last - first := by
    rw [Array.size_extract, Nat.min_eq_left h, ← Nat.sub_mul, Nat.mul_div_cancel _ size_pos]
  apply Array.ext
  · rw [size_ofBytes, hsize, Array.size_extract, size_ofBytes, Nat.min_eq_left hlast]
  · intro i _ _
    simp only [ofBytes, Array.getElem_ofFn, Array.getElem_extract, Nat.add_mul, Nat.add_assoc]

/-- A buffer of as many pixels as an image has is of the right size. -/
theorem Rgba.size_toBytes_replicate (count : Nat) (pixel : Rgba) :
    (Pixel.toBytes (Array.replicate count pixel)).size = count * 4 := by
  rw [Pixel.size_toBytes, Array.size_replicate]
  rfl

namespace Image

variable {image other : Image} {dims : Dims} {picture : Bytes} {pixels : Array Rgba} {x y : Nat}

/-! ## Pixels of an image -/

/-- The pixel of row `y` in column `x`. -/
def pixel? (image : Image) (x y : Nat) : Option Rgba :=
  image.pixels[y * image.stride + x]?

/-- The images have the same pixel at every place of the first. -/
def SamePixels (image other : Image) : Prop :=
  ∀ x y, x < image.dims.width.toNat → y < image.dims.height.toNat →
    ∃ pixel, image.pixel? x y = some pixel ∧ other.pixel? x y = some pixel

theorem exists_pixel?_eq_some (image : Image) (hx : x < image.dims.width.toNat)
    (hy : y < image.dims.height.toNat) : ∃ pixel, image.pixel? x y = some pixel :=
  ⟨_, Array.getElem?_eq_getElem (image.fits x y hx hy)⟩

theorem getElem?_row (image : Image) (y : Nat) (hx : x < image.dims.width.toNat) :
    (image.row y)[x]? = image.pixel? x y := by
  rw [row, pixel?, Array.getElem?_extract]
  split
  · rfl
  · rw [Array.getElem?_eq_none (by omega)]

/-- Images are compared row by row, whatever their strides are. -/
theorem samePixels_of_row_eq (hdims : other.dims = image.dims)
    (h : ∀ y, y < image.dims.height.toNat → image.row y = other.row y) :
    image.SamePixels other := by
  intro x y hx hy
  obtain ⟨pixel, hpixel⟩ := image.exists_pixel?_eq_some hx hy
  refine ⟨pixel, hpixel, ?_⟩
  rw [← getElem?_row other y (hdims ▸ hx), ← h y hy, getElem?_row image y hx, hpixel]

/-! ## Images without space between the rows -/

/-- As many pixels as the dimensions ask for are enough for an image with columns. -/
theorem exists_make_eq_ok (hwidth : 0 < dims.width.toNat) (hsize : pixels.size = dims.pixelCount) :
    ∃ image, make dims dims.width.toNat pixels = .ok image := by
  have hroom : ¬ pixels.size < if dims.width.toNat = 0 ∨ dims.height.toNat = 0 then 0
      else (dims.height.toNat - 1) * dims.width.toNat + dims.width.toNat := by
    split
    · exact Nat.not_lt_zero _
    · rw [hsize, Dims.pixelCount, ← Nat.succ_mul, Nat.succ_eq_add_one,
        Nat.sub_add_cancel (by omega), Nat.mul_comm]
      exact Nat.lt_irrefl _
  dsimp only [make]
  rw [dif_neg (Nat.ne_of_gt hwidth), dif_neg (Nat.lt_irrefl _), dif_neg hroom]
  exact ⟨_, rfl⟩

/-- An image of the pixels of a picture has the rows of the picture. -/
theorem row_make (h : make dims dims.width.toNat (Pixel.ofBytes picture) = .ok image)
    (hpicture : picture.size = dims.pixelCount * 4) (hy : y < dims.height.toNat) :
    image.row y = pictureRow dims picture y := by
  obtain ⟨hpixels, hdims, hstride⟩ := eq_of_make_eq_ok h
  have hrow : (y + 1) * dims.width.toNat * 4 ≤ picture.size := by
    rw [hpicture]
    exact Nat.mul_le_mul_right _ (Dims.rows_mul_width_le hy)
  rw [row, hpixels, hdims, hstride, pictureRow, Dims.rowBytes, ← Nat.succ_mul]
  exact (Pixel.ofBytes_extract hrow).symm

/-- The pixels of a picture are at the same places in an image that was made of them and in one that
got them row by row. -/
theorem RowsWritten.samePixels {made out : Image} (hdims : image.dims = dims)
    (h : image.RowsWritten picture dims.height.toNat out)
    (hmake : make dims dims.width.toNat (Pixel.ofBytes picture) = .ok made)
    (hpicture : picture.size = dims.pixelCount * 4) : made.SamePixels out := by
  obtain ⟨-, hmade, -⟩ := eq_of_make_eq_ok hmake
  refine samePixels_of_row_eq (h.dims_eq.trans (hdims.trans hmade.symm)) fun y hy => ?_
  rw [hmade] at hy
  rw [h.row_eq y hy, row_make hmake hpicture hy, hdims]

end Image

/-! ## The two ways -/

/-- A buffer of the right size is not refused for its size. -/
theorem Dims.refusal?_ne_wrongDestination (dims : Dims) (stride sourceSize expected actual : Nat) :
    dims.refusal? stride sourceSize (dims.pixelCount * 4) ≠
      some (.wrongDestination expected actual) := by
  rw [refusal?, mul_width_mul_height, if_neg (not_not_intro rfl)]
  split
  · simp
  · split <;> simp

/-- There is always room for an image without columns, which has no bytes. -/
theorem Dims.refusal?_of_width_eq_zero {dims : Dims} (h : dims.width = 0)
    (stride sourceSize : Nat) : dims.refusal? stride sourceSize (dims.pixelCount * 4) = none := by
  have hcount : dims.pixelCount = 0 := by
    rw [pixelCount, h]
    exact Nat.zero_mul _
  rw [refusal?_eq_none_iff, hcount, Nat.zero_mul, Nat.zero_mul]
  exact ⟨by decide, rfl, Nat.zero_le _⟩

namespace Frame

variable {frame : Frame} {options : Options}

/-- A new image is refused like a buffer of the right size, and then for the lack of columns. Else
it is made of the pixels of the picture. -/
theorem toImage_result_eq (frame : Frame) (options : Options) :
    (frame.toImage options).result =
      match frame.format.layout? with
      | none => .ok (.error (.unsupported frame.format))
      | some layout =>
        match frame.dims.refusal? (layout.stride options) frame.raw.size
            (frame.dims.pixelCount * 4) with
        | some error => .ok (.error (.malformed error))
        | none =>
          if frame.dims.width = 0 then .ok (.error (.malformed (.noColumns frame.dims.height)))
          else (Image.make frame.dims frame.dims.width.toNat (Pixel.ofBytes
            (raster (layout.pixel options frame.raw) 0 frame.dims.pixelCount).toArray)).map .ok := by
  rw [toImage, area, Dims.area_eq_ok, ← Dims.pixelCount]
  dsimp only [Reported.map, convertPixels]
  rw [convert_result_eq, Rgba.size_toBytes_replicate]
  cases frame.format.layout? with
  | none => rfl
  | some layout =>
    dsimp only
    cases frame.dims.refusal? (layout.stride options) frame.raw.size
      (frame.dims.pixelCount * 4) <;> rfl

/-- The pixels of the picture are as many as an image with columns needs. -/
theorem exists_make_picture_eq_ok (h : 0 < frame.dims.width) (pixel : Nat → Vector UInt8 4) :
    ∃ made, Image.make frame.dims frame.dims.width.toNat
      (Pixel.ofBytes (raster pixel 0 frame.dims.pixelCount).toArray) = .ok made := by
  apply Image.exists_make_eq_ok (UInt32.lt_iff_toNat_lt.1 h)
  rw [Pixel.size_ofBytes, size_toArray_raster]
  exact Nat.mul_div_cancel_left _ (by decide)

/-- A new image is never refused for the size of its buffer. -/
theorem toImage_result_ne_wrongDestination (frame : Frame) (options : Options)
    (expected actual : Nat) :
    (frame.toImage options).result ≠
      .ok (.error (.malformed (.wrongDestination expected actual))) := by
  intro h
  rw [toImage_result_eq] at h
  split at h
  · simp at h
  · split at h
    · next hrefusal =>
      cases h
      exact Dims.refusal?_ne_wrongDestination _ _ _ _ _ hrefusal
    · split at h
      · simp at h
      · next hwidth =>
        obtain ⟨made, hmake⟩ := exists_make_picture_eq_ok (UInt32.pos_iff_ne_zero.2 hwidth) _
        rw [hmake] at h
        simp [Except.map] at h

/-- Without columns there is no image. -/
theorem toImage_result_of_width_eq_zero (h : frame.dims.width = 0) :
    (frame.toImage options).result =
      .ok (.error (if frame.format.hasLayout then .malformed (.noColumns frame.dims.height)
        else .unsupported frame.format)) := by
  rw [PixelFormat.hasLayout, toImage_result_eq]
  cases frame.format.layout? with
  | none => rfl
  | some layout =>
    dsimp only
    rw [Dims.refusal?_of_width_eq_zero h]
    exact if_pos h

/-- An image of the caller with the dimensions of the frame is refused like a buffer of the right
size. -/
theorem imageRefusal?_dims {stride : Nat}
    (h : frame.dims.pixelCount * 4 < Word.limit Word.sizeBits) :
    frame.imageRefusal? stride frame.dims =
      frame.dims.refusal? stride frame.raw.size (frame.dims.pixelCount * 4) := by
  rw [imageRefusal?, if_neg (not_not_intro rfl), Dims.refusal?, Dims.mul_width_mul_height 4,
    if_neg (Nat.not_le_of_lt h), if_neg (not_not_intro rfl)]

/-- A frame with columns becomes a new image exactly if an image of the caller in memory, with the
dimensions of the frame and any stride and content, takes it, and is refused for the same reason
otherwise. The new image has no space between its rows, and the same pixels. It is never refused for
the size of its buffer, and without columns there is none. -/
theorem toImage_iff_convertInto (frame : Frame) (options : Options) :
    (∀ image : Image, 0 < frame.dims.width → image.dims = frame.dims →
        image.pixels.size * 4 < Word.limit 63 →
        match (frame.convertInto options image).result with
        | .done out =>
          ∃ made, (frame.toImage options).result = .ok (.ok made) ∧ made.dims = frame.dims ∧
            made.stride = frame.dims.width.toNat ∧ made.SamePixels out
        | .refused error _ => (frame.toImage options).result = .ok (.error error)
        | .fault _ => False) ∧
      (∀ expected actual, (frame.toImage options).result ≠
        .ok (.error (.malformed (.wrongDestination expected actual)))) ∧
      (frame.dims.width = 0 → (frame.toImage options).result =
        .ok (.error (if frame.format.hasLayout then .malformed (.noColumns frame.dims.height)
          else .unsupported frame.format))) := by
  refine ⟨fun image hwidth hdims hmemory => ?_, toImage_result_ne_wrongDestination frame options,
    toImage_result_of_width_eq_zero⟩
  rw [toImage_result_eq]
  cases hlayout : frame.format.layout? with
  | none =>
    rw [convertInto_result, withConverter, Converter.ofFormat_eq_error hlayout,
      Outcome.require_error]
  | some layout =>
    have hcount : frame.dims.pixelCount * 4 < Word.limit Word.sizeBits :=
      hdims ▸ Image.pixelCount_mul_four_lt hmemory
    have hwrite := writeImage_eq frame ⟨frame.format, layout, options, hlayout⟩ hmemory
    -- with the dimensions of the frame, both ways have the same reasons in the same order
    rw [hdims, imageRefusal?_dims hcount] at hwrite
    dsimp only [Converter.stride] at hwrite ⊢
    rw [convertInto_result, withConverter_eq hlayout]
    cases hrefusal : frame.dims.refusal? (layout.stride options) frame.raw.size
      (frame.dims.pixelCount * 4) with
    | some error =>
      rw [hrefusal] at hwrite
      dsimp only at hwrite
      rw [hwrite]
      rfl
    | none =>
      rw [hrefusal] at hwrite
      obtain ⟨-, -, out, hout, hwritten⟩ := hwrite
      obtain ⟨made, hmake⟩ := exists_make_picture_eq_ok hwidth (layout.pixel options frame.raw)
      obtain ⟨-, hmadeDims, hmadeStride⟩ := Image.eq_of_make_eq_ok hmake
      dsimp only
      rw [hout, if_neg (UInt32.ne_of_lt hwidth).symm, hmake]
      exact ⟨made, rfl, hmadeDims, hmadeStride,
        hwritten.samePixels hdims hmake (Converter.size_image _ _ _)⟩

/-- An image of the caller with two rows of two pixels, three pixels apart, and a frame of three
rows without columns. -/
theorem toImage_iff_convertInto_padding :
    ∃ image out made, Image.make ⟨2, 2⟩ 3 (Array.replicate 6 ⟨9, 9, 9, 9⟩) = .ok image ∧
      image.pixels.size * 4 < Word.limit 63 ∧
      ((⟨⟨2, 2⟩, .y8, #[1, 2, 3, 4]⟩ : Frame).convertInto {} image).result = .done out ∧
      ((⟨⟨2, 2⟩, .y8, #[1, 2, 3, 4]⟩ : Frame).toImage {}).result = .ok (.ok made) ∧
      made.stride = 2 ∧ made.SamePixels out ∧
      ((⟨⟨0, 3⟩, .y8, #[]⟩ : Frame).toImage {}).result =
        .ok (.error (.malformed (.noColumns 3))) := by
  obtain ⟨image, hmake⟩ : ∃ image,
      Image.make ⟨2, 2⟩ 3 (Array.replicate 6 ⟨9, 9, 9, 9⟩) = .ok image := ⟨_, rfl⟩
  obtain ⟨hpixels, hdims, -⟩ := Image.eq_of_make_eq_ok hmake
  have hmemory : image.pixels.size * 4 < Word.limit 63 := by
    rw [hpixels]
    decide
  have hagree := (toImage_iff_convertInto ⟨⟨2, 2⟩, .y8, #[1, 2, 3, 4]⟩ {}).1 image (by decide) hdims
    hmemory
  have hnew : (((⟨⟨2, 2⟩, .y8, #[1, 2, 3, 4]⟩ : Frame).toImage {}).result.map Except.isOk) =
      .ok true := by decide +kernel
  -- a refusal of one way would be one of the other, which is done
  cases hresult : ((⟨⟨2, 2⟩, .y8, #[1, 2, 3, 4]⟩ : Frame).convertInto {} image).result with
  | done out =>
    rw [hresult] at hagree
    obtain ⟨made, hmade, -, hstride, hsame⟩ := hagree
    exact ⟨image, out, made, hmake, hmemory, hresult, hmade, hstride, hsame,
      (toImage_iff_convertInto ⟨⟨0, 3⟩, .y8, #[]⟩ {}).2.2 rfl⟩
  | refused error after =>
    rw [hresult] at hagree
    rw [show _ = _ from hagree] at hnew
    cases hnew
  | fault cause =>
    rw [hresult] at hagree
    exact hagree.elim

end Frame

end FrameRgba
