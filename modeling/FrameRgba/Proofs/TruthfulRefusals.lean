import FrameRgba.Proofs.AllOrNothing
import FrameRgba.Proofs.CallerMaps
import FrameRgba.Proofs.RowRefusals
import FrameRgba.Proofs.SampledBytes

/-!
# What refusals say

A refusal reports the numbers that it was made for, and a caller who reads them should find that
they do not go together: a source that is shorter than what is needed, a destination of another size
than the expected one, rows that are not rows of the image, a size that is no word
(`FrameError.Truthful`). Each reason in `Dims.refusal?` and `Dims.rowsRefusal?` stands behind the
condition that it reports, so what these refuse is refused truthfully.

The check of an image has a condition of its own. It compares the dimensions and reports the sizes
in bytes, and an image of another shape may have the size of the frame (`Frame.DiffersInShape`).
Then the refusal says that so many bytes are expected where there are as many. That is the one case
(`writes_refuse_truthfully`).
-/

namespace FrameRgba

/-! ## Truthful refusals -/

/-- The number of bytes of an RGBA image of these dimensions. -/
def Dims.rgbaBytes (dims : Dims) : Nat :=
  4 * dims.width.toNat * dims.height.toNat

theorem Dims.rgbaBytes_eq (dims : Dims) : dims.rgbaBytes = dims.pixelCount * 4 :=
  mul_width_mul_height 4

/-- What the refusal says is so, of a source and a destination of these sizes. -/
def FrameError.Truthful (sourceSize destinationSize : Nat) : FrameError → Prop
  | .shortSource needed actual => actual < needed ∧ actual = sourceSize
  | .wrongDestination expected actual => actual ≠ expected ∧ actual = destinationSize
  | .tooLarge dims => Word.limit Word.sizeBits ≤ dims.rgbaBytes
  | .rowsOutside rows height => rows.stop < rows.start ∨ height < rows.stop
  | .noColumns _ | .kernel _ => True

/-- Also of the format: one that is refused has no layout. -/
def ConversionError.Truthful (sourceSize destinationSize : Nat) : ConversionError → Prop
  | .unsupported format => format.hasLayout = false
  | .malformed error => error.Truthful sourceSize destinationSize

namespace Outcome

variable {β ε ε' σ τ : Type} {reason : ε → Prop}

/-- If the write was refused, it was for such a reason. -/
def RefusedFor (reason : ε → Prop) : Outcome ε σ → Prop
  | .refused error _ => reason error
  | .done _ | .fault _ => True

theorem refusedFor_iff {outcome : Outcome ε σ} :
    outcome.RefusedFor reason ↔ ∀ error after, outcome = .refused error after → reason error := by
  cases outcome with
  | done dst => simp [RefusedFor]
  | refused error dst => simp [RefusedFor]
  | fault cause => simp [RefusedFor]

namespace RefusedFor

theorem mono {outcome : Outcome ε σ} {reason' : ε → Prop}
    (hle : ∀ error, reason error → reason' error) (h : outcome.RefusedFor reason) :
    outcome.RefusedFor reason' := by
  cases outcome with
  | done dst => trivial
  | refused error dst => exact hle error h
  | fault cause => trivial

theorem require {test : Except ε β} {dst : σ} {next : β → Outcome ε σ}
    (herror : ∀ error, test = .error error → reason error)
    (h : ∀ value, test = .ok value → (next value).RefusedFor reason) :
    (Outcome.require test dst next).RefusedFor reason := by
  cases test with
  | ok value => exact h value rfl
  | error error => exact herror error rfl

theorem checked {value : Checked β} {next : β → Outcome ε σ}
    (h : ∀ x, value = .ok x → (next x).RefusedFor reason) :
    (Outcome.checked value next).RefusedFor reason := by
  cases value with
  | ok x => exact h x rfl
  | error cause => trivial

theorem map {outcome : Outcome ε σ} (f : σ → τ) (h : outcome.RefusedFor reason) :
    (outcome.map f).RefusedFor reason := by
  cases outcome with
  | done dst => trivial
  | refused error dst => exact h
  | fault cause => trivial

theorem mapError {outcome : Outcome ε σ} {f : ε → ε'} {reason' : ε' → Prop}
    (hf : ∀ error, reason error → reason' (f error)) (h : outcome.RefusedFor reason) :
    (outcome.mapError f).RefusedFor reason' := by
  cases outcome with
  | done dst => trivial
  | refused error dst => exact hf error h
  | fault cause => trivial

end RefusedFor

end Outcome

open Outcome

/-! ## Reasons -/

namespace Dims

variable {dims : Dims} {rows : RowRange} {stride sourceSize destinationSize : Nat}
  {error : FrameError}

/-- A size with fewer bytes for each pixel is a word if that of the RGBA image is. -/
theorem mul_stride_le (dims : Dims) (h : stride ≤ 4) :
    stride * dims.width.toNat * dims.height.toNat ≤ 4 * dims.width.toNat * dims.height.toNat :=
  Nat.mul_le_mul_right _ (Nat.mul_le_mul_right _ h)

theorem truthful_of_refusal?_eq_some
    (h : dims.refusal? stride sourceSize destinationSize = some error) :
    error.Truthful sourceSize destinationSize := by
  rw [refusal?] at h
  split at h
  · next hlarge =>
    cases h
    exact hlarge
  · split at h
    · next hdst =>
      cases h
      exact ⟨hdst, rfl⟩
    · split at h
      · next hshort =>
        cases h
        exact ⟨hshort, rfl⟩
      · cases h

theorem truthful_of_rowsRefusal?_eq_some (hstride : stride ≤ 4)
    (h : dims.rowsRefusal? rows stride sourceSize destinationSize = some error) :
    error.Truthful sourceSize destinationSize := by
  rw [rowsRefusal?] at h
  split at h
  · next hrows =>
    cases h
    exact hrows
  · split at h
    · next hlarge =>
      -- it was the source that overflowed, and the RGBA image is no smaller
      cases h
      exact Nat.le_trans hlarge (dims.mul_stride_le hstride)
    · split at h
      · next hshort =>
        cases h
        exact ⟨hshort, rfl⟩
      · split at h
        · next hlarge =>
          cases h
          exact hlarge
        · split at h
          · next hdst =>
            cases h
            exact ⟨hdst, rfl⟩
          · cases h

theorem truthful_of_checkSource_eq_error (hstride : stride ≤ 4) (destinationSize : Nat)
    (h : dims.checkSource stride sourceSize = .error error) :
    error.Truthful sourceSize destinationSize := by
  rw [checkSource_eq, ← mul_width_mul_height] at h
  split at h
  · next hlarge =>
    cases h
    exact Nat.le_trans hlarge (dims.mul_stride_le hstride)
  · split at h
    · next hshort =>
      cases h
      exact ⟨hshort, rfl⟩
    · cases h

end Dims

/-! ## Conversions into bytes -/

section

variable (options : Options) (dims : Dims) (src dst : Bytes)

theorem ChannelMap.convert_refusedFor (map : ChannelMap) :
    (map.convert options dims src dst).RefusedFor (FrameError.Truthful src.size dst.size) := by
  rw [convert_eq_refusal?]
  split
  · next hrefusal => exact Dims.truthful_of_refusal?_eq_some hrefusal
  · split
    · trivial
    · split <;> trivial

theorem GrayDepth.convert_refusedFor (depth : GrayDepth) :
    (depth.convert options dims src dst).RefusedFor (FrameError.Truthful src.size dst.size) := by
  rw [convert_eq_refusal?]
  split
  · next hrefusal => exact Dims.truthful_of_refusal?_eq_some hrefusal
  · trivial

theorem Converter.convert_refusedFor (converter : Converter) :
    (converter.convert dims src dst).RefusedFor (FrameError.Truthful src.size dst.size) := by
  rw [convert_eq_refusal?]
  split
  · next hrefusal => exact Dims.truthful_of_refusal?_eq_some hrefusal
  · trivial

theorem Converter.convertRange_refusedFor (converter : Converter) (rows : RowRange) :
    (converter.convertRange dims rows src dst).RefusedFor
      (FrameError.Truthful src.size dst.size) := by
  rw [convertRange_eq_rowsRefusal?]
  split
  · next hrefusal => exact Dims.truthful_of_rowsRefusal?_eq_some converter.stride_le hrefusal
  · trivial

end

namespace Frame

variable (frame : Frame) (options : Options)

/-- The lookup of the format comes first, and is truthful. -/
theorem withConverter_refusedFor {σ : Type} {dst : σ} {write : Converter → Outcome FrameError σ}
    {reason : ConversionError → Prop}
    (hformat : frame.format.hasLayout = false → reason (.unsupported frame.format))
    (h : ∀ converter, (write converter).RefusedFor fun error => reason (.malformed error)) :
    (frame.withConverter options dst write).RefusedFor reason := by
  cases hlayout : frame.format.layout? with
  | none =>
    rw [withConverter, Converter.ofFormat_eq_error hlayout, Outcome.require_error]
    exact hformat (by rw [PixelFormat.hasLayout, hlayout]; rfl)
  | some layout =>
    rw [withConverter_eq hlayout]
    exact .mapError (fun _ => id) (h _)

theorem convert_refusedFor (dst : Bytes) :
    (frame.convert options dst).result.RefusedFor
      (ConversionError.Truthful frame.raw.size dst.size) :=
  frame.withConverter_refusedFor options id
    (Converter.convert_refusedFor frame.dims frame.raw dst)

theorem convertRange_refusedFor (rows : RowRange) (dst : Bytes) :
    (frame.convertRange options rows dst).result.RefusedFor
      (ConversionError.Truthful frame.raw.size dst.size) :=
  frame.withConverter_refusedFor options id fun converter =>
    converter.convertRange_refusedFor frame.dims frame.raw dst rows

theorem convertInBands_refusedFor (rowsPerBand : UInt32) (dst : Bytes) (schedule : Schedule) :
    (frame.convertInBands options rowsPerBand dst schedule).result.RefusedFor
      (ConversionError.Truthful frame.raw.size dst.size) := by
  rw [result_convertInBands]
  exact frame.convert_refusedFor options dst

/-- A pixel of the destination has four bytes. -/
theorem convertPixels_refusedFor (pixels : Array Rgba) :
    (frame.convertPixels options pixels).result.RefusedFor
      (ConversionError.Truthful frame.raw.size (pixels.size * 4)) := by
  have hconvert := frame.convert_refusedFor options (Pixel.toBytes pixels)
  rw [Pixel.size_toBytes] at hconvert
  exact .map Pixel.ofBytes hconvert

/-! ## Images of another shape -/

/-- The image has as many bytes as the frame has as RGBA, in other dimensions. -/
def DiffersInShape (frame : Frame) (image : Image) : Prop :=
  image.dims ≠ frame.dims ∧ image.dims.rgbaBytes = frame.dims.rgbaBytes ∧
    frame.dims.rgbaBytes < Word.limit Word.sizeBits

variable {frame : Frame} {image : Image}

theorem checkImage_of_differsInShape (h : frame.DiffersInShape image) :
    frame.checkImage image =
      .ok (.error (.wrongDestination frame.dims.rgbaBytes frame.dims.rgbaBytes)) := by
  obtain ⟨hdims, hsize, hsmall⟩ := h
  rw [checkImage_of_dims_ne hdims, ← Dims.rgbaBytes_eq, ← Dims.rgbaBytes_eq,
    if_neg (Nat.not_le_of_lt hsmall), hsize, Word.fit_eq_ok hsmall]
  rfl

/-- An image is refused truthfully for its dimensions, or for sizes that are the same. -/
theorem of_checkImage_eq_error {error : FrameError}
    (h : frame.checkImage image = .ok (.error error)) :
    error.Truthful frame.raw.size image.dims.rgbaBytes ∨
      frame.DiffersInShape image ∧
        error = .wrongDestination frame.dims.rgbaBytes frame.dims.rgbaBytes := by
  by_cases hdims : image.dims = frame.dims
  · rw [checkImage, if_pos hdims] at h
    cases h
  · rw [checkImage_of_dims_ne hdims, ← Dims.rgbaBytes_eq, ← Dims.rgbaBytes_eq] at h
    split at h
    · next hlarge =>
      cases h
      exact .inl hlarge
    · next hsmall =>
      -- the dimensions differ, and whether the sizes do was never asked
      by_cases hsize : image.dims.rgbaBytes = frame.dims.rgbaBytes
      · have hshape : frame.DiffersInShape image := ⟨hdims, hsize, Nat.lt_of_not_le hsmall⟩
        rw [hsize, Word.fit_eq_ok hshape.2.2] at h
        cases h
        exact .inr ⟨hshape, rfl⟩
      · rw [Word.fit] at h
        split at h
        · cases h
          exact .inl ⟨hsize, rfl⟩
        · cases h

/-- Behind the check of its dimensions, an image is refused truthfully for the source, and no row of
it is refused. -/
theorem writeImage_refusedFor (frame : Frame) (converter : Converter) (image : Image) :
    (frame.writeImage converter image).RefusedFor fun error =>
      error.Truthful frame.raw.size image.dims.rgbaBytes ∨
        frame.DiffersInShape image ∧
          error = .wrongDestination frame.dims.rgbaBytes frame.dims.rgbaBytes := by
  refine .checked fun test htest => .require (fun error herror => ?_) fun _ hok =>
    .require (fun error herror => ?_) fun needed hsource => ?_
  · exact of_checkImage_eq_error (herror ▸ htest)
  · exact .inl (Dims.truthful_of_checkSource_eq_error converter.stride_le _ herror)
  · have hsame : image.dims = frame.dims := dims_eq_of_checkImage_eq_ok (hok ▸ htest)
    obtain ⟨out, hout, -⟩ := inTurn_convertImageRow hsame hsource (Nat.le_refl _)
    rw [hout]
    trivial

theorem convertInto_refusedFor (frame : Frame) (options : Options) (image : Image) :
    (frame.convertInto options image).result.RefusedFor fun error =>
      error.Truthful frame.raw.size image.dims.rgbaBytes ∨
        frame.DiffersInShape image ∧ error = .malformed
          (.wrongDestination frame.dims.rgbaBytes frame.dims.rgbaBytes) := by
  refine frame.withConverter_refusedFor options .inl fun converter => ?_
  refine (frame.writeImage_refusedFor converter image).mono fun error h => ?_
  rcases h with htrue | ⟨hshape, rfl⟩
  · exact .inl htrue
  · exact .inr ⟨hshape, rfl⟩

/-- An image of the size of the frame in another shape is told that it has not this size. -/
theorem convertInto_of_differsInShape (hformat : frame.format.hasLayout = true)
    (h : frame.DiffersInShape image) :
    (frame.convertInto options image).result = .refused (.malformed
      (.wrongDestination frame.dims.rgbaBytes frame.dims.rgbaBytes)) image := by
  obtain ⟨layout, hlayout⟩ := Option.isSome_iff_exists.1 hformat
  rw [convertInto_result, withConverter_eq hlayout, writeImage, checkImage_of_differsInShape h]
  rfl

/-- Nothing else is told something that is not so. -/
theorem exists_convertInto_eq_refused_same_iff :
    (∃ size after, (frame.convertInto options image).result =
      .refused (.malformed (.wrongDestination size size)) after) ↔
      frame.format.hasLayout = true ∧ frame.DiffersInShape image := by
  constructor
  · rintro ⟨size, after, h⟩
    have hreason := refusedFor_iff.1 (frame.convertInto_refusedFor options image) _ _ h
    have hshape : frame.DiffersInShape image := by
      rcases hreason with ⟨hne, -⟩ | ⟨hshape, -⟩
      · exact absurd rfl hne
      · exact hshape
    cases hlayout : frame.format.layout? with
    | none =>
      rw [convertInto_result, withConverter, Converter.ofFormat_eq_error hlayout,
        Outcome.require_error] at h
      cases h
    | some layout => exact ⟨by rw [PixelFormat.hasLayout, hlayout]; rfl, hshape⟩
  · rintro ⟨hformat, hshape⟩
    exact ⟨_, _, convertInto_of_differsInShape options hformat hshape⟩

end Frame

/-- Every refusal of a conversion says what is so, whatever the conversion was given, but for one of
an image. An image of the size of the frame in another shape is refused for a size that it has: the
expected size and the actual one are the same number. -/
theorem writes_refuse_truthfully (frame : Frame) (options : Options) (converter : Converter)
    (map : ChannelMap) (depth : GrayDepth) (dims : Dims) (rows : RowRange) (rowsPerBand : UInt32)
    (schedule : Schedule) (src dst : Bytes) (pixels : Array Rgba) (image : Image) :
    (frame.convert options dst).result.RefusedFor
        (ConversionError.Truthful frame.raw.size dst.size) ∧
      (frame.convertRange options rows dst).result.RefusedFor
        (ConversionError.Truthful frame.raw.size dst.size) ∧
      (frame.convertInBands options rowsPerBand dst schedule).result.RefusedFor
        (ConversionError.Truthful frame.raw.size dst.size) ∧
      (frame.convertPixels options pixels).result.RefusedFor
        (ConversionError.Truthful frame.raw.size (pixels.size * 4)) ∧
      (converter.convert dims src dst).RefusedFor (FrameError.Truthful src.size dst.size) ∧
      (converter.convertRange dims rows src dst).RefusedFor
        (FrameError.Truthful src.size dst.size) ∧
      (map.convert options dims src dst).RefusedFor (FrameError.Truthful src.size dst.size) ∧
      (depth.convert options dims src dst).RefusedFor (FrameError.Truthful src.size dst.size) ∧
      ((frame.convertInto options image).result.RefusedFor fun error =>
        error.Truthful frame.raw.size image.dims.rgbaBytes ∨
          frame.DiffersInShape image ∧ error = .malformed
            (.wrongDestination frame.dims.rgbaBytes frame.dims.rgbaBytes)) ∧
      ((∃ size after, (frame.convertInto options image).result =
        .refused (.malformed (.wrongDestination size size)) after) ↔
        frame.format.hasLayout = true ∧ frame.DiffersInShape image) :=
  ⟨frame.convert_refusedFor options dst, frame.convertRange_refusedFor options rows dst,
    frame.convertInBands_refusedFor options rowsPerBand dst schedule,
    frame.convertPixels_refusedFor options pixels, converter.convert_refusedFor dims src dst,
    converter.convertRange_refusedFor dims src dst rows,
    map.convert_refusedFor options dims src dst, depth.convert_refusedFor options dims src dst,
    frame.convertInto_refusedFor options image,
    Frame.exists_convertInto_eq_refused_same_iff options⟩

/-- Two rows of four pixels do not go into four rows of two, and the refusal says that the image has
to have the 32 bytes that it has. -/
theorem convertInto_not_truthful_transposed :
    ∃ image, Image.make ⟨2, 4⟩ 3 (Array.replicate 12 ⟨9, 9, 9, 9⟩) = .ok image ∧
      ((⟨⟨4, 2⟩, .y8, #[1, 2, 3, 4, 5, 6, 7, 8]⟩ : Frame).convertInto {} image).result =
        .refused (.malformed (.wrongDestination 32 32)) image ∧
      ∀ sourceSize destinationSize,
        ¬ (ConversionError.malformed (.wrongDestination 32 32)).Truthful sourceSize
          destinationSize := by
  obtain ⟨image, hmake⟩ : ∃ image,
      Image.make ⟨2, 4⟩ 3 (Array.replicate 12 ⟨9, 9, 9, 9⟩) = .ok image := ⟨_, rfl⟩
  obtain ⟨-, hdims, -⟩ := Image.eq_of_make_eq_ok hmake
  have hshape : (⟨⟨4, 2⟩, .y8, #[1, 2, 3, 4, 5, 6, 7, 8]⟩ : Frame).DiffersInShape image := by
    rw [Frame.DiffersInShape, hdims]
    decide
  refine ⟨image, hmake, Frame.convertInto_of_differsInShape {} rfl hshape, ?_⟩
  intro sourceSize destinationSize htrue
  exact htrue.1 rfl

end FrameRgba
