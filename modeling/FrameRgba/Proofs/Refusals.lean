import FrameRgba.Proofs.Picture

/-!
# Refusals

Which conversions of whole images are refused, and why. `Dims.refusal?` gives the reasons in their
order, as conditions on natural numbers of any size. It has one overflow, that of the RGBA image:
a source never has more than four bytes for a pixel, so its size is a word whenever that of the
image is one (`Dims.checkConversion_eq_refusal?`).

Behind these reasons there are no others (`Frame.convert_result_exact`). The kernels check their
buffers again, but the checks of a frame leave nothing for them to refuse.
-/

namespace FrameRgba

namespace Dims

/-- The first reason not to convert an image of these dimensions with `stride` bytes for each pixel
of the source. -/
def refusal? (dims : Dims) (stride sourceSize destinationSize : Nat) : Option FrameError :=
  if Word.limit Word.sizeBits ≤ 4 * dims.width.toNat * dims.height.toNat then
    some (.tooLarge dims)
  else if destinationSize ≠ 4 * dims.width.toNat * dims.height.toNat then
    some (.wrongDestination (4 * dims.width.toNat * dims.height.toNat) destinationSize)
  else if sourceSize < stride * dims.width.toNat * dims.height.toNat then
    some (.shortSource (stride * dims.width.toNat * dims.height.toNat) sourceSize)
  else
    none

variable {dims : Dims} {stride sourceSize destinationSize needed : Nat}

theorem mul_width_mul_height (n : Nat) :
    n * dims.width.toNat * dims.height.toNat = dims.pixelCount * n := by
  rw [pixelCount, Nat.mul_assoc, Nat.mul_comm]

/-- The checks of a conversion refuse what `refusal?` says, and nothing else. -/
theorem checkConversion_eq_refusal? (h : stride ≤ 4) :
    dims.checkConversion stride sourceSize destinationSize =
      match dims.refusal? stride sourceSize destinationSize with
      | some error => .error error
      | none => .ok (dims.pixelCount * stride) := by
  simp only [refusal?, mul_width_mul_height, checkConversion_eq, checkSource_eq]
  have hle := Nat.mul_le_mul_left dims.pixelCount h
  by_cases hlarge : Word.limit Word.sizeBits ≤ dims.pixelCount * 4
  · simp only [if_pos hlarge]
  · -- the size of the source is below that of the image, so it cannot overflow any more
    have hsource : ¬ Word.limit Word.sizeBits ≤ dims.pixelCount * stride := by omega
    simp only [if_neg hlarge, if_neg hsource]
    by_cases hdst : destinationSize ≠ dims.pixelCount * 4
    · simp only [if_pos hdst]
    · simp only [if_neg hdst]
      by_cases hshort : sourceSize < dims.pixelCount * stride
      · simp only [if_pos hshort]
      · simp only [if_neg hshort]

/-- A write behind the checks of a conversion. -/
theorem require_checkConversion_eq {σ : Type} (h : stride ≤ 4) (dst : σ)
    (next : Outcome FrameError σ) :
    (.require (dims.checkConversion stride sourceSize destinationSize) dst fun _ => next :
      Outcome FrameError σ) =
      match dims.refusal? stride sourceSize destinationSize with
      | some error => .refused error dst
      | none => next := by
  rw [checkConversion_eq_refusal? h]
  cases dims.refusal? stride sourceSize destinationSize <;> rfl

/-- Only sizes are reasons. -/
theorem eq_of_refusal?_eq_some {error : FrameError}
    (h : dims.refusal? stride sourceSize destinationSize = some error) :
    error = .tooLarge dims ∨ (∃ expected, error = .wrongDestination expected destinationSize) ∨
      ∃ needed, error = .shortSource needed sourceSize := by
  unfold refusal? at h
  split at h
  · exact .inl (Option.some.inj h).symm
  · split at h
    · exact .inr (.inl ⟨_, (Option.some.inj h).symm⟩)
    · split at h
      · exact .inr (.inr ⟨_, (Option.some.inj h).symm⟩)
      · cases h

/-- What is known of a conversion that there is no reason to refuse. -/
theorem refusal?_eq_none_iff :
    dims.refusal? stride sourceSize destinationSize = none ↔
      dims.pixelCount * 4 < Word.limit Word.sizeBits ∧ destinationSize = dims.pixelCount * 4 ∧
        dims.pixelCount * stride ≤ sourceSize := by
  simp only [refusal?, mul_width_mul_height]
  split
  · simp only [reduceCtorEq, false_iff]
    omega
  · split
    · simp only [reduceCtorEq, false_iff]
      omega
    · split
      · simp only [reduceCtorEq, false_iff]
        omega
      · simp only [true_iff]
        omega

theorem imageSize_eq_ok_iff :
    dims.imageSize stride = .ok needed ↔
      dims.pixelCount * stride < Word.limit Word.sizeBits ∧ needed = dims.pixelCount * stride := by
  rcases Nat.lt_or_ge (dims.pixelCount * stride) (Word.limit Word.sizeBits) with hlt | hge
  · rw [imageSize_eq_of_lt hlt, Except.ok.injEq]
    exact ⟨fun h => ⟨hlt, h.symm⟩, fun h => h.2.symm⟩
  · rw [imageSize_eq_of_le hge]
    simp only [reduceCtorEq, false_iff]
    omega

/-- The checks of a conversion let pass what has a size as RGBA and as a source, and buffers for
both. -/
theorem checkConversion_eq_ok_iff_imageSize :
    dims.checkConversion stride sourceSize destinationSize = .ok needed ↔
      dims.imageSize 4 = .ok destinationSize ∧ dims.imageSize stride = .ok needed ∧
        needed ≤ sourceSize := by
  rw [checkConversion_eq_ok_iff, checkSource_eq_ok_iff, imageSize_eq_ok_iff, imageSize_eq_ok_iff]
  constructor
  · rintro ⟨himage, hdst, hsource, hle, rfl⟩
    exact ⟨⟨himage, hdst⟩, ⟨hsource, rfl⟩, hle⟩
  · rintro ⟨⟨himage, hdst⟩, ⟨hsource, rfl⟩, hle⟩
    exact ⟨himage, hdst, hsource, hle, rfl⟩

end Dims

/-- Gray samples are refused for their sizes or are written. -/
theorem GrayDepth.convert_eq_refusal? (depth : GrayDepth) (options : Options) (dims : Dims)
    (src dst : Bytes) :
    depth.convert options dims src dst =
      match dims.refusal? depth.bytes src.size dst.size with
      | some error => .refused error dst
      | none => .done (raster ((Layout.gray depth).pixel options src) 0 dims.pixelCount).toArray := by
  have hbytes : depth.bytes ≤ 4 := by cases depth <;> decide
  rw [convert_eq, Dims.require_checkConversion_eq hbytes]

/-- So is a frame whose format has been looked up. -/
theorem Converter.convert_eq_refusal? (converter : Converter) (dims : Dims) (src dst : Bytes) :
    converter.convert dims src dst =
      match dims.refusal? converter.stride src.size dst.size with
      | some error => .refused error dst
      | none => .done (converter.image dims src) := by
  rw [convert_eq, Dims.require_checkConversion_eq converter.stride_le]

namespace Frame

variable {options : Options} {needed : Nat}

theorem sourceSize_eq_ok_iff {frame : Frame} :
    frame.sourceSize options = .ok needed ↔
      ∃ layout, frame.format.layout? = some layout ∧
        frame.dims.imageSize (layout.stride options) = .ok needed := by
  rw [sourceSize]
  cases frame.format.layout? with
  | none => simp
  | some layout =>
    simp only [Option.some.injEq, exists_eq_left']
    cases frame.dims.imageSize (layout.stride options) <;> simp [Except.mapError]

theorem convert_result_eq (frame : Frame) (options : Options) (dst : Bytes) :
    (frame.convert options dst).result =
      match frame.format.layout? with
      | none => .refused (.unsupported frame.format) dst
      | some layout =>
        match frame.dims.refusal? (layout.stride options) frame.raw.size dst.size with
        | some error => .refused (.malformed error) dst
        | none => .done (raster (layout.pixel options frame.raw) 0 frame.dims.pixelCount).toArray := by
  show frame.withConverter options dst _ = _
  cases hlayout : frame.format.layout? with
  | none => rw [withConverter, Converter.ofFormat_eq_error hlayout, Outcome.require_error]
  | some layout =>
    rw [withConverter_eq hlayout, Converter.convert_eq_refusal?]
    dsimp only [Converter.stride]
    cases frame.dims.refusal? (layout.stride options) frame.raw.size dst.size <;> rfl

/-- A frame is converted exactly if it has a size as RGBA, which is the size of the destination, and
a size as a source, which its bytes reach. -/
theorem exists_convert_eq_done_iff {frame : Frame} {dst : Bytes} :
    (∃ out, (frame.convert options dst).result = .done out) ↔
      frame.rgbaSize = .ok dst.size ∧
        ∃ needed, frame.sourceSize options = .ok needed ∧ needed ≤ frame.raw.size := by
  simp only [convert_eq_done_iff, Dims.checkConversion_eq_ok_iff_imageSize, sourceSize_eq_ok_iff,
    rgbaSize]
  constructor
  · rintro ⟨out, layout, needed, hlayout, ⟨hdst, hsource, hle⟩, -⟩
    exact ⟨hdst, needed, ⟨layout, hlayout, hsource⟩, hle⟩
  · rintro ⟨hdst, needed, ⟨layout, hlayout, hsource⟩, hle⟩
    exact ⟨_, layout, needed, hlayout, ⟨hdst, hsource, hle⟩, rfl⟩

/-- A frame that is refused for its numbers is refused for a size. -/
theorem eq_of_convert_eq_refused {frame : Frame} {dst after : Bytes} {error : FrameError}
    (h : (frame.convert options dst).result = .refused (.malformed error) after) :
    error = .tooLarge frame.dims ∨ (∃ expected, error = .wrongDestination expected dst.size) ∨
      ∃ needed, error = .shortSource needed frame.raw.size := by
  rw [convert_result_eq] at h
  cases hlayout : frame.format.layout? with
  | none => simp [hlayout] at h
  | some layout =>
    rw [hlayout] at h
    dsimp only at h
    cases hrefusal : frame.dims.refusal? (layout.stride options) frame.raw.size dst.size with
    | none => simp [hrefusal] at h
    | some found =>
      rw [hrefusal] at h
      cases h
      exact Dims.eq_of_refusal?_eq_some hrefusal

/-- The kernels refuse nothing that comes from a whole frame, and such a frame has neither rows
outside nor the lack of columns as a reason. -/
theorem convert_result_ne_refused (frame : Frame) (options : Options) (dst after : Bytes) :
    (∀ error, (frame.convert options dst).result ≠ .refused (.malformed (.kernel error)) after) ∧
      (∀ rows height,
        (frame.convert options dst).result ≠ .refused (.malformed (.rowsOutside rows height)) after) ∧
      ∀ height,
        (frame.convert options dst).result ≠ .refused (.malformed (.noColumns height)) after := by
  refine ⟨?_, ?_, ?_⟩
  · intro error h
    simpa using eq_of_convert_eq_refused h
  · intro rows height h
    simpa using eq_of_convert_eq_refused h
  · intro height h
    simpa using eq_of_convert_eq_refused h

/-- What becomes of a conversion of a frame: it is refused for its format, or for the first size
that is wrong, and else it is done. So it is done exactly if the sizes that the frame itself reports
go with the buffers, and the checks that follow refuse nothing. Gray images are refused for the same
sizes in the same order. -/
theorem convert_result_exact (frame : Frame) (options : Options) (dst : Bytes) :
    ((frame.convert options dst).result =
      match frame.format.layout? with
      | none => .refused (.unsupported frame.format) dst
      | some layout =>
        match frame.dims.refusal? (layout.stride options) frame.raw.size dst.size with
        | some error => .refused (.malformed error) dst
        | none => .done (raster (layout.pixel options frame.raw) 0 frame.dims.pixelCount).toArray) ∧
      ((∃ out, (frame.convert options dst).result = .done out) ↔
        frame.rgbaSize = .ok dst.size ∧
          ∃ needed, frame.sourceSize options = .ok needed ∧ needed ≤ frame.raw.size) ∧
      (∀ after,
        (∀ error, (frame.convert options dst).result ≠ .refused (.malformed (.kernel error)) after) ∧
        (∀ rows height, (frame.convert options dst).result ≠
          .refused (.malformed (.rowsOutside rows height)) after) ∧
        ∀ height,
          (frame.convert options dst).result ≠ .refused (.malformed (.noColumns height)) after) ∧
      ∀ (depth : GrayDepth) (dims : Dims) (src : Bytes),
        depth.convert options dims src dst =
          match dims.refusal? depth.bytes src.size dst.size with
          | some error => .refused error dst
          | none =>
            .done (raster ((Layout.gray depth).pixel options src) 0 dims.pixelCount).toArray :=
  ⟨convert_result_eq frame options dst, exists_convert_eq_done_iff,
    convert_result_ne_refused frame options dst,
    fun depth dims src => depth.convert_eq_refusal? options dims src dst⟩

end Frame

end FrameRgba
